import TickChart.Feed.Backoff
import TickChart.Text.Blank
import TickChart.Text.Integer

/-!
# Settings

* `FeedSettings`, `ApiSettings`, `Settings`: the settings of the live feed, of the backend, and of
  the whole program.
* `standard`: the settings where nothing else is said.
* `Settings.ofEnvironment`: the settings that the environment asks for. A variable that cannot be
  read counts as not set.
* `nonZero`: a period of a timer, which must not be zero.
-/

namespace TickChart

/-- The shortest period of a timer (`MIN_INTERVAL`). -/
def shortestPeriod : Duration := .ofNanos 1000000

/-- `non_zero`: a period that is not shorter than the shortest one. -/
def nonZero (period : Duration) : Duration := period.max shortestPeriod

/-- The settings of the live feed (`FeedConfig`). -/
structure FeedSettings where
  url : String
  /-- The time between two pings, which keep the connection alive. -/
  pingInterval : Duration
  /-- The silence after which a connection counts as dead. -/
  readTimeout : Duration
  reconnect : ReconnectPolicy
  /-- The ticks that wait to be handled. -/
  bufferSize : Nat
deriving DecidableEq

namespace FeedSettings

/-- The feed at its usual address. -/
def standard : FeedSettings where
  url := "wss://ws-feed.exchange.coinbase.com"
  pingInterval := .ofSeconds 30
  readTimeout := .ofSeconds 120
  reconnect := .standard
  bufferSize := 1000

/-- `FeedConfig.new`: the feed at another address. -/
def atUrl (url : String) : FeedSettings := { standard with url }

/-- `with_ping_interval`: another time between pings. -/
def withPingInterval (s : FeedSettings) (period : Duration) : FeedSettings :=
  { s with pingInterval := nonZero period }

/-- `with_read_timeout`: another silence after which a connection counts as dead. -/
def withReadTimeout (s : FeedSettings) (readTimeout : Duration) : FeedSettings :=
  { s with readTimeout }

/-- `with_reconnect`: other delays between connections. -/
def withReconnect (s : FeedSettings) (reconnect : ReconnectPolicy) : FeedSettings :=
  { s with reconnect }

/-- `with_channel_buffer_size`: room for another number of ticks. -/
def withBufferSize (s : FeedSettings) (bufferSize : Nat) : FeedSettings := { s with bufferSize }

end FeedSettings

/-- The settings of the backend (`ApiConfig`). -/
structure ApiSettings where
  baseUrl : String
  /-- The exchange whose candles are asked for. -/
  exchange : String
  /-- The number of candles that one request asks for at most. -/
  maxPoints : Nat
  requestTimeout : Duration
deriving DecidableEq

namespace ApiSettings

/-- A backend on the same machine. -/
def standard : ApiSettings where
  baseUrl := "http://localhost:8000/api"
  exchange := "coinbase"
  maxPoints := 2000
  requestTimeout := .ofSeconds 10

/-- `ApiConfig.new`: the backend at another address. -/
def atUrl (baseUrl : String) : ApiSettings := { standard with baseUrl }

/-- `with_exchange`: another exchange. -/
def withExchange (s : ApiSettings) (exchange : String) : ApiSettings := { s with exchange }

/-- `with_max_points`: another number of candles. -/
def withMaxPoints (s : ApiSettings) (maxPoints : Nat) : ApiSettings := { s with maxPoints }

/-- `with_request_timeout`: another time after which a request is given up. -/
def withRequestTimeout (s : ApiSettings) (requestTimeout : Duration) : ApiSettings :=
  { s with requestTimeout }

end ApiSettings

/-- The settings of the program (`EngineConfig`). -/
structure Settings where
  feed : FeedSettings
  api : ApiSettings
  /-- The time between two polls of the indicators. -/
  pollInterval : Duration
  /-- The commands that wait to be handled. -/
  commandBuffer : Nat
deriving DecidableEq

/-- `parse_trimmed`: a number up to `top`, without the blanks around it. -/
def readNumber? (top : Nat) (value : String) : Option Nat :=
  Text.readNat? top (Text.trim value.toList)

/-- A number of seconds in 64 bits. -/
def readSeconds? (value : String) : Option Nat := readNumber? (twoTo 64 - 1) value

namespace Settings

/-- The settings where nothing else is said. -/
def standard : Settings where
  feed := .standard
  api := .standard
  pollInterval := .ofSeconds 60
  commandBuffer := 64

/-- `with_feed`: another feed. -/
def withFeed (s : Settings) (feed : FeedSettings) : Settings := { s with feed }

/-- `with_api`: another backend. -/
def withApi (s : Settings) (api : ApiSettings) : Settings := { s with api }

/-- `with_indicator_poll_interval`: another time between polls. -/
def withPollInterval (s : Settings) (period : Duration) : Settings :=
  { s with pollInterval := nonZero period }

/-- `from_lookup`: the settings that variables ask for. -/
def ofEnvironment (lookup : String → Option String) : Settings :=
  let reconnect : ReconnectPolicy :=
    { ReconnectPolicy.standard with
      longest := (((lookup "RECONNECT_MAX_SECS").bind readSeconds?).map Duration.ofSeconds).getD
        ReconnectPolicy.standard.longest }
  { feed :=
      { FeedSettings.standard with
        url := (lookup "FEED_URL").getD FeedSettings.standard.url
        reconnect }
    api :=
      { ApiSettings.standard with
        baseUrl := (lookup "API_URL").getD ApiSettings.standard.baseUrl
        exchange := (lookup "EXCHANGE").getD ApiSettings.standard.exchange
        maxPoints := ((lookup "MAX_POINTS").bind (readNumber? (twoTo 32 - 1))).getD
          ApiSettings.standard.maxPoints }
    pollInterval :=
      ((((lookup "INDICATOR_POLL_SECS").bind readSeconds?).filter (0 < ·)).map
        Duration.ofSeconds).getD standard.pollInterval
    commandBuffer := standard.commandBuffer }

end Settings

end TickChart
