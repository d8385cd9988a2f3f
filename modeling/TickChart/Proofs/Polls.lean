import TickChart.Proofs.Moments

/-!
# Indicators in the order of their polls

The results of polls wait in one queue, and nothing in them says of which poll they are. They reach
the engine in the order of the polls all the same: a poll is started only when the last one has sent
its result or is given up, and what was given up sends nothing.

* `Desk.OnePoll`: no poll is under way but the last one.
* `Desk.PollEffect.onePoll`, `onward`, `numbered`, `queue`, `sent_cases`, `taken_cases`: what every
  moment does to the polls, and to the queue of their results.
* `PollLog.Kept`: what every moment keeps of a log.
* `PollsInOrder`: one poll at a time, and the results in the order of their polls.
  `PollLog.polls_in_order` proves it of every log.
-/

namespace TickChart

namespace Desk

variable {d : Desk}

/-- No poll is under way but the one that the engine has started last. While it runs, that is the
last of all. -/
structure OnePoll (d : Desk) : Prop where
  sole : Sole PollTask.underway? (d.engine.poll.map (·, ())) d.engine.polls d.polls
  last : d.isRunning → d.engine.polls = d.engine.poll.elim 0 (· + 1)

theorem isRunning_congr {d d' : Desk} (h : d'.condition = d.condition) :
    d'.isRunning = d.isRunning := by
  rw [isRunning, h, isRunning]

/-- While the engine runs, a poll that is under way is the last of all. -/
theorem OnePoll.length_eq (h : d.OnePoll) (hrun : d.isRunning) {n : Nat} {symbol : Symbol}
    (hn : d.polls[n]? = some ⟨symbol, .underway⟩) : d.polls.length = n + 1 := by
  have hheld := h.sole.only n () (by rw [hn]; rfl)
  obtain ⟨m, hm, heq⟩ := Option.map_eq_some_iff.mp hheld
  obtain ⟨rfl, -⟩ := Prod.mk.inj heq
  rw [h.sole.length, h.last hrun, hm]
  rfl

namespace PollEffect

variable {s : PollStep}

theorem onePoll (h : d.PollEffect s) (hd : d.OnePoll) : s.desk.OnePoll := by
  cases h with
  | aside h horders hblank =>
    refine ⟨?_, fun hrun => ?_⟩
    · rw [h.poll, h.count, h.polls]
      exact hd.sole
    · obtain ⟨-, hcondition⟩ | ⟨-, hend⟩ := h.waits
      · rw [h.poll, h.count]
        exact hd.last (isRunning_congr hcondition ▸ hrun)
      · exact absurd hrun hend
  | start found symbol hfound hpoll hcount hpolls horders hindicators hcondition hblank =>
    have hnone := hd.sole.leavePoll fun i b hi => hfound (hd.sole.pollUnderway hi)
    refine ⟨?_, fun _ => by rw [hpoll, hcount]; rfl⟩
    rw [hpoll, hcount, hpolls, ← pollsAfterAll_pollOrders, horders, pollsAfterAll_append]
    exact hnone.concat rfl
  | send poll symbol result hrun hpoll =>
    exact ⟨hd.sole.of_fewer (.finish PollTask.underway?_answer _ _), hd.last⟩
  | unheard poll => exact ⟨hd.sole.of_fewer (.finish PollTask.underway?_answer _ _), hd.last⟩
  | take i rest hrun hwaits => exact ⟨hd.sole, hd.last⟩
  | stop =>
    have hnone := hd.sole.leavePoll fun i b hi => hd.sole.pollUnderway hi
    rw [afterShutdown_eq]
    exact ⟨hnone, nofun⟩

/-- The polls that are started get the next numbers. -/
theorem numbered (h : d.PollEffect s) (hd : d.OnePoll) {orders : List Order}
    (hn : pollsOf orders = numbered (d.polls.map PollTask.symbol)) :
    pollsOf (orders ++ s.orders) = TickChart.numbered (s.desk.polls.map PollTask.symbol) := by
  rw [pollsOf_append, hn]
  cases h with
  | aside h horders hblank => rw [pollsOf_of_pollOrders horders, h.polls, List.append_nil]
  | @start d' more found symbol hfound hpoll hcount hpolls horders hindicators hcondition hblank =>
    have hone : pollsOf more = [(d.polls.length, symbol)] := by
      rw [← pollsOf_pollOrders, horders, pollsOf_append, Engine.pollsOf_leavePoll, hd.sole.length]
      rfl
    rw [hpolls, symbols_pollsAfterAll, hone, List.map_singleton, numbered_concat, List.length_map]
  | send poll symbol result hrun hpoll =>
    rw [symbols_modify (f := .answer) fun _ => rfl]
    exact List.append_nil _
  | unheard poll =>
    rw [symbols_modify (f := .answer) fun _ => rfl]
    exact List.append_nil _
  | take i rest hrun hwaits =>
    rw [pollsOf_of_pollOrders (pollOrders_calls (d.engine.onIndicators_calls _ _)),
      List.append_nil]
  | stop =>
    rw [afterShutdown_eq, pollsOf_append, pollsOf_of_pollOrders d.engine.pollOrders_closing,
      symbols_pollsAfterAll, Engine.pollsOf_leavePoll]
    simp

/-- What was answered stays so. -/
theorem onward (h : d.PollEffect s) : Onward d.polls s.desk.polls := by
  cases h with
  | aside h horders hblank =>
    rw [h.polls]
    exact .refl d.polls
  | start found symbol hfound hpoll hcount hpolls horders hindicators hcondition hblank =>
    rw [hpolls]
    exact onward_pollsAfterAll d.polls _
  | send poll symbol result hrun hpoll => exact .modify (fun _ => rfl) d.polls poll
  | unheard poll => exact .modify (fun _ => rfl) d.polls poll
  | take i rest hrun hwaits => exact .refl d.polls
  | stop =>
    rw [afterShutdown_eq]
    exact onward_pollsAfterAll d.polls _

/-- The results wait in a queue, which is lost when the engine ends. -/
theorem queue (h : d.PollEffect s) (hend : ¬ d.isRunning → d.indicators = []) :
    s.desk.indicators =
      if s.desk.isRunning then d.indicators.drop s.taken ++ s.sent.map Prod.snd else [] := by
  have hsame : ∀ d' : Desk, d'.indicators = d.indicators → d'.condition = d.condition →
      d'.indicators = if d'.isRunning then d.indicators else [] := by
    intro d' hindicators hcondition
    rw [isRunning_congr hcondition, hindicators]
    split
    · rfl
    · next hrun => exact hend hrun
  cases h with
  | aside h horders hblank =>
    obtain ⟨hindicators, hcondition⟩ | ⟨hindicators, hend'⟩ := h.waits
    · simpa using hsame _ hindicators hcondition
    · rw [hindicators, if_neg hend']
  | start found symbol hfound hpoll hcount hpolls horders hindicators hcondition hblank =>
    simpa using hsame _ hindicators hcondition
  | send poll symbol result hrun hpoll => exact (if_pos hrun).symm
  | unheard poll =>
    simpa using hsame { d with polls := d.polls.modify poll .answer } rfl rfl
  | take i rest hrun hwaits =>
    refine Eq.trans ?_ (if_pos hrun).symm
    simp [hwaits]
  | stop =>
    rw [afterShutdown_eq]
    rfl

/-- What is sent is sent by one poll, which was under way until then. -/
theorem sent_cases (h : d.PollEffect s) :
    s.sent = [] ∨ ∃ n i, s.sent = [(n, i)] ∧ d.isRunning ∧
      d.polls[n]? = some ⟨i.symbol, .underway⟩ ∧ s.desk.polls[n]? = some ⟨i.symbol, .answered⟩ := by
  cases h with
  | send poll symbol result hrun hpoll =>
    refine .inr ⟨poll, ⟨symbol, result⟩, rfl, hrun, hpoll, ?_⟩
    show (d.polls.modify poll .answer)[poll]? = _
    rw [List.getElem?_modify_eq, hpoll]
    rfl
  | _ => exact .inl rfl

/-- What the engine takes is the result that has waited longest, and it handles that. Of another
result it shows nothing. -/
theorem taken_cases (h : d.PollEffect s) :
    s.taken = 0 ∧ OnlyBlank s.orders ∨ s.taken = 1 ∧ ∃ i rest, d.indicators = i :: rest ∧
      s.orders = d.engine.onIndicators i.symbol i.result := by
  cases h with
  | aside h horders hblank => exact .inl ⟨rfl, hblank⟩
  | start found symbol hfound hpoll hcount hpolls horders hindicators hcondition hblank =>
    exact .inl ⟨rfl, hblank⟩
  | send poll symbol result hrun hpoll => exact .inl ⟨rfl, onlyBlank_of_nil rfl⟩
  | unheard poll => exact .inl ⟨rfl, onlyBlank_of_nil rfl⟩
  | take i rest hrun hwaits => exact .inr ⟨rfl, i, rest, hwaits, rfl⟩
  | stop =>
    refine .inl ⟨rfl, onlyBlank_of_nil ?_⟩
    rw [afterShutdown_eq]
    exact (d.engine.tellNothing_closing.append
      (d.engine.tellNothing_leavePoll d.pollUnderway)).overlays

end PollEffect

end Desk

namespace PollLog

variable {log : PollLog} {s : PollStep}

/-- What every moment keeps of a log. -/
structure Kept (log : PollLog) : Prop where
  onePoll : log.desk.OnePoll
  numbered : pollsOf log.orders = numbered (log.desk.polls.map PollTask.symbol)
  queue : log.waiting.map Prod.snd = log.desk.indicators
  ended : ¬ log.desk.isRunning → log.waiting = []
  answered : ∀ p ∈ log.results, log.desk.polls[p.1]? = some ⟨p.2.symbol, .answered⟩
  ascending : log.results.Pairwise fun p q => p.1 < q.1
  handled : ∀ d ∈ log.delivered,
    d.orders = d.engine.onIndicators d.indicators.symbol d.indicators.result
  shown : log.shown.map Prod.snd = overlaysOf log.orders
  blank : ∀ overlay, (none, overlay) ∈ log.shown → overlay = .empty overlay.symbol
  source : ∀ n overlay, (some n, overlay) ∈ log.shown →
    ∃ d ∈ log.delivered, d.poll = n ∧ overlay ∈ overlaysOf d.orders
  drawn : log.drawn.Sublist (log.delivered.map Delivery.poll)

/-- No result changes its place, and those that are sent come behind the others. -/
theorem results_append (log : PollLog) (s : PollStep) :
    (log.append s).results <+: log.results ++ s.sent := by
  have hresults : (log.append s).results = log.delivered.map Delivery.result ++
      log.waiting.take s.taken ++
        if s.desk.isRunning then log.waiting.drop s.taken ++ s.sent else [] := by
    have hid : Delivery.result ∘ (fun p : Nat × PolledIndicators =>
        (⟨p.1, p.2, log.desk.engine, s.orders⟩ : Delivery)) = id := rfl
    rw [results, append, List.map_append, List.map_map, hid, List.map_id]
  have hsplit : log.results ++ s.sent = log.delivered.map Delivery.result ++
      log.waiting.take s.taken ++ (log.waiting.drop s.taken ++ s.sent) := by
    rw [results, ← List.append_assoc, List.append_assoc _ (List.take ..), List.take_append_drop]
  rw [hresults, hsplit, List.prefix_append_right_inj]
  split
  · exact List.prefix_rfl
  · exact List.nil_prefix

/-- A poll that is under way comes after all of which there are results. -/
theorem Kept.lt_of_underway (h : Kept log) (hrun : log.desk.isRunning) {n : Nat} {symbol : Symbol}
    (hn : log.desk.polls[n]? = some ⟨symbol, .underway⟩) {p : Nat × PolledIndicators}
    (hp : p ∈ log.results) : p.1 < n := by
  have hanswered := h.answered p hp
  have hlt : p.1 < n + 1 := by
    rw [← h.onePoll.length_eq hrun hn]
    exact (List.getElem?_eq_some_iff.mp hanswered).1
  have hne : p.1 ≠ n := by
    rintro rfl
    rw [hn] at hanswered
    cases hanswered
  omega

theorem Kept.answered_append (h : Kept log) (he : log.desk.PollEffect s)
    {p : Nat × PolledIndicators} (hp : p ∈ (log.append s).results) :
    s.desk.polls[p.1]? = some ⟨p.2.symbol, .answered⟩ := by
  rcases List.mem_append.mp ((log.results_append s).subset hp) with hold | hnew
  · exact he.onward p.1 p.2.symbol (h.answered p hold)
  · obtain hnone | ⟨n, i, hone, -, -, hanswered⟩ := he.sent_cases
    · rw [hnone] at hnew
      cases hnew
    · rw [hone, List.mem_singleton] at hnew
      rw [hnew]
      exact hanswered

theorem Kept.ascending_append (h : Kept log) (he : log.desk.PollEffect s) :
    (log.append s).results.Pairwise fun p q => p.1 < q.1 := by
  refine List.Pairwise.sublist (log.results_append s).sublist ?_
  obtain hnone | ⟨n, i, hone, hrun, hunderway, -⟩ := he.sent_cases
  · rw [hnone, List.append_nil]
    exact h.ascending
  · rw [hone, List.pairwise_append]
    refine ⟨h.ascending, List.pairwise_singleton .., fun p hp q hq => ?_⟩
    rw [List.mem_singleton.mp hq]
    exact h.lt_of_underway hrun hunderway hp

/-- A result is delivered, or none is, and then only empty overlays are shown. -/
theorem Kept.append_cases (h : Kept log) (he : log.desk.PollEffect s) :
    (log.source? s = none ∧ (log.append s).delivered = log.delivered ∧ Desk.OnlyBlank s.orders) ∨
    ∃ n i, log.source? s = some n ∧
      (log.append s).delivered = log.delivered ++ [⟨n, i, log.desk.engine, s.orders⟩] ∧
      s.orders = log.desk.engine.onIndicators i.symbol i.result := by
  simp only [append, source?]
  obtain ⟨hnone, hblank⟩ | ⟨hone, i, rest, hwaits, horders⟩ := he.taken_cases
  · rw [hnone]
    exact .inl ⟨rfl, List.append_nil _, hblank⟩
  · have hqueue := h.queue
    rw [hwaits] at hqueue
    obtain ⟨first, others, hfirst, rfl, -⟩ := List.map_eq_cons_iff.mp hqueue
    rw [hone, hfirst]
    exact .inr ⟨first.1, first.2, rfl, rfl, horders⟩

theorem mem_shown_append {source? : Option Nat} {overlay : Overlay} :
    (source?, overlay) ∈ (log.append s).shown ↔
      (source?, overlay) ∈ log.shown ∨ overlay ∈ overlaysOf s.orders ∧ log.source? s = source? := by
  simp [append, and_comm]

theorem Kept.handled_append (h : Kept log) (he : log.desk.PollEffect s) {d : Delivery}
    (hd : d ∈ (log.append s).delivered) :
    d.orders = d.engine.onIndicators d.indicators.symbol d.indicators.result := by
  obtain ⟨-, hdelivered, -⟩ | ⟨n, i, -, hdelivered, horders⟩ := h.append_cases he
  · rw [hdelivered] at hd
    exact h.handled d hd
  · rw [hdelivered] at hd
    rcases List.mem_append.mp hd with hold | hnew
    · exact h.handled d hold
    · rw [List.mem_singleton.mp hnew]
      exact horders

theorem Kept.shown_append (h : Kept log) (s : PollStep) :
    (log.append s).shown.map Prod.snd = overlaysOf (log.append s).orders := by
  simp only [append, List.map_append, List.map_map, h.shown, overlaysOf_append]
  exact congrArg _ (List.map_id _)

theorem Kept.blank_append (h : Kept log) (he : log.desk.PollEffect s) {overlay : Overlay}
    (hshown : (none, overlay) ∈ (log.append s).shown) : overlay = .empty overlay.symbol := by
  rcases mem_shown_append.mp hshown with hold | ⟨hmem, hsource⟩
  · exact h.blank overlay hold
  · obtain ⟨-, -, hblank⟩ | ⟨n, i, hn, -, -⟩ := h.append_cases he
    · exact hblank overlay hmem
    · exact nomatch hn.symm.trans hsource

theorem Kept.source_append (h : Kept log) (he : log.desk.PollEffect s) {n : Nat} {overlay : Overlay}
    (hshown : (some n, overlay) ∈ (log.append s).shown) :
    ∃ d ∈ (log.append s).delivered, d.poll = n ∧ overlay ∈ overlaysOf d.orders := by
  rcases mem_shown_append.mp hshown with hold | ⟨hmem, hsource⟩
  · obtain ⟨d, hd, hfrom⟩ := h.source n overlay hold
    exact ⟨d, List.mem_append_left _ hd, hfrom⟩
  · obtain ⟨hnone, -, -⟩ | ⟨m, i, hm, hdelivered, -⟩ := h.append_cases he
    · exact nomatch hnone.symm.trans hsource
    · obtain rfl := Option.some.inj (hm.symm.trans hsource)
      rw [hdelivered]
      exact ⟨_, List.mem_append_right _ (List.mem_singleton_self _), rfl, hmem⟩

/-- One result makes one overlay at most. -/
theorem length_overlaysOf_onIndicators (e : Engine) (symbol : Symbol) (result : PollResult) :
    (overlaysOf (e.onIndicators symbol result)).length ≤ 1 := by
  have htells := (e.handle_tells (.indicators symbol result)).1
  rw [show overlaysOf (e.onIndicators symbol result) = _ from htells]
  cases result with
  | error error => exact Nat.zero_le 1
  | ok points =>
    simp only [Engine.overlaysBy]
    split
    · exact Nat.le_refl 1
    · exact Nat.zero_le 1

theorem drawn_append (log : PollLog) (s : PollStep) :
    (log.append s).drawn =
      log.drawn ++ (overlaysOf s.orders).filterMap fun _ => log.source? s := by
  rw [drawn, append, List.filterMap_append, List.filterMap_map]
  rfl

theorem Kept.drawn_append (h : Kept log) (he : log.desk.PollEffect s) :
    (log.append s).drawn.Sublist ((log.append s).delivered.map Delivery.poll) := by
  rw [PollLog.drawn_append]
  obtain ⟨hnone, hdelivered, -⟩ | ⟨n, i, hn, hdelivered, horders⟩ := h.append_cases he
  · rw [hnone, hdelivered, List.filterMap_none, List.append_nil]
    exact h.drawn
  · have hone := length_overlaysOf_onIndicators log.desk.engine i.symbol i.result
    rw [← horders] at hone
    rw [hn, hdelivered, List.map_append]
    refine h.drawn.append ?_
    match overlaysOf s.orders, hone with
    | [], _ => exact List.nil_sublist _
    | [_], _ => exact List.Sublist.refl _

theorem Kept.append (h : Kept log) (he : log.desk.PollEffect s) : Kept (log.append s) where
  onePoll := he.onePoll h.onePoll
  numbered := he.numbered h.onePoll h.numbered
  queue := by
    have hend : ¬ log.desk.isRunning → log.desk.indicators = [] := by
      intro hend
      rw [← h.queue, h.ended hend]
      rfl
    show (if s.desk.isRunning then log.waiting.drop s.taken ++ s.sent else []).map Prod.snd =
      s.desk.indicators
    rw [he.queue hend, ← h.queue]
    split
    · rw [List.map_append, List.map_drop]
    · rfl
  ended := fun hend => if_neg hend
  answered := fun _ hp => h.answered_append he hp
  ascending := h.ascending_append he
  handled := fun _ hd => h.handled_append he hd
  shown := h.shown_append s
  blank := fun _ hshown => h.blank_append he hshown
  source := fun _ _ hshown => h.source_append he hshown
  drawn := h.drawn_append he

theorem kept_initial (settings : Settings) : Kept (initial settings) where
  onePoll := ⟨⟨rfl, fun _ _ hb => nomatch hb⟩, fun _ => rfl⟩
  numbered := rfl
  queue := rfl
  ended := fun _ => rfl
  answered := fun _ hp => nomatch hp
  ascending := .nil
  handled := fun _ hd => nomatch hd
  shown := rfl
  blank := fun _ hshown => nomatch hshown
  source := fun _ _ hshown => nomatch hshown
  drawn := .slnil

theorem Kept.after (h : Kept log) (moments : List Moment) : Kept (log.after moments) := by
  induction moments generalizing log with
  | nil => exact h
  | cons m moments ih => exact ih (h.append (log.desk.pollEffect_polled m))

/-- There is one poll at a time, and the results come to the engine in the order in which their
polls were started. -/
structure PollsInOrder (log : PollLog) : Prop where
  /-- The polls are numbered as they were started. -/
  numbered : pollsOf log.orders = numbered (log.desk.polls.map PollTask.symbol)
  /-- At most one is under way. -/
  one : ∀ (m n : Nat) (s t : PollTask), log.desk.polls[m]? = some s → log.desk.polls[n]? = some t →
    s.state = .underway → t.state = .underway → m = n
  /-- The timer starts none while one is under way, or while the task of the last one lingers. -/
  timer : ∀ lingers, lingers = true ∨ (∃ t ∈ log.desk.polls, t.state = .underway) →
    log.desk.polls ≠ [] → (log.desk.stepAt ⟨.timer, lingers⟩).2 = []
  /-- It does start one, when it is due, while none is. -/
  starts : ∀ symbol, log.desk.isRunning → log.desk.nextPoll ≤ log.desk.now →
    log.desk.engine.symbol? = some symbol → (∀ t ∈ log.desk.polls, t.state ≠ .underway) →
    (log.desk.stepAt ⟨.timer, false⟩).2 = [.poll log.desk.polls.length symbol]
  /-- One that is forced is started in any case. -/
  forced : ∀ m symbol, log.desk.isRunning → log.desk.forcedBy m.occurrence = some symbol →
    pollsOf (log.desk.stepAt m).2 = [(log.desk.polls.length, symbol)]
  /-- The results that wait are those of the polls with the numbers beside them. -/
  queue : log.waiting.map Prod.snd = log.desk.indicators
  /-- A result is of the symbol for which its poll was started. -/
  own : ∀ p ∈ log.results, log.desk.polls[p.1]? = some ⟨p.2.symbol, .answered⟩
  /-- What was delivered was handled by the engine. -/
  handled : ∀ d ∈ log.delivered,
    d.orders = d.engine.onIndicators d.indicators.symbol d.indicators.result
  /-- The result that has waited longest is delivered next. -/
  next : ∀ n i rest lingers, log.waiting = (n, i) :: rest →
    (log.append (log.desk.polled ⟨.takeIndicators, lingers⟩)).delivered.map Delivery.result =
      log.delivered.map Delivery.result ++ [(n, i)]
  /-- The results come in the order of their polls, those that were delivered and behind them those
  that wait, and no poll has two. -/
  inOrder : log.results.Pairwise fun p q => p.1 < q.1
  /-- All overlays that the engine had shown are in the log. -/
  shown : log.shown.map Prod.snd = overlaysOf log.orders
  /-- One that is not of a poll is empty. -/
  blank : ∀ overlay, (none, overlay) ∈ log.shown → overlay = .empty overlay.symbol
  /-- One that is of a poll was shown when its result was delivered. -/
  source : ∀ n overlay, (some n, overlay) ∈ log.shown →
    ∃ d ∈ log.delivered, d.poll = n ∧ overlay ∈ overlaysOf d.orders
  /-- It takes the place of those of older polls only. -/
  newer : log.drawn.Pairwise (· < ·)

theorem Kept.one (h : Kept log) {m n : Nat} {s t : PollTask} (hm : log.desk.polls[m]? = some s)
    (hn : log.desk.polls[n]? = some t) (hs : s.state = .underway) (ht : t.state = .underway) :
    m = n := by
  have hheld : ∀ {i : Nat} {u : PollTask}, log.desk.polls[i]? = some u → u.state = .underway →
      log.desk.engine.poll.map (·, ()) = some (i, ()) := by
    intro i u hi hu
    exact h.onePoll.sole.only i () (by rw [hi, Option.bind_some, PollTask.underway?, if_pos hu])
  have heq := (hheld hm hs).symm.trans (hheld hn ht)
  exact congrArg Prod.fst (Option.some.inj heq)

/-- The timer finds the last poll under way. -/
theorem Kept.timer (h : Kept log) {lingers : Bool}
    (hfound : lingers = true ∨ ∃ t ∈ log.desk.polls, t.state = .underway)
    (hsome : log.desk.polls ≠ []) : (log.desk.stepAt ⟨.timer, lingers⟩).2 = [] := by
  have htold : (log.desk.pollUnderway || lingers) = true := by
    rcases hfound with rfl | ⟨t, ht, hstate⟩
    · exact Bool.or_true _
    · obtain ⟨n, hn⟩ := List.mem_iff_getElem?.mp ht
      refine Bool.or_inl (h.onePoll.sole.pollUnderway (i := n) (b := ()) ?_)
      rw [hn, Option.bind_some, PollTask.underway?, if_pos hstate]
  simp only [Desk.stepAt, Desk.whenRunning, htold]
  split
  · next hrun =>
    obtain ⟨poll, hpoll⟩ : ∃ poll, log.desk.engine.poll = some poll := by
      rw [← Option.ne_none_iff_exists']
      intro hnone
      have hlast := h.onePoll.last hrun
      rw [hnone, ← h.onePoll.sole.length] at hlast
      exact hsome (List.eq_nil_of_length_eq_zero hlast)
    rw [Engine.onTimer_of_underway hpoll]
    split <;> rfl
  · rfl

theorem Kept.starts (h : Kept log) {symbol : Symbol} (hrun : log.desk.isRunning)
    (hdue : log.desk.nextPoll ≤ log.desk.now) (hsymbol : log.desk.engine.symbol? = some symbol)
    (hnone : ∀ t ∈ log.desk.polls, t.state ≠ .underway) :
    (log.desk.stepAt ⟨.timer, false⟩).2 = [.poll log.desk.polls.length symbol] := by
  have htold : (log.desk.pollUnderway || false) = false := by
    rw [Bool.or_false, Desk.pollUnderway]
    split
    · refine decide_eq_false fun hstate => ?_
      obtain ⟨t, ht, hunderway⟩ := Option.map_eq_some_iff.mp hstate
      exact hnone t (List.mem_of_getElem? ht) hunderway
    · rfl
  simp only [Desk.stepAt, Desk.whenRunning, htold, if_pos hrun, if_pos hdue]
  rw [h.onePoll.sole.length, ← Engine.onTimer_of_not_underway hsymbol]
  rfl

theorem Kept.forced (h : Kept log) {m : Moment} {symbol : Symbol} (hrun : log.desk.isRunning)
    (hforced : log.desk.forcedBy m.occurrence = some symbol) :
    pollsOf (log.desk.stepAt m).2 = [(log.desk.polls.length, symbol)] := by
  obtain ⟨o, lingers⟩ := m
  rw [h.onePoll.sole.length]
  cases o with
  | select selection =>
    simp only [Desk.forcedBy] at hforced
    split at hforced
    · cases hforced
    · next hother =>
      obtain rfl := Option.some.inj hforced
      simp only [Desk.stepAt, Desk.whenRunning, if_pos hrun]
      exact Engine.pollsOf_select hother _
  | retry =>
    obtain ⟨selection, hselection, rfl⟩ := Option.map_eq_some_iff.mp hforced
    simp only [Desk.stepAt, Desk.whenRunning, if_pos hrun]
    exact Engine.pollsOf_retry hselection _
  | _ => cases hforced

theorem Kept.next (h : Kept log) {n : Nat} {i : PolledIndicators}
    {rest : List (Nat × PolledIndicators)} (lingers : Bool)
    (hwaiting : log.waiting = (n, i) :: rest) :
    (log.append (log.desk.polled ⟨.takeIndicators, lingers⟩)).delivered.map Delivery.result =
      log.delivered.map Delivery.result ++ [(n, i)] := by
  have hrun : log.desk.isRunning := by
    by_contra hend
    rw [h.ended hend] at hwaiting
    cases hwaiting
  have htaken : log.desk.takenBy .takeIndicators = 1 := by
    rw [Desk.takenBy, if_pos hrun, ← h.queue, hwaiting]
    rfl
  simp only [PollLog.append, Desk.polled, htaken, hwaiting, List.map_append]
  rfl

theorem Kept.newer (h : Kept log) : log.drawn.Pairwise (· < ·) := by
  have hresults := h.ascending
  rw [results, List.pairwise_append, List.pairwise_map] at hresults
  exact (List.pairwise_map.mpr hresults.1).sublist h.drawn

/-- **Polls are applied in the order in which they were started.** Whatever the owner of an engine
commands, whenever the timer is due, and however long the polls take: at most one of them is under
way, the timer never starts a second one, and the engine handles their results in the order of the
polls, so that no overlay takes the place of one of a newer poll. -/
theorem polls_in_order (settings : Settings) (moments : List Moment) :
    PollsInOrder ((initial settings).after moments) := by
  have h := (kept_initial settings).after moments
  exact
    { numbered := h.numbered
      one := fun _ _ _ _ hm hn hs ht => h.one hm hn hs ht
      timer := fun _ hfound hsome => h.timer hfound hsome
      starts := fun _ hrun hdue hsymbol hnone => h.starts hrun hdue hsymbol hnone
      forced := fun _ _ hrun hforced => h.forced hrun hforced
      queue := h.queue
      own := h.answered
      handled := h.handled
      next := fun _ _ _ lingers hwaiting => h.next lingers hwaiting
      inOrder := h.ascending
      shown := h.shown
      blank := h.blank
      source := h.source
      newer := h.newer }

/-- The first poll is slow: the wish to see all anew gives it up, and its answer comes to nothing.
The second has sent its result but lingers, so the timer starts no third one. -/
example :
    let log := (initial .standard).after
      [⟨.select ⟨⟨"BTC-USD"⟩, .m1⟩, false⟩, ⟨.retry, false⟩, ⟨.answerPoll 0 (.ok []), false⟩,
        ⟨.answerPoll 1 (.ok []), false⟩, ⟨.timer, true⟩, ⟨.takeIndicators, false⟩]
    pollsOf log.orders = [(0, ⟨"BTC-USD"⟩), (1, ⟨"BTC-USD"⟩)] ∧
      log.delivered.map Delivery.poll = [1] ∧ log.shown.map Prod.fst = [none, some 1] := by
  decide

end PollLog

end TickChart
