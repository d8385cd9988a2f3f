import TickChart.Proofs.Moves
import TickChart.Proofs.Tasks

/-!
# Turns of an engine

In a move the engine handles an input, or it stops, or something happens beside it. What happens
beside the engine starts no task; it can only be the end of one.

* `Desk.Rests`: the engine is the same, and no task has come to life.
* `Desk.inputBy`: the input that the engine handles in a move.
* `Desk.Turn`: all that a move can be. `Desk.turn_move` proves it of every move.
-/

namespace TickChart

namespace Desk

/-- What happens beside an engine. -/
structure Rests (d d' : Desk) : Prop where
  engine : d'.engine = d.engine
  condition : d'.condition = d.condition
  feeds : Fewer TickQueue.open? d.feeds d'.feeds
  loads : Fewer LoadTask.underway? d.loads d'.loads
  polls : Fewer PollTask.underway? d.polls d'.polls

/-- The input that the engine handles in a move. -/
def inputBy (d : Desk) (m : Move) : Option Engine.Input :=
  if d.isRunning then
    match m with
    | .usual (.select selection) => some (.select selection d.pollUnderway)
    | .usual .retry => some (.retry d.pollUnderway)
    | .usual .takeHistory =>
      d.histories.head?.map fun h => .history h.generation h.selection h.result
    | .usual .takeIndicators => d.indicators.head?.map fun i => .indicators i.symbol i.result
    | .usual .takeTick => d.dueTick.head?.map fun f => .tick f.2
    | .usual .timer => if d.nextPoll ≤ d.now then some (.timer d.pollUnderway) else none
    | _ => none
  else none

/-- What a move can be, by the input that the engine handles in it. -/
inductive Turn (d : Desk) : Option Engine.Input → Desk × List Order → Prop where
  /-- Something happens beside the engine, or nothing at all. -/
  | rest {d' : Desk} (h : d.Rests d') : Turn d none (d', [])
  /-- The engine handles an input. -/
  | handle {d' : Desk} (input : Engine.Input) {next : Engine} {orders : List Order}
      (h : d.Rests d') (hrun : d.isRunning)
      (hpoll : ∀ underway, input.underway? = some underway → underway = d'.pollUnderway)
      (hstep : d'.engine.handle input = (.ok next, orders)) :
      Turn d (some input) (d'.afterHandler (next, orders))
  /-- A tick breaks the engine. -/
  | fault {d' : Desk} {tick : Tick} {fault : Fault} {orders : List Order} (h : d.Rests d')
      (hstep : d'.engine.onTick tick = (.error fault, orders)) :
      Turn d (some (.tick tick)) (d'.afterFault fault orders)
  /-- The engine stops. -/
  | shutdown : Turn d none d.afterShutdown

variable {d : Desk}

theorem Rests.refl (d : Desk) : d.Rests d := ⟨rfl, rfl, .refl _, .refl _, .refl _⟩

/-- A queue is changed, in another way than by opening its subscription. -/
theorem rests_feeds (d : Desk) (f : TickQueue → TickQueue) (hf : ∀ q, (f q).open? = q.open?)
    (subscription : Nat) : d.Rests { d with feeds := d.feeds.modify subscription f } :=
  ⟨rfl, rfl, .modify (fun q _ h => (hf q).symm.trans h) _ _, .refl _, .refl _⟩

/-- A load is answered, whatever comes of it. -/
theorem rests_loads (d : Desk) (load : Nat) (histories : List LoadedHistory) :
    d.Rests { d with loads := d.loads.modify load .answer, histories } :=
  ⟨rfl, rfl, .refl _, .finish LoadTask.underway?_answer _ _, .refl _⟩

/-- A poll is answered, whatever comes of it. -/
theorem rests_polls (d : Desk) (poll : Nat) (indicators : List PolledIndicators) :
    d.Rests { d with polls := d.polls.modify poll .answer, indicators } :=
  ⟨rfl, rfl, .refl _, .refl _, .finish PollTask.underway?_answer _ _⟩

theorem rests_answerLoad (d : Desk) (load : Nat) (result : HistoryResult) :
    d.Rests (d.answerLoad load result) := by
  simp only [answerLoad]
  split
  · split
    · exact rests_loads d load _
    · exact rests_loads d load d.histories
  · exact rests_loads d load d.histories

theorem rests_answerPoll (d : Desk) (poll : Nat) (result : PollResult) :
    d.Rests (d.answerPoll poll result) := by
  simp only [answerPoll]
  split
  · split
    · exact rests_polls d poll _
    · exact rests_polls d poll d.indicators
  · exact rests_polls d poll d.indicators

theorem rests_answerLate (d : Desk) (load : Nat) (result : HistoryResult) (place : Nat) :
    d.Rests (d.answerLate load result place) := by
  simp only [answerLate]
  split
  · split
    · exact rests_loads d load _
    · exact .refl d
  · exact .refl d

theorem turn_send (d : Desk) (subscription : Nat) (tick : Tick) :
    d.Turn none (d.step (.send subscription tick)) := by
  simp only [step]
  split
  · split
    · exact .rest (rests_feeds d (·.push tick) (fun _ => rfl) subscription)
    · exact .rest (.refl d)
  · exact .rest (.refl d)

theorem turn_handleHistory (d : Desk) (hrun : d.isRunning) :
    d.Turn (d.histories.head?.map fun h => .history h.generation h.selection h.result)
      d.handleHistory := by
  simp only [handleHistory]
  split
  · next hnone =>
    rw [hnone]
    exact .rest (.refl d)
  · next h rest hwaits =>
    rw [hwaits]
    have hrests : d.Rests { d with histories := rest } := ⟨rfl, rfl, .refl _, .refl _, .refl _⟩
    exact .handle _ hrests hrun (fun _ h => absurd h.symm (Option.some_ne_none _)) rfl

theorem turn_handleIndicators (d : Desk) (hrun : d.isRunning) :
    d.Turn (d.indicators.head?.map fun i => .indicators i.symbol i.result)
      d.handleIndicators := by
  simp only [handleIndicators]
  split
  · next hnone =>
    rw [hnone]
    exact .rest (.refl d)
  · next i rest hwaits =>
    rw [hwaits]
    have hrests : d.Rests { d with indicators := rest } := ⟨rfl, rfl, .refl _, .refl _, .refl _⟩
    exact .handle _ hrests hrun (fun _ h => absurd h.symm (Option.some_ne_none _)) rfl

theorem turn_handleTick (d : Desk) (hrun : d.isRunning) :
    d.Turn (d.dueTick.head?.map fun f => .tick f.2) d.handleTick := by
  simp only [handleTick]
  split
  · next session symbol tick rest closed ended hsession hqueue =>
    have hdue : d.dueTick = [(session.generation, tick)] := by
      simp only [dueTick, hsession, hqueue]
    have hrests := rests_feeds d .pop (fun _ => rfl) session.subscription
    rw [hdue]
    split
    · next hstep =>
      exact .handle _ hrests hrun (fun _ h => absurd h.symm (Option.some_ne_none _)) hstep
    · next hstep => exact .fault hrests hstep
  · next hnone =>
    have hdue : d.dueTick = [] := by simp only [dueTick]
    rw [hdue]
    exact .rest (.refl d)

/-- The timer is due. When it is due next makes no difference, so it is left open here. -/
theorem turn_onTimer (d : Desk) (nextPoll : Nat) (hrun : d.isRunning) :
    d.Turn (some (.timer d.pollUnderway))
      ({ d with nextPoll }.afterHandler (d.engine.onTimer d.pollUnderway)) := by
  have hrests : d.Rests { d with nextPoll } := ⟨rfl, rfl, .refl _, .refl _, .refl _⟩
  exact .handle (.timer d.pollUnderway) hrests hrun (fun _ h => Option.some.inj h.symm) rfl

theorem turn_handleTimer (d : Desk) (hrun : d.isRunning) :
    d.Turn (if d.nextPoll ≤ d.now then some (.timer d.pollUnderway) else none) d.handleTimer := by
  rw [handleTimer]
  split
  · exact turn_onTimer d d.nextDue hrun
  · exact .rest (.refl d)

/-- What the engine does only while it runs. -/
theorem turn_whenRunning (act : Desk → Desk × List Order) {input? : Option Engine.Input}
    (h : d.isRunning → d.Turn input? (act d)) :
    d.Turn (if d.isRunning then input? else none) (d.whenRunning act) := by
  unfold whenRunning
  cases hrun : d.isRunning
  · exact .rest (.refl d)
  · exact h hrun

/-- What happens whether the engine runs or not. -/
theorem turn_beside {result : Desk × List Order} (h : d.Turn none result) :
    d.Turn (if d.isRunning then none else none) result := by
  rw [ite_self]
  exact h

/-- Every move is a turn. -/
theorem turn_move (d : Desk) (m : Move) : d.Turn (d.inputBy m) (d.move m) := by
  have hsame : ∀ underway, some d.pollUnderway = some underway → underway = d.pollUnderway :=
    fun _ h => Option.some.inj h.symm
  cases m with
  | late load result place => exact turn_beside (.rest (rests_answerLate d load result place))
  | usual o =>
    cases o with
    | select selection =>
      refine turn_whenRunning
        (fun d => d.afterHandler (d.engine.select selection d.pollUnderway)) fun hrun => ?_
      exact .handle (.select selection d.pollUnderway) (.refl d) hrun hsame rfl
    | retry =>
      refine turn_whenRunning
        (fun d => d.afterHandler (d.engine.retry d.pollUnderway)) fun hrun => ?_
      exact .handle (.retry d.pollUnderway) (.refl d) hrun hsame rfl
    | shutdown => exact turn_whenRunning afterShutdown fun _ => .shutdown
    | send subscription tick => exact turn_beside (turn_send d subscription tick)
    | endFeed subscription =>
      exact turn_beside (.rest (rests_feeds d .finish (fun _ => rfl) subscription))
    | answerLoad load result => exact turn_beside (.rest (rests_answerLoad d load result))
    | answerPoll poll result => exact turn_beside (.rest (rests_answerPoll d poll result))
    | takeHistory => exact turn_whenRunning handleHistory d.turn_handleHistory
    | takeIndicators => exact turn_whenRunning handleIndicators d.turn_handleIndicators
    | takeTick => exact turn_whenRunning handleTick d.turn_handleTick
    | timer => exact turn_whenRunning handleTimer d.turn_handleTimer
    | wait nanos => exact turn_beside (.rest ⟨rfl, rfl, .refl _, .refl _, .refl _⟩)

end Desk

end TickChart
