import TickChart.Proofs.Requests

/-!
# Tasks that are alive

A subscription is alive until it is closed, a load or a poll until it is answered or given up. Of
each kind no task is alive but the one that the engine holds: it lets go of the old one before it
takes a new one.

* `TickQueue.open?`, `LoadTask.underway?`, `PollTask.underway?`: what a task is for, while it is
  alive.
* `Fewer`: of tasks, none has come to life.
* `Sole`: of tasks, none is alive but the one that is held.
* `Sole.closeIn`, `Sole.abortIn`: nothing of a session is alive after its end.
* `pollOrders`, `Engine.handle_polls`: what the handlers order about polls.
* `Sole.handle_polls`: no poll is under way but the last one.
-/

namespace TickChart

/-- The symbol of a subscription that is not closed. -/
def TickQueue.open? (q : TickQueue) : Option Symbol := if q.closed then none else some q.symbol

/-- What a load is for that is under way. -/
def LoadTask.underway? (t : LoadTask) : Option (Generation × Selection) :=
  if t.state = .underway then some (t.generation, t.selection) else none

/-- Something, if a poll is under way. -/
def PollTask.underway? (t : PollTask) : Option Unit := if t.state = .underway then some () else none

theorem TickQueue.open?_close (q : TickQueue) : q.close.open? = none := rfl

theorem LoadTask.underway?_answer (t : LoadTask) : t.answer.underway? = none := rfl

theorem PollTask.underway?_answer (t : PollTask) : t.answer.underway? = none := rfl

theorem TaskState.abort_ne_underway (s : TaskState) : s.abort ≠ .underway := by
  cases s <;> exact nofun

theorem LoadTask.underway?_abort (t : LoadTask) : t.abort.underway? = none :=
  if_neg t.state.abort_ne_underway

theorem PollTask.underway?_abort (t : PollTask) : t.abort.underway? = none :=
  if_neg t.state.abort_ne_underway

/-- The same tasks as before, of which none has come to life, or is for something else now. -/
structure Fewer {α β : Type} (alive : α → Option β) (tasks tasks' : List α) : Prop where
  length : tasks'.length = tasks.length
  old : ∀ (i : Nat) (b : β), tasks'[i]?.bind alive = some b → tasks[i]?.bind alive = some b

namespace Fewer

variable {α β : Type} {alive : α → Option β}

theorem refl (tasks : List α) : Fewer alive tasks tasks := ⟨rfl, fun _ _ h => h⟩

/-- One task is changed, by what brings none to life. -/
theorem modify {f : α → α} (hf : ∀ x b, alive (f x) = some b → alive x = some b) (tasks : List α)
    (i : Nat) : Fewer alive tasks (tasks.modify i f) := by
  refine ⟨List.length_modify .., fun j b h => ?_⟩
  rw [List.getElem?_modify] at h
  cases hj : tasks[j]? with
  | none =>
    rw [hj] at h
    cases h
  | some x =>
    rw [hj] at h
    by_cases hij : i = j
    · exact hf x b (by simpa [hij] using h)
    · simpa [hij] using h

/-- One task comes to its end. -/
theorem finish {f : α → α} (hf : ∀ x, alive (f x) = none) (tasks : List α) (i : Nat) :
    Fewer alive tasks (tasks.modify i f) :=
  modify (fun x _ h => absurd ((hf x).symm.trans h) (Option.some_ne_none _).symm) tasks i

end Fewer

/-- Of numbered tasks, none is alive but the one that is held, and `count` were started. -/
structure Sole {α β : Type} (alive : α → Option β) (held : Option (Nat × β)) (count : Nat)
    (tasks : List α) : Prop where
  length : tasks.length = count
  only : ∀ (i : Nat) (b : β), tasks[i]?.bind alive = some b → held = some (i, b)

namespace Sole

variable {α β : Type} {alive : α → Option β} {held : Option (Nat × β)} {count : Nat}
  {tasks tasks' : List α}

theorem of_fewer (h : Sole alive held count tasks) (hf : Fewer alive tasks tasks') :
    Sole alive held count tasks' :=
  ⟨hf.length.trans h.length, fun i b hb => h.only i b (hf.old i b hb)⟩

/-- Where none is held, none is alive. -/
theorem eq_none_of_mem {x : α} (h : Sole alive none count tasks) (hx : x ∈ tasks) :
    alive x = none := by
  obtain ⟨i, hi⟩ := List.mem_iff_getElem?.mp hx
  cases ha : alive x with
  | none => rfl
  | some b => exact nomatch h.only i b (by rw [hi, Option.bind_some, ha])

/-- The task that is held comes to its end. -/
theorem finish {i : Nat} {b : β} {f : α → α} (h : Sole alive (some (i, b)) count tasks)
    (hf : ∀ x, alive (f x) = none) : Sole alive none count (tasks.modify i f) := by
  refine ⟨(List.length_modify ..).trans h.length, fun j b' hb => ?_⟩
  have hold := (Fewer.finish hf tasks i).old j b' hb
  obtain ⟨rfl, rfl⟩ := Prod.mk.inj (Option.some.inj (h.only j b' hold))
  rw [List.getElem?_modify_eq] at hb
  cases hi : tasks[i]? with
  | none => rw [hi] at hb; cases hb
  | some x =>
    rw [hi] at hb
    exact absurd ((hf x).symm.trans hb) (Option.some_ne_none _).symm

/-- One more task is started, while none is alive. -/
theorem concat {x : α} {b : β} (h : Sole alive none count tasks) (hx : alive x = some b) :
    Sole alive (some (count, b)) (count + 1) (tasks ++ [x]) := by
  have hlength := h.length
  refine ⟨by simp [hlength], fun i b' hb => ?_⟩
  by_cases hi : i < tasks.length
  -- The new task is the only one that can be alive.
  · rw [List.getElem?_append_left hi] at hb
    exact nomatch h.only i b' hb
  · by_cases heq : i = tasks.length
    · rw [heq, List.getElem?_concat_length, Option.bind_some, hx] at hb
      rw [heq, hlength, Option.some.inj hb]
    · rw [List.getElem?_eq_none (by simp; omega)] at hb
      cases hb

end Sole

/-! ## Sessions -/

/-- The subscription of a session, with its symbol. -/
def Session.channel (s : Session) : Nat × Symbol := (s.subscription, s.selection.symbol)

/-- The load of a session, with its tag. -/
def Session.loading (s : Session) : Nat × Generation × Selection :=
  (s.load, s.generation, s.selection)

variable {e : Engine} {count : Nat}

theorem Sole.closeIn {feeds : List TickQueue}
    (h : Sole TickQueue.open? (e.session.map Session.channel) count feeds) :
    Sole TickQueue.open? none count (e.closeIn feeds) := by
  unfold Engine.closeIn
  cases hs : e.session with
  | none =>
    rw [hs] at h
    exact h
  | some s =>
    rw [hs] at h
    exact h.finish TickQueue.open?_close

theorem Sole.abortIn {loads : List LoadTask}
    (h : Sole LoadTask.underway? (e.session.map Session.loading) count loads) :
    Sole LoadTask.underway? none count (e.abortIn loads) := by
  unfold Engine.abortIn
  cases hs : e.session with
  | none =>
    rw [hs] at h
    exact h
  | some s =>
    rw [hs] at h
    exact h.finish LoadTask.underway?_abort

/-! ## Polls -/

/-- An order about polls. -/
def Order.isOfPoll : Order → Bool
  | .poll _ _ | .abortPoll _ => true
  | .call _ | .subscribe _ _ | .close _ | .load _ _ _ | .abortLoad _ => false

/-- The orders about polls, in order. -/
def pollOrders (orders : List Order) : List Order := orders.filter Order.isOfPoll

theorem pollOrders_append (a b : List Order) :
    pollOrders (a ++ b) = pollOrders a ++ pollOrders b := List.filter_append ..

theorem pollOrders_calls {orders : List Order} (h : OnlyCalls orders) : pollOrders orders = [] := by
  refine List.filter_eq_nil_iff.mpr fun o ho => ?_
  have hcall := h o ho
  cases o with
  | call c => exact Bool.false_ne_true
  | _ => cases hcall

theorem Engine.pollOrders_start (e : Engine) (selection : Selection) :
    pollOrders (e.start selection).2 = [] := by
  simp only [Engine.start, Engine.closing]
  cases e.session <;> rfl

theorem Engine.pollOrders_leavePoll (e : Engine) (underway : Bool) :
    pollOrders (e.leavePoll underway) = e.leavePoll underway := by
  unfold Engine.leavePoll
  cases e.poll with
  | none => rfl
  | some poll => cases underway <;> rfl

namespace Desk

theorem pollsAfterAll_append (polls : List PollTask) (a b : List Order) :
    pollsAfterAll polls (a ++ b) = pollsAfterAll (pollsAfterAll polls a) b := List.foldl_append

/-- No other orders change the polls. -/
theorem pollsAfterAll_pollOrders (polls : List PollTask) (orders : List Order) :
    pollsAfterAll polls (pollOrders orders) = pollsAfterAll polls orders := by
  induction orders generalizing polls with
  | nil => rfl
  | cons o orders ih =>
    cases o with
    | poll poll symbol => exact ih _
    | abortPoll poll => exact ih _
    | _ => exact ih polls

theorem pollsAfterAll_of_pollOrders {orders : List Order} (h : pollOrders orders = [])
    (polls : List PollTask) : pollsAfterAll polls orders = polls := by
  rw [← pollsAfterAll_pollOrders, h]
  rfl

theorem pollsAfterAll_calls {orders : List Order} (h : OnlyCalls orders) (polls : List PollTask) :
    pollsAfterAll polls orders = polls :=
  pollsAfterAll_of_pollOrders (pollOrders_calls h) polls

theorem pollsAfterAll_start (polls : List PollTask) (e : Engine) (selection : Selection) :
    pollsAfterAll polls (e.start selection).2 = polls :=
  pollsAfterAll_of_pollOrders (e.pollOrders_start selection) polls

end Desk

namespace Engine

open Desk

/-- A poll is started behind the last one, which is given up, or there is none. -/
theorem startPoll_cases (e : Engine) (force underway : Bool) :
    e.startPoll force underway = (e, []) ∨
      ∃ symbol, e.startPoll force underway =
        ({ e with poll := some e.polls, polls := e.polls + 1 },
          e.leavePoll underway ++ [.poll e.polls symbol]) := by
  unfold startPoll leavePoll
  cases e.selection with
  | none => exact .inl rfl
  | some selection =>
    cases e.poll with
    | none => exact .inr ⟨selection.symbol, rfl⟩
    | some poll =>
      simp only []
      split
      · exact .inl rfl
      · exact .inr ⟨selection.symbol, rfl⟩

/-- What a handler orders about polls: nothing, or they start one behind the last one. -/
inductive PollsBy (e : Engine) (input : Input) (next : Engine) (orders : List Order) : Prop where
  | same (hpoll : next.poll = e.poll) (hcount : next.polls = e.polls)
      (horders : pollOrders orders = [])
  | started (underway : Bool) (symbol : Symbol) (hinput : input.underway? = some underway)
      (hpoll : next.poll = some e.polls) (hcount : next.polls = e.polls + 1)
      (horders : pollOrders orders = e.leavePoll underway ++ [.poll e.polls symbol])

/-- A poll is started, or the last one left as it is. -/
theorem pollsBy_startPoll {input : Input} {underway : Bool} (force : Bool)
    (hinput : input.underway? = some underway) :
    PollsBy e input (e.startPoll force underway).1 (e.startPoll force underway).2 := by
  rcases startPoll_cases e force underway with heq | ⟨symbol, heq⟩
  · rw [heq]
    exact .same rfl rfl rfl
  · rw [heq]
    refine .started underway symbol hinput rfl rfl ?_
    rw [pollOrders_append, pollOrders_leavePoll]
    rfl

/-- A start, with a poll behind it. -/
theorem pollsBy_start {input : Input} {underway : Bool} (hinput : input.underway? = some underway)
    (selection : Selection) (c : List Order) (hc : OnlyCalls c) :
    PollsBy e input ((e.start selection).1.startPoll true underway).1
      ((e.start selection).2 ++ c ++ ((e.start selection).1.startPoll true underway).2) := by
  have hfirst : pollOrders ((e.start selection).2 ++ c) = [] := by
    rw [pollOrders_append, pollOrders_start, pollOrders_calls hc]
    rfl
  cases pollsBy_startPoll (e := (e.start selection).1) true hinput with
  | same hpoll hcount horders =>
    refine .same hpoll hcount ?_
    rw [pollOrders_append, hfirst, horders]
    rfl
  | started underway symbol hinput hpoll hcount horders =>
    refine .started underway symbol hinput hpoll hcount ?_
    rw [pollOrders_append, hfirst, horders]
    rfl

theorem pollsBy_calls {input : Input} {next : Engine} {orders : List Order}
    (hpoll : next.poll = e.poll) (hcount : next.polls = e.polls) (h : OnlyCalls orders) :
    PollsBy e input next orders :=
  .same hpoll hcount (pollOrders_calls h)

theorem handle_polls {input : Input} {next : Engine} {orders : List Order}
    (h : e.handle input = (.ok next, orders)) : PollsBy e input next orders := by
  cases input with
  | select selection underway =>
    cases h
    simp only [select]
    split
    · exact .same rfl rfl (e.pollOrders_start selection)
    · -- Another symbol: the overlay is emptied between the start and the poll.
      have hpolls : PollsBy e (.select selection underway) _ _ :=
        pollsBy_start rfl selection [.call (.overlay (.empty selection.symbol))]
          (by simp [OnlyCalls, Order.call?])
      rw [List.append_assoc] at hpolls
      exact hpolls
  | retry underway =>
    cases h
    simp only [retry]
    split
    · exact pollsBy_calls rfl rfl (by simp [OnlyCalls])
    · next selection _ =>
      have hpolls : PollsBy e (.retry underway) _ _ :=
        pollsBy_start rfl selection [] (by simp [OnlyCalls])
      rw [List.append_nil] at hpolls
      exact hpolls
  -- What comes of a session or of a poll is only shown.
  | history generation selection result =>
    obtain ⟨timeline, -, hhistory, hcalls⟩ := onHistory_eq e generation selection result
    cases h
    rw [hhistory]
    exact pollsBy_calls rfl rfl hcalls
  | tick tick =>
    have hnext : (e.onTick tick).1 = .ok next := congrArg Prod.fst h
    have horders : (e.onTick tick).2 = orders := congrArg Prod.snd h
    have hcalls := onTick_calls e tick
    rw [horders] at hcalls
    rcases onTick_ok hnext with rfl | ⟨session, aggregator, event, -, rfl⟩
    · exact pollsBy_calls rfl rfl hcalls
    · exact pollsBy_calls rfl rfl hcalls
  | indicators symbol result =>
    cases h
    exact pollsBy_calls rfl rfl (onIndicators_calls e symbol result)
  | timer underway =>
    cases h
    exact pollsBy_startPoll false rfl

end Engine

/-- A poll that is under way is the last one. -/
theorem Sole.pollUnderway {d : Desk}
    (h : Sole PollTask.underway? (d.engine.poll.map (·, ())) count d.polls) {i : Nat} {b : Unit}
    (hi : d.polls[i]?.bind PollTask.underway? = some b) : d.pollUnderway := by
  obtain ⟨poll, hpoll, heq⟩ := Option.map_eq_some_iff.mp (h.only i b hi)
  obtain ⟨rfl, -⟩ := Prod.mk.inj heq
  obtain ⟨task, htask, halive⟩ := Option.bind_eq_some_iff.mp hi
  have hstate : task.state = .underway := by
    by_contra hne
    rw [PollTask.underway?, if_neg hne] at halive
    cases halive
  rw [Desk.pollUnderway, hpoll]
  simp [htask, hstate]

open Desk in
/-- After the last poll is given up, none is under way. -/
theorem Sole.leavePoll {polls : List PollTask} {underway : Bool}
    (h : Sole PollTask.underway? (e.poll.map (·, ())) count polls)
    (hunderway : ∀ (i : Nat) (b : Unit), polls[i]?.bind PollTask.underway? = some b → underway) :
    Sole PollTask.underway? none count (pollsAfterAll polls (e.leavePoll underway)) := by
  unfold Engine.leavePoll
  cases hp : e.poll with
  | none =>
    rw [hp] at h
    exact h
  | some poll =>
    rw [hp] at h
    cases underway with
    -- Nothing is ordered, but then nothing was under way.
    | false => exact ⟨h.length, fun i b hb => nomatch hunderway i b hb⟩
    | true => exact h.finish PollTask.underway?_abort

/-- A handler leaves no poll under way but the last one, if it is told whether that is. -/
theorem Sole.handle_polls {polls : List PollTask} {input : Engine.Input} {next : Engine}
    {orders : List Order} (h : Sole PollTask.underway? (e.poll.map (·, ())) e.polls polls)
    (hunderway : ∀ underway, input.underway? = some underway →
      ∀ (i : Nat) (b : Unit), polls[i]?.bind PollTask.underway? = some b → underway)
    (hstep : e.handle input = (.ok next, orders)) :
    Sole PollTask.underway? (next.poll.map (·, ())) next.polls
      (Desk.pollsAfterAll polls orders) := by
  cases Engine.handle_polls hstep with
  | same hpoll hcount horders =>
    rw [hpoll, hcount, Desk.pollsAfterAll_of_pollOrders horders]
    exact h
  | started underway symbol hinput hpoll hcount horders =>
    have hnone := h.leavePoll (hunderway underway hinput)
    rw [hpoll, hcount, ← Desk.pollsAfterAll_pollOrders, horders, Desk.pollsAfterAll_append]
    exact hnone.concat rfl

end TickChart
