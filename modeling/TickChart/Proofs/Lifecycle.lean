import Mathlib.Data.List.Chain
import TickChart.Feed.Connection
import TickChart.Proofs.Frames

/-!
# The life of a subscription

The owner of a subscription and its task write the same state, and neither waits for the other.
Whatever the order of what they do, the states follow one another along few edges, and no edge leads
away from `closed`.

* `LinkState.Edge`: the ways from one state to the next.
* `Connection.Effect`: all that a happening can do. `effect_step` proves it of every happening.
* `Stage.Shows`, `Connection.Sound`: which state goes with which stage of the task.
* `Sound.run`: the states of a run follow edges, and the present state is the last of them.
* `quiet_of_ended`, `no_attempt_of_stopping`, `run_deserted`: what does not happen any more once the
  task has ended, was asked to stop, or holds a tick that nobody takes.
* `Lawful`: only the owner closes, nothing is published behind that, and the request goes before
  `subscribed`. `Lifecycle`: all that happens is lawful, and the states go along edges. `lifecycle`
  proves it of every run.
* `settles_of_deserted`, `reconnects_deserted`: a task whose receiver is gone rests as soon as it
  has read a tick, and not before.
-/

namespace TickChart

/-- The ways of a subscription from one state to the next. -/
inductive LinkState.Edge : LinkState → LinkState → Prop where
  /-- The task begins. -/
  | start : Edge .disconnected .connecting
  /-- There is a connection, and the request was sent on it. -/
  | subscribe : Edge .connecting .subscribed
  /-- There was no connection, or the request could not be sent. -/
  | refuse : Edge .connecting .reconnecting
  /-- The connection ended. -/
  | lose : Edge .subscribed .reconnecting
  /-- The delay before the next attempt is over. -/
  | again : Edge .reconnecting .connecting
  /-- Nobody takes the ticks. -/
  | desert : Edge .subscribed .disconnected
  /-- The owner closes the subscription. -/
  | close {s : LinkState} (h : s ≠ .closed) : Edge s .closed

/-- The state stays and nothing is published, or it goes along an edge and is published. -/
def LinkState.Leads (old : LinkState) (published : List LinkState) (new : LinkState) : Prop :=
  (published = [] ∧ new = old) ∨ (published = [new] ∧ Edge old new)

/-- The state that goes with a stage, as long as the subscription is not closed. -/
def Stage.Shows : Stage → LinkState → Prop
  | .beginning, s => s = .disconnected ∨ s = .reconnecting
  | .announced, s | .connecting, s | .requesting, s => s = .connecting
  | .reading, s | .delivering _, s => s = .subscribed
  | .resting _, s => s = .reconnecting
  | .ended, s => s = .disconnected

/-- It is the task that does it, and not the owner or the one who takes the ticks. -/
def Happening.ofTask : Happening → Bool
  | .close | .askToStop | .receiverGone => false
  | _ => true

@[simp] theorem statesOf_append (a b : List Observation) :
    statesOf (a ++ b) = statesOf a ++ statesOf b := List.filterMap_append

theorem mem_statesOf {seen : List Observation} {s : LinkState} :
    s ∈ statesOf seen ↔ .state s ∈ seen := by
  simp only [statesOf, List.mem_filterMap]
  constructor
  · rintro ⟨o, ho, hs⟩
    cases o with
    | state s' => cases hs; exact ho
    | _ => cases hs
  · exact fun h => ⟨_, h, rfl⟩

namespace Connection

variable {c d : Connection} {h : Happening} {hs before after : List Happening}
  {seen : List Observation} {s : LinkState} {t : Tick}

theorem publish_fst :
    (c.publish s).1 = { c with state := if c.state = .closed then .closed else s } := by
  simp only [publish]
  split
  · next hsame =>
    split
    · next hclosed => rw [← hclosed]
    · next hopen => rw [← hsame.resolve_left hopen]
  · next hnew => rw [if_neg fun hclosed => hnew (.inl hclosed)]

theorem publish_snd :
    (c.publish s).2 = if c.state = .closed ∨ c.state = s then [] else [.state s] := by
  simp only [publish]
  split <;> rfl

/-- All that a happening can do to a subscription, and what can be observed of it. -/
inductive Effect (c : Connection) : Happening → Connection → List Observation → Prop where
  /-- It cannot happen at this stage, or leads to nothing. -/
  | nothing (h : Happening) (htask : h.ofTask) : Effect c h c []
  | close : Effect c .close (c.publish .closed).1 (c.publish .closed).2
  | ask : Effect c .askToStop { c with stopping := true } []
  | gone : Effect c .receiverGone { c with received := false } []
  | announce (hstage : c.stage = .beginning) :
      Effect c .announce { (c.publish .connecting).1 with stage := .announced }
        (c.publish .connecting).2
  | attempt (hstage : c.stage = .announced) (hgo : ¬ c.stopping) :
      Effect c .attempt { c with stage := .connecting } [.attempt]
  | stop (h : Happening) (htask : h.ofTask) (hstop : c.stopping) (hstage : c.stage ≠ .ended) :
      Effect c h { (c.publish .closed).1 with stage := .ended } (c.publish .closed).2
  | connected (hstage : c.stage = .connecting) :
      Effect c .connected { c with stage := .requesting } []
  | retire (h : Happening) (htask : h.ofTask)
      (hstage : c.stage = .connecting ∨ c.stage = .requesting ∨ c.stage = .reading) :
      Effect c h
        { (c.publish .reconnecting).1 with
          stage := .resting c.backoff.delay
          backoff := c.backoff.grow }
        (c.publish .reconnecting).2
  | request (hstage : c.stage = .requesting) :
      Effect c .requestSent
        { (c.publish .subscribed).1 with stage := .reading, backoff := c.backoff.reset }
        (.request c.requestText :: (c.publish .subscribed).2)
  | read (frame : String) (received : Instant) (t : Tick) (hstage : c.stage = .reading) :
      Effect c (.text frame received) { c with stage := .delivering t } []
  | ping (hstage : c.stage = .reading) : Effect c .pingSent c [.ping]
  | deliver (t : Tick) (hstage : c.stage = .delivering t) (hthere : c.received) :
      Effect c .delivered { c with stage := .reading } [.tick t]
  | desert (t : Tick) (hstage : c.stage = .delivering t) (hgone : ¬ c.received) :
      Effect c .undeliverable { (c.publish .disconnected).1 with stage := .ended }
        (c.publish .disconnected).2
  | rest (delay : Duration) (hstage : c.stage = .resting delay) :
      Effect c .rested { c with stage := .beginning } []

/-- The task makes its attempt, or ends instead. -/
theorem effect_attempt (c : Connection) :
    Effect c .attempt (c.step .attempt).1 (c.step .attempt).2 := by
  cases hstage : c.stage with
  | announced =>
    simp only [step, hstage]
    split
    · next hstop => exact .stop _ rfl hstop (by simp [hstage])
    · next hgo => exact .attempt hstage hgo
  | _ => simpa only [step, hstage] using .nothing _ rfl

/-- The wish to stop is heeded wherever the task waits, which it does not once it has ended. -/
theorem effect_heed (c : Connection) : Effect c .heed (c.step .heed).1 (c.step .heed).2 := by
  simp only [step]
  split
  · next hstop =>
    obtain ⟨hstop, hwaits⟩ := Bool.and_eq_true_iff.mp hstop
    refine .stop _ rfl hstop fun hended => ?_
    rw [hended] at hwaits
    cases hwaits
  · exact .nothing _ rfl

/-- Only a trade has something to deliver. -/
theorem effect_text (c : Connection) (frame : String) (received : Instant) :
    Effect c (.text frame received) (c.step (.text frame received)).1
      (c.step (.text frame received)).2 := by
  cases hstage : c.stage with
  | reading =>
    simp only [step, hstage, onText]
    split
    · exact .read _ _ _ hstage
    · exact .nothing _ rfl
  | _ => simpa only [step, hstage] using .nothing _ rfl

/-- A tick goes to whoever takes the ticks. -/
theorem effect_delivered (c : Connection) :
    Effect c .delivered (c.step .delivered).1 (c.step .delivered).2 := by
  cases hstage : c.stage with
  | delivering t =>
    simp only [step, hstage]
    split
    · next hthere => exact .deliver t hstage hthere
    · exact .nothing _ rfl
  | _ => simpa only [step, hstage] using .nothing _ rfl

/-- A tick that nobody takes ends the task. -/
theorem effect_undeliverable (c : Connection) :
    Effect c .undeliverable (c.step .undeliverable).1 (c.step .undeliverable).2 := by
  cases hstage : c.stage with
  | delivering t =>
    simp only [step, hstage]
    split
    · exact .nothing _ rfl
    · next hgone => exact .desert t hstage hgone
  | _ => simpa only [step, hstage] using .nothing _ rfl

/-- Nothing else can happen. -/
theorem effect_step (c : Connection) (h : Happening) : Effect c h (c.step h).1 (c.step h).2 := by
  cases h with
  -- Those around the task act at any stage.
  | close => exact .close
  | askToStop => exact .ask
  | receiverGone => exact .gone
  -- A happening of the task waits for its stage: at every other one it leads to nothing.
  | announce =>
    cases hstage : c.stage with
    | beginning => simpa only [step, hstage] using .announce hstage
    | _ => simpa only [step, hstage] using .nothing _ rfl
  | attempt => exact effect_attempt c
  | heed => exact effect_heed c
  | connected =>
    cases hstage : c.stage with
    | connecting => simpa only [step, hstage] using .connected hstage
    | _ => simpa only [step, hstage] using .nothing _ rfl
  | refused reason =>
    cases hstage : c.stage with
    | connecting => simpa only [step, hstage] using .retire _ rfl (.inl hstage)
    | _ => simpa only [step, hstage] using .nothing _ rfl
  | requestSent =>
    cases hstage : c.stage with
    | requesting => simpa only [step, hstage] using .request hstage
    | _ => simpa only [step, hstage] using .nothing _ rfl
  | requestFailed reason =>
    cases hstage : c.stage with
    | requesting => simpa only [step, hstage] using .retire _ rfl (.inr (.inl hstage))
    | _ => simpa only [step, hstage] using .nothing _ rfl
  | text frame received => exact effect_text c frame received
  | otherFrame => exact .nothing _ rfl
  | pingSent =>
    cases hstage : c.stage with
    | reading => simpa only [step, hstage] using .ping hstage
    | _ => simpa only [step, hstage] using .nothing _ rfl
  | pingFailed reason =>
    cases hstage : c.stage with
    | reading => simpa only [step, hstage] using .retire _ rfl (.inr (.inr hstage))
    | _ => simpa only [step, hstage] using .nothing _ rfl
  | lost error =>
    cases hstage : c.stage with
    | reading => simpa only [step, hstage] using .retire _ rfl (.inr (.inr hstage))
    | _ => simpa only [step, hstage] using .nothing _ rfl
  | delivered => exact effect_delivered c
  | undeliverable => exact effect_undeliverable c
  | rested =>
    cases hstage : c.stage with
    | resting delay => simpa only [step, hstage] using .rest delay hstage
    | _ => simpa only [step, hstage] using .nothing _ rfl

/-! ## States -/

/-- The state goes with the stage, unless the subscription is closed. -/
def Sound (c : Connection) : Prop := c.state ≠ .closed → c.stage.Shows c.state

theorem sound_initial (symbol : Symbol) (policy : ReconnectPolicy) :
    (initial symbol policy).Sound := fun _ => .inl rfl

theorem Sound.shows {stage : Stage} (hc : c.Sound) (hstage : c.stage = stage)
    (hopen : c.state ≠ .closed) : stage.Shows c.state := hstage ▸ hc hopen

/-- A state that is published is the state from then on, unless the subscription is closed. -/
theorem sound_publish {stage : Stage} {backoff : Backoff} (hshows : stage.Shows s) :
    Sound { (c.publish s).1 with stage, backoff } := by
  intro hopen
  rw [publish_fst] at hopen ⊢
  simp only at hopen ⊢
  split at hopen
  · exact (hopen rfl).elim
  · next hc => rwa [if_neg hc]

theorem publish_leads (hedge : c.state ≠ .closed → c.state ≠ s → LinkState.Edge c.state s) :
    LinkState.Leads c.state (statesOf (c.publish s).2) (c.publish s).1.state := by
  rw [publish_fst, publish_snd]
  split
  · next hsame =>
    refine .inl ⟨rfl, ?_⟩
    split
    · next hclosed => exact hclosed.symm
    · next hopen => exact (hsame.resolve_left hopen).symm
  · next hnew =>
    obtain ⟨hopen, hne⟩ := not_or.mp hnew
    rw [if_neg hopen]
    exact .inr ⟨rfl, hedge hopen hne⟩

/-- The states go with the stages, whatever happens. -/
theorem Effect.sound (he : Effect c h d seen) (hc : c.Sound) : d.Sound := by
  cases he with
  | nothing _ _ => exact hc
  | close =>
    rw [publish_fst]
    exact fun hopen => by simp at hopen
  | ask => exact hc
  | gone => exact hc
  | announce _ => exact sound_publish rfl
  | attempt hstage _ => exact fun hopen => by simpa [hstage, Stage.Shows] using hc hopen
  | stop _ _ _ _ =>
    rw [publish_fst]
    exact fun hopen => by simp at hopen
  | connected hstage => exact fun hopen => by simpa [hstage, Stage.Shows] using hc hopen
  | retire _ _ _ => exact sound_publish rfl
  | request _ => exact sound_publish rfl
  | read _ _ _ hstage => exact fun hopen => by simpa [hstage, Stage.Shows] using hc hopen
  | ping _ => exact hc
  | deliver _ hstage _ => exact fun hopen => by simpa [hstage, Stage.Shows] using hc hopen
  | desert _ _ _ => exact sound_publish rfl
  | rest _ hstage => exact fun hopen => .inr (hc.shows hstage hopen)

/-- What is published leads along an edge. -/
theorem Effect.leads (he : Effect c h d seen) (hc : c.Sound) :
    LinkState.Leads c.state (statesOf seen) d.state := by
  cases he with
  | nothing _ _ => exact .inl ⟨rfl, rfl⟩
  | close => exact publish_leads fun hopen _ => .close hopen
  | ask => exact .inl ⟨rfl, rfl⟩
  | gone => exact .inl ⟨rfl, rfl⟩
  -- Where a state is published, the one before it is known by the stage.
  | announce hstage =>
    refine publish_leads fun hopen _ => ?_
    obtain hstate | hstate := hc.shows hstage hopen
    · exact hstate ▸ .start
    · exact hstate ▸ .again
  | attempt _ _ => exact .inl ⟨rfl, rfl⟩
  | stop _ _ _ _ => exact publish_leads fun hopen _ => .close hopen
  | connected _ => exact .inl ⟨rfl, rfl⟩
  | retire _ _ hstage =>
    refine publish_leads fun hopen _ => ?_
    obtain hstage | hstage | hstage := hstage
    · exact hc.shows hstage hopen ▸ .refuse
    · exact hc.shows hstage hopen ▸ .refuse
    · exact hc.shows hstage hopen ▸ .lose
  | request hstage => exact publish_leads fun hopen _ => hc.shows hstage hopen ▸ .subscribe
  | read _ _ _ _ => exact .inl ⟨rfl, rfl⟩
  | ping _ => exact .inl ⟨rfl, rfl⟩
  | deliver _ _ _ => exact .inl ⟨rfl, rfl⟩
  | desert _ hstage _ => exact publish_leads fun hopen _ => hc.shows hstage hopen ▸ .desert
  | rest _ _ => exact .inl ⟨rfl, rfl⟩

theorem Effect.state_of_mem (he : Effect c h d seen) (hc : c.Sound) (hmem : .state s ∈ seen) :
    d.state = s := by
  have hmem' := mem_statesOf.mpr hmem
  obtain ⟨hnone, -⟩ | ⟨hone, -⟩ := he.leads hc
  · rw [hnone] at hmem'
    cases hmem'
  · rw [hone] at hmem'
    exact (List.mem_singleton.mp hmem').symm

/-- The states of a run follow edges, and the last of them is the present one. -/
theorem Sound.run (hc : c.Sound) (hs : List Happening) :
    (c.run hs).1.Sound ∧ (c.state :: statesOf (c.run hs).2).IsChain LinkState.Edge ∧
      (c.state :: statesOf (c.run hs).2).getLast? = some (c.run hs).1.state := by
  induction hs generalizing c with
  | nil => exact ⟨hc, .singleton _, rfl⟩
  | cons h hs ih =>
    have he := effect_step c h
    obtain ⟨hsound, hchain, hlast⟩ := ih (he.sound hc)
    rw [run_cons, statesOf_append]
    refine ⟨hsound, ?_⟩
    obtain ⟨hnone, hsame⟩ | ⟨hone, hedge⟩ := he.leads hc
    · rw [hsame] at hchain hlast
      rw [hnone]
      exact ⟨hchain, hlast⟩
    · rw [hone]
      exact ⟨.cons_cons hedge hchain, hlast⟩

/-- No edge leads away from `closed`. -/
theorem Sound.quiet_of_closed (hc : c.Sound) (hclosed : c.state = .closed) :
    statesOf (c.run hs).2 = [] := by
  obtain ⟨-, hchain, -⟩ := hc.run hs
  rw [hclosed] at hchain
  cases hstates : statesOf (c.run hs).2 with
  | nil => rfl
  | cons s states =>
    rw [hstates] at hchain
    cases (List.isChain_cons_cons.mp hchain).1 with
    | close hopen => exact (hopen rfl).elim

/-! ## What each happening leaves alone -/

/-- Only the owner asks to stop, and only the one who takes the ticks goes away. -/
theorem Effect.frame (he : Effect c h d seen) :
    (d.stopping ↔ c.stopping ∨ h = .askToStop) ∧
      (d.received ↔ c.received ∧ h ≠ .receiverGone) := by
  cases he with
  | nothing h htask | stop h htask _ _ | retire h htask _ =>
    have hask : h ≠ .askToStop := fun heq => by rw [heq] at htask; cases htask
    have hgone : h ≠ .receiverGone := fun heq => by rw [heq] at htask; cases htask
    simp [publish_fst, hask, hgone]
  | _ => simp [publish_fst]

theorem run_frame (c : Connection) (hs : List Happening) :
    ((c.run hs).1.stopping ↔ c.stopping ∨ .askToStop ∈ hs) ∧
      ((c.run hs).1.received ↔ c.received ∧ .receiverGone ∉ hs) := by
  induction hs generalizing c with
  | nil => simp
  | cons h hs ih =>
    obtain ⟨hstopping, hreceived⟩ := (effect_step c h).frame
    obtain ⟨ihstopping, ihreceived⟩ := ih (c.step h).1
    rw [run_cons]
    constructor
    · rw [ihstopping, hstopping, List.mem_cons, or_assoc, @eq_comm _ h]
    · rw [ihreceived, hreceived, List.mem_cons, not_or, and_assoc, ne_comm]

/-! ## What is published -/

theorem mem_publish {o : Observation} (hmem : o ∈ (c.publish s).2) :
    o = .state s ∧ c.state ≠ .closed := by
  rw [publish_snd] at hmem
  split at hmem
  · cases hmem
  · next hnew => exact ⟨List.mem_singleton.mp hmem, fun hclosed => hnew (.inl hclosed)⟩

/-- The owner publishes that the subscription is closed, or the task because it was asked to stop.
-/
theorem Effect.of_closed (he : Effect c h d seen) (hmem : .state .closed ∈ seen) :
    h = .close ∨ c.stopping := by
  cases he with
  | close => exact .inl rfl
  | stop _ _ hstop _ => exact .inr hstop
  | announce _ | retire _ _ _ | desert _ _ _ => cases (mem_publish hmem).1
  | request _ =>
    rw [List.mem_cons] at hmem
    cases (mem_publish (hmem.resolve_left nofun)).1
  | _ => simp at hmem

/-- The task rests without a connection because nobody takes the ticks, and it has ended then. -/
theorem Effect.of_disconnected (he : Effect c h d seen) (hmem : .state .disconnected ∈ seen) :
    ¬ c.received ∧ d.stage = .ended := by
  cases he with
  | desert _ _ hgone => exact ⟨hgone, rfl⟩
  | close | announce _ | stop _ _ _ _ | retire _ _ _ => cases (mem_publish hmem).1
  | request _ =>
    rw [List.mem_cons] at hmem
    cases (mem_publish (hmem.resolve_left nofun)).1
  | _ => simp at hmem

/-- Right before it publishes that it has subscribed the task sends the request. -/
theorem Effect.of_subscribed (he : Effect c h d seen) (hmem : .state .subscribed ∈ seen) :
    c.stage = .requesting ∧ c.state ≠ .closed ∧
      seen = [.request c.requestText, .state .subscribed] := by
  cases he with
  | request hstage =>
    rw [List.mem_cons] at hmem
    have hpublished := hmem.resolve_left nofun
    refine ⟨hstage, (mem_publish hpublished).2, ?_⟩
    rw [publish_snd] at hpublished ⊢
    split at hpublished
    · cases hpublished
    · next hnew => rw [if_neg hnew]
  | close | announce _ | stop _ _ _ _ | retire _ _ _ | desert _ _ _ =>
    cases (mem_publish hmem).1
  | _ => simp at hmem

/-! ## What does not happen any more -/

/-- What every happening keeps is kept by a run, and so is what it implies of the observations. -/
theorem run_keeps {P : Connection → Prop} {Q : Observation → Prop}
    (hstep : ∀ {c h d seen}, P c → Effect c h d seen → P d ∧ ∀ o ∈ seen, Q o) (hc : P c) :
    P (c.run hs).1 ∧ ∀ o ∈ (c.run hs).2, Q o := by
  induction hs generalizing c with
  | nil => exact ⟨hc, fun o ho => (List.not_mem_nil ho).elim⟩
  | cons h hs ih =>
    obtain ⟨hnext, hseen⟩ := hstep hc (effect_step c h)
    obtain ⟨hlast, hmore⟩ := ih hnext
    rw [run_cons]
    exact ⟨hlast, fun o ho => (List.mem_append.mp ho).elim (hseen o) (hmore o)⟩

/-- A task that was asked to stop makes no attempt to connect. -/
theorem no_attempt_of_stopping (hc : c.stopping) : .attempt ∉ (c.run hs).2 := by
  have hkeeps : _ ∧ ∀ o ∈ (c.run hs).2, o ≠ .attempt :=
    run_keeps (P := fun c => c.stopping) (fun {c h d seen} hc he => ?_) hc
  · exact fun hmem => hkeeps.2 _ hmem rfl
  · refine ⟨he.frame.1.mpr (.inl hc), fun o ho => ?_⟩
    rintro rfl
    cases he with
    | attempt _ hgo => exact hgo hc
    | close | announce _ | stop _ _ _ _ | retire _ _ _ | desert _ _ _ =>
      cases (mem_publish ho).1
    | request _ => cases (mem_publish ((List.mem_cons.mp ho).resolve_left nofun)).1
    | _ => simp at ho

theorem Effect.quiet_of_ended (he : Effect c h d seen) (hc : c.stage = .ended) :
    d.stage = .ended ∧ ∀ o ∈ seen, o = .state .closed := by
  cases he with
  | nothing _ _ | ask | gone => exact ⟨hc, fun o ho => (List.not_mem_nil ho).elim⟩
  | close => exact ⟨by rw [publish_fst, hc], fun o ho => (mem_publish ho).1⟩
  | stop _ _ _ hstage => exact (hstage hc).elim
  | _ => simp_all

/-- After the task has ended, only the owner publishes, and only that the subscription is closed. -/
theorem quiet_of_ended (hc : c.stage = .ended) :
    (c.run hs).1.stage = .ended ∧ ∀ o ∈ (c.run hs).2, o = .state .closed :=
  run_keeps (P := fun c => c.stage = .ended) (fun hc he => he.quiet_of_ended hc) hc

/-- A task that has ended publishes nothing itself. -/
theorem Effect.silent_of_ended (he : Effect c h d seen) (hc : c.stage = .ended)
    (htask : h.ofTask) : seen = [] := by
  cases he with
  | nothing _ _ => rfl
  | close | ask | gone => cases htask
  | stop _ _ _ hstage => exact (hstage hc).elim
  | _ => simp_all

/-- Nobody takes the ticks, and the task holds one, or has ended. -/
def Deserted (c : Connection) : Prop :=
  (¬ c.received ∧ ∃ t, c.stage = .delivering t) ∨ c.stage = .ended

/-- A task that holds a tick which nobody takes connects no more. -/
theorem run_deserted (hc : c.Deserted) :
    (c.run hs).1.Deserted ∧
      ∀ o ∈ (c.run hs).2, o = .state .disconnected ∨ o = .state .closed := by
  refine run_keeps (P := Deserted) (fun {c h d seen} hc he => ?_) hc
  obtain ⟨hgone, t, hstage⟩ | hended := hc
  · have hgone' : ¬ d.received := fun hthere => hgone (he.frame.2.mp hthere).1
    cases he with
    | nothing _ _ | ask | gone =>
      exact ⟨.inl ⟨hgone', t, hstage⟩, fun o ho => (List.not_mem_nil ho).elim⟩
    | close =>
      exact ⟨.inl ⟨hgone', t, by rw [publish_fst, hstage]⟩, fun o ho => .inr (mem_publish ho).1⟩
    | stop _ _ _ _ => exact ⟨.inr rfl, fun o ho => .inr (mem_publish ho).1⟩
    | desert _ _ _ => exact ⟨.inr rfl, fun o ho => .inl (mem_publish ho).1⟩
    | _ => simp_all
  · obtain ⟨hended', hquiet⟩ := he.quiet_of_ended hended
    exact ⟨.inr hended', fun o ho => .inr (hquiet o ho)⟩

/-! ## Attempts and requests -/

/-- As long as the task connects, the attempt to connect is the last that was observed. -/
def Tried (c : Connection) (seen : List Observation) : Prop :=
  c.stage = .connecting ∨ c.stage = .requesting → c.state ≠ .closed → seen.getLast? = some .attempt

theorem Effect.tried {more : List Observation} (he : Effect c h d more) (hc : c.Tried seen) :
    d.Tried (seen ++ more) := by
  cases he with
  | nothing _ _ | ask | gone => rwa [List.append_nil]
  | close | stop _ _ _ _ =>
    rw [publish_fst]
    exact fun _ hopen => by simp at hopen
  | attempt _ _ => exact fun _ _ => List.getLast?_concat
  | connected hstage =>
    rw [List.append_nil]
    exact fun _ hopen => hc (.inl hstage) hopen
  | ping hstage => exact fun hconnects => by simp [hstage] at hconnects
  | announce _ | retire _ _ _ | request _ | read _ _ _ _ | deliver _ _ _ | desert _ _ _
  | rest _ _ => exact fun hconnects => by simp at hconnects

theorem tried_run (hc : c.Tried seen) : (c.run hs).1.Tried (seen ++ (c.run hs).2) := by
  induction hs generalizing c seen with
  | nil => rwa [run_nil, List.append_nil]
  | cons h hs ih =>
    rw [run_cons, ← List.append_assoc]
    exact ih ((effect_step c h).tried hc)

/-! ## Every run -/

/-- A happening `h` in the life of a subscription closes it only for the owner and for good, lets
the task rest only without a receiver, publishes `subscribed` only behind the request on the
connection of the last attempt, and lets no attempt follow when it is the wish to stop. Here `c` is
the subscription before it, after the happenings `before` and the observations `seen`, and `after`
comes behind it. -/
structure Lawful (c : Connection) (before : List Happening) (seen : List Observation)
    (h : Happening) (after : List Happening) : Prop where
  /-- It is the owner who closes, or the task on the owner's behalf, and it is for good. -/
  closed : .state .closed ∈ (c.step h).2 →
    (h = .close ∨ .askToStop ∈ before) ∧ statesOf ((c.step h).1.run after).2 = []
  /-- A task that rests has lost its receiver, and nothing is heard of it any more: only the owner
  still publishes, and only that the subscription is closed. -/
  deserted : .state .disconnected ∈ (c.step h).2 →
    .receiverGone ∈ before ∧ (∀ o ∈ ((c.step h).1.run after).2, o = .state .closed) ∧
      ∀ front h' back, after = front ++ h' :: back → h'.ofTask →
        (((c.step h).1.run front).1.step h').2 = []
  /-- The request is sent on the connection of the last attempt. -/
  subscribed : .state .subscribed ∈ (c.step h).2 →
    seen.getLast? = some .attempt ∧
      (c.step h).2 = [.request c.requestText, .state .subscribed]
  /-- Once the owner has closed, which ends with the wish to stop, there is no new attempt. -/
  stopped : h = .askToStop → .attempt ∉ ((c.step h).1.run after).2

/-- The life of a subscription: the states that are published begin with `disconnected` and go along
edges, the last of them is the present one, and all that happens is lawful. -/
structure Lifecycle (start : Connection) (hs : List Happening) : Prop where
  /-- The published states go along edges, each of them another one than the one before. -/
  edges : (LinkState.disconnected :: statesOf (start.run hs).2).IsChain LinkState.Edge
  /-- The state is the one that was published last. -/
  state : (LinkState.disconnected :: statesOf (start.run hs).2).getLast? =
    some (start.run hs).1.state
  lawful : ∀ before h after, hs = before ++ h :: after →
    Lawful (start.run before).1 before (start.run before).2 h after

/-- **The life of a subscription.** Whatever its owner, its task and the one who takes its ticks do,
and in whatever order: the states that are published begin with `disconnected` and go along the
edges; only the owner closes the subscription, and no state is published after it; a task that rests
because its receiver is gone publishes nothing any more; that it has subscribed is published right
after the request was sent on the connection in question; and there is no attempt to connect once
the owner has closed. -/
theorem lifecycle (symbol : Symbol) (policy : ReconnectPolicy) (hs : List Happening) :
    Lifecycle (initial symbol policy) hs := by
  have hinitial := sound_initial symbol policy
  obtain ⟨-, hchain, hlast⟩ := hinitial.run hs
  refine ⟨hchain, hlast, fun before h after hsplit => ?_⟩
  obtain ⟨hsound, -, -⟩ := hinitial.run before
  obtain ⟨hstopping, hreceived⟩ := run_frame (initial symbol policy) before
  have he := effect_step ((initial symbol policy).run before).1 h
  refine
    { closed := fun hmem => ⟨?_, ?_⟩
      deserted := fun hmem => ?_
      subscribed := fun hmem => ?_
      stopped := fun hask => ?_ }
  · exact (he.of_closed hmem).imp_right fun hstop => (hstopping.mp hstop).resolve_left nofun
  · exact (he.sound hsound).quiet_of_closed (he.state_of_mem hsound hmem)
  · obtain ⟨hgone, hended⟩ := he.of_disconnected hmem
    refine ⟨?_, (quiet_of_ended hended).2, fun front h' _ _ htask => ?_⟩
    · by_contra hthere
      exact hgone (hreceived.mpr ⟨rfl, hthere⟩)
    · exact (effect_step _ h').silent_of_ended (quiet_of_ended hended).1 htask
  · obtain ⟨hstage, hopen, hseen⟩ := he.of_subscribed hmem
    have htried : ((initial symbol policy).run before).1.Tried
        ([] ++ ((initial symbol policy).run before).2) :=
      tried_run (fun hconnects => nomatch hconnects)
    exact ⟨htried (.inr hstage) hopen, hseen⟩
  · exact no_attempt_of_stopping (he.frame.1.mpr (.inr hask))

/-! ## Without a receiver -/

/-- As long as the owner does not close the subscription it is not closed. -/
theorem run_open (hc : c.Sound) (hopen : c.state ≠ .closed) (hgo : ¬ c.stopping)
    (hleft : ∀ h ∈ hs, h ≠ .close ∧ h ≠ .askToStop) : (c.run hs).1.state ≠ .closed := by
  induction hs generalizing c with
  | nil => exact hopen
  | cons h hs ih =>
    obtain ⟨hclose, hask⟩ := hleft h List.mem_cons_self
    have he := effect_step c h
    rw [run_cons]
    refine ih (he.sound hc) (fun hclosed => ?_) (fun hstop => ?_)
      fun h' hmem => hleft h' (List.mem_cons_of_mem _ hmem)
    · obtain ⟨-, hsame⟩ | ⟨hone, -⟩ := he.leads hc
      · exact hopen (hsame.symm.trans hclosed)
      · have hmem : .state .closed ∈ (c.step h).2 := by
          rw [← mem_statesOf, hone, hclosed]
          exact List.mem_cons_self
        exact (he.of_closed hmem).elim hclose hgo
    · exact (he.frame.1.mp hstop).elim hgo hask

theorem Deserted.undeliverable (hc : c.Deserted) : (c.step .undeliverable).1.stage = .ended := by
  obtain ⟨hgone, t, hstage⟩ | hended := hc
  · simp [step, hstage, hgone]
  · exact ((effect_step c _).quiet_of_ended hended).1

/-- **A task rests once it holds a tick that nobody takes.** Its receiver is gone, and it has read a
tick since, or was about to deliver one. From then on it makes no attempt to connect and publishes
nothing but that it rests or is closed; and when it has found the tick undeliverable it rests, until
the owner closes the subscription. -/
theorem settles_of_deserted (symbol : Symbol) (policy : ReconnectPolicy)
    (before after : List Happening) (t : Tick) (hgone : .receiverGone ∈ before)
    (hholds : ((initial symbol policy).run before).1.stage = .delivering t) :
    (∀ o ∈ (((initial symbol policy).run before).1.run after).2,
      o = .state .disconnected ∨ o = .state .closed) ∧
    ((∀ h ∈ before ++ after, h ≠ .close ∧ h ≠ .askToStop) → .undeliverable ∈ after →
      ((initial symbol policy).run (before ++ after)).1.state = .disconnected) := by
  obtain ⟨-, hreceived⟩ := run_frame (initial symbol policy) before
  have hdeserted : ((initial symbol policy).run before).1.Deserted :=
    .inl ⟨fun hthere => (hreceived.mp hthere).2 hgone, t, hholds⟩
  refine ⟨(run_deserted hdeserted).2, fun hleft hfound => ?_⟩
  have hinitial := sound_initial symbol policy
  have hopen := run_open hinitial nofun nofun hleft
  have hshows := (hinitial.run (before ++ after)).1 hopen
  obtain ⟨front, back, rfl⟩ := List.append_of_mem hfound
  have hended :
      ((initial symbol policy).run (before ++ (front ++ .undeliverable :: back))).1.stage =
        .ended := by
    simp only [run_append, run_cons]
    exact (quiet_of_ended (run_deserted hdeserted).1.undeliverable).1
  rwa [hended] at hshows

/-- A connection whose receiver goes away before it brings a purchase. -/
def lateToReceive : List Happening :=
  [.announce, .attempt, .connected, .requestSent, .receiverGone,
    .text (Pipeline.tradeFrame "1") default]

theorem settles_of_deserted_purchase :
    .receiverGone ∈ lateToReceive ∧
      ((initial Aggregator.byMinute.symbol .standard).run lateToReceive).1.stage =
        .delivering (Aggregator.purchase 1 0) ∧
      ((initial Aggregator.byMinute.symbol .standard).run
        (lateToReceive ++ [.undeliverable])).1.state = .disconnected := by
  have hgone : .receiverGone ∈ lateToReceive := by decide
  have hholds : ((initial Aggregator.byMinute.symbol .standard).run lateToReceive).1.stage =
      .delivering (Aggregator.purchase 1 0) := by decide +kernel
  refine ⟨hgone, hholds, (settles_of_deserted _ _ _ _ _ hgone hholds).2 ?_ ?_⟩ <;> decide

/-- Nobody takes the ticks of a connection that ends before it has brought one: the task connects
again. -/
theorem reconnects_deserted :
    ¬ ∀ (symbol : Symbol) (policy : ReconnectPolicy) (before after : List Happening),
      .receiverGone ∈ before →
        .attempt ∉ (((initial symbol policy).run before).1.run after).2 ∧
          .state .reconnecting ∉ (((initial symbol policy).run before).1.run after).2 ∧
            .state .connecting ∉ (((initial symbol policy).run before).1.run after).2 := by
  intro h
  have hquiet := h ⟨"BTC-USD"⟩ .standard
    [.announce, .attempt, .connected, .requestSent, .receiverGone]
    [.lost .closedByPeer, .rested, .announce, .attempt] (by decide)
  exact hquiet.1 (by decide)

end Connection

end TickChart
