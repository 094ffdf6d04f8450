import CameraBroker.Proofs.Clock
import CameraBroker.Proofs.Evaluation
import CameraBroker.Proofs.Retrying

/-! Calls of the opener by the loop. The loop takes a call attempt by attempt, and between two of its
turns anything may happen; a call by the policy alone is one recursion over a backend. Both ask for the
camera at the same instants, tell the same and come to the same. -/
namespace CameraBroker

/-- Another attempt is counted for the camera, and for the first time if there was none. -/
theorem Hardware.attemptsOf_countAttempt (c : CameraId) (w : Hardware) :
    (w.countAttempt c).attemptsOf c = w.attemptsOf c + 1 := by
  have counted : ∀ entries : List (CameraId × Nat), (entries.lookup c).isSome = true →
      ((entries.map fun x => if x.1 = c then (x.1, x.2 + 1) else x).lookup c).getD 0 =
        (entries.lookup c).getD 0 + 1 := by
    intro entries
    induction entries with
    | nil => exact fun known => (Bool.false_ne_true known).elim
    | cons entry rest ih =>
      obtain ⟨key, n⟩ := entry
      by_cases own : key = c
      · subst own
        simp
      · have other : (c == key) = false := by simpa using Ne.symm own
        simp only [List.map_cons, own, if_false, List.lookup_cons, other]
        exact ih
  unfold countAttempt
  split
  · rename_i known
    exact counted w.attempts known
  · rename_i unknown
    have none : w.attempts.lookup c = none := by
      simpa only [Option.not_isSome_iff_eq_none] using unknown
    simp [attemptsOf, List.lookup_append, none]

theorem Hardware.attemptsOf_congr {w w' : Hardware} (attempts : w'.attempts = w.attempts)
    (c : CameraId) : w'.attemptsOf c = w.attemptsOf c := by
  unfold attemptsOf
  rw [attempts]

def CallStep.instant? : CallStep → Option Nat
  | .ask _ _ instant => some instant
  | .sleep _ => none

namespace CallReport
variable {σ δ : Type} {r : CallReport σ δ}

theorem after_after (steps steps' : List CallStep) (events events' : List Event) :
    (r.after steps' events').after steps events = r.after (steps ++ steps') (events ++ events') := by
  simp [after]

theorem attempts_after (steps : List CallStep) (events : List Event) :
    (r.after steps events).attempts = steps.filterMap CallStep.instant? ++ r.attempts :=
  List.filterMap_append

end CallReport

namespace RetryPolicy

/-- After these outcomes a call that began at `start` goes on at `t`, having taken these steps. -/
structure Comes (p : RetryPolicy) (c : CameraId) (start : Nat) (outcomes : List Outcome)
    (steps : List CallStep) (events : List Event) (t : Nat) : Prop where
  few : outcomes.length < p.attempts
  onward : ∀ more, p.openWithRetry Outcome.backend c start (outcomes ++ more) =
    (p.attemptsLeft Outcome.backend c (p.attempts - outcomes.length) t more).after steps events

variable {p : RetryPolicy} {c : CameraId} {start t : Nat} {outcomes : List Outcome}
  {steps : List CallStep} {events : List Event}

theorem Comes.begins (p : RetryPolicy) (c : CameraId) (start : Nat) :
    p.Comes c start [] [] [] start :=
  ⟨Nat.lt_of_lt_of_le Nat.one_pos (Nat.le_max_right _ _), fun _ => rfl⟩

/-- The next outcome is judged, and it ends the call or leads to one more attempt. -/
theorem Comes.outcome (comes : p.Comes c start outcomes steps events t) (o : Outcome)
    (more : List Outcome) :
    let number := outcomes.length + 1
    p.openWithRetry Outcome.backend c start (outcomes ++ o :: more) =
      (match o.error with
        | none => (⟨some (), [.ask c number t], t + o.delay,
            if 1 < number then [.openedOnAttempt c number p.attempts] else [], more⟩ :
              CallReport (List Outcome) Unit)
        | some e => match p.judge number e with
          | .again => (p.attemptsLeft Outcome.backend c (p.attempts - number)
              (t + o.delay + p.interval) more).after [.ask c number t, .sleep p.interval]
                [.attemptFailed c number p.attempts e p.interval]
          | .giveUp => ⟨none, [.ask c number t], t + o.delay, [.gaveUp c number e], more⟩).after
        steps events := by
  have few := comes.few
  obtain ⟨left, some⟩ : ∃ left, p.attempts - outcomes.length = left + 1 :=
    ⟨p.attempts - outcomes.length - 1, by omega⟩
  have number : p.attempts - left = outcomes.length + 1 := by omega
  have rest : p.attempts - (outcomes.length + 1) = left := by omega
  obtain ⟨delay, error⟩ := o
  rw [comes.onward, some, attemptsLeft]
  simp only [Outcome.backend, number, rest]
  cases error with
  | none => rfl
  | some e => rfl

theorem Comes.next (comes : p.Comes c start outcomes steps events t) {e : DeviceError}
    (again : p.judge (outcomes.length + 1) e = .again) (delay : Nat) :
    p.Comes c start (outcomes ++ [⟨delay, some e⟩])
      (steps ++ [.ask c (outcomes.length + 1) t, .sleep p.interval])
      (events ++ [.attemptFailed c (outcomes.length + 1) p.attempts e p.interval])
      (t + delay + p.interval) := by
  refine ⟨?_, fun more => ?_⟩
  · rw [List.length_append]
    exact (judge_eq_again.1 again).2
  · have judged := comes.outcome ⟨delay, some e⟩ more
    simp only [again] at judged
    rw [List.append_assoc, List.singleton_append, judged, CallReport.after_after,
      List.length_append]
    rfl

/-- The attempt of now is among those of every call that starts with these outcomes. -/
theorem Comes.attempts_of (comes : p.Comes c start outcomes steps events t) (more : List Outcome) :
    steps.filterMap CallStep.instant? ++ [t] <+:
      (p.openWithRetry Outcome.backend c start (outcomes ++ more)).attempts := by
  have few := comes.few
  obtain ⟨left, some⟩ : ∃ left, p.attempts - outcomes.length = left + 1 :=
    ⟨p.attempts - outcomes.length - 1, by omega⟩
  have first : [t] <+: (p.attemptsLeft Outcome.backend c (left + 1) t more).attempts := by
    rw [attemptsLeft]
    dsimp only
    split
    · exact List.prefix_refl _
    · split
      · rw [CallReport.attempts_after]
        exact List.prefix_append _ _
      · exact List.prefix_refl _
  rw [comes.onward, CallReport.attempts_after, some]
  exact (List.prefix_append_right_inj _).2 first

/-- What a call that waits has done: when it asked, and what it told. A turn that comes late counts as
a longer delay of the outcome before it. -/
inductive Wait (p : RetryPolicy) (c : CameraId) (start now : Nat) :
    OpenerCall → List Nat → List Event → Prop where
  | acquiring {t : Nat} {outcomes : List Outcome} {steps : List CallStep} {events : List Event}
      (comes : p.Comes c start outcomes steps events t) (begun : t ≤ now) (d : DeviceId)
      (due : Nat) : Wait p c start now (.acquiring (outcomes.length + 1) d due)
        (steps.filterMap CallStep.instant? ++ [t]) events
  | pausing {t due : Nat} {outcomes : List Outcome} {steps : List CallStep} {events : List Event}
      {e : DeviceError} (comes : p.Comes c start outcomes steps events t)
      (again : p.judge (outcomes.length + 1) e = .again) (pause : t + p.interval ≤ due) :
      Wait p c start now (.pausing (outcomes.length + 1) due)
        (steps.filterMap CallStep.instant? ++ [t])
        (events ++ [.attemptFailed c (outcomes.length + 1) p.attempts e p.interval])

theorem Wait.later {now now' : Nat} {call : OpenerCall} {attempts : List Nat}
    (wait : p.Wait c start now call attempts events) (le : now ≤ now') :
    p.Wait c start now' call attempts events := by
  cases wait with
  | acquiring comes begun d due => exact .acquiring comes (Nat.le_trans begun le) d due
  | pausing comes again pause => exact .pausing comes again pause

/-- So far the call is like every call of the policy that starts with certain outcomes. -/
theorem Wait.soFar {now : Nat} {call : OpenerCall} {attempts : List Nat}
    (wait : p.Wait c start now call attempts events) : ∃ outcomes, ∀ more,
      let r := p.openWithRetry Outcome.backend c start (outcomes ++ more)
      attempts <+: r.attempts ∧ events <+: r.events := by
  cases wait with
  | @acquiring t outcomes steps _ comes begun d due =>
    refine ⟨outcomes, fun more => ⟨comes.attempts_of more, ?_⟩⟩
    rw [comes.onward]
    exact List.prefix_append _ _
  | @pausing t due outcomes steps events e comes again pause =>
    have next := comes.next again 0
    refine ⟨_, fun more => ⟨.trans ?_ (next.attempts_of more), ?_⟩⟩
    · rw [List.filterMap_append]
      exact List.prefix_append _ _
    · rw [next.onward]
      exact List.prefix_append _ _

end RetryPolicy

namespace Broker

/-- What was told of calls of the opener, latest first. -/
def calls (b : Broker) : List Event := b.hw.history.filter Event.isOfCall

/-- When a run tried to open the camera. -/
def attemptsIn (c : CameraId) : List Action → Broker → List Nat
  | [], _ => []
  | a :: actions, b =>
    List.replicate ((b.step a).hw.attemptsOf c - b.hw.attemptsOf c) b.now ++
      attemptsIn c actions (b.step a)

inductive Concludes (c : CameraId) : Option Unit → Event → Prop where
  | device (d : DeviceId) : Concludes c (some ()) (.deviceOpened c d)
  | nothing : Concludes c none (.openGivenUp c)

/-- The call of the opener is over, and it was like this one. -/
structure Ends (c : CameraId) (old : List Event) (attempts : List Nat) (b : Broker)
    (r : CallReport (List Outcome) Unit) : Prop where
  attempts : attempts = r.attempts
  finish : b.now = r.finish
  told : ∃ e, Concludes c r.device e ∧ b.calls = e :: (r.events.reverse ++ old)
  used : r.backend = []
  stage : b.loop.stage = .reading

structure InCall (p : RetryPolicy) (c : CameraId) (h : HandleId) (old events : List Event)
    (b : Broker) : Prop where
  policy : b.opener = .retrying p
  handle : ∃ x, b.handles[h]? = some x ∧ x.camera = c
  told : b.calls = events.reverse ++ old

def Underway (p : RetryPolicy) (c : CameraId) (h : HandleId) (start : Nat) (old : List Event)
    (attempts : List Nat) (b : Broker) : Prop :=
  ∃ call events, b.loop.stage = .opening h call ∧ InCall p c h old events b ∧
    p.Wait c start b.now call attempts events

def CallGoes (p : RetryPolicy) (c : CameraId) (h : HandleId) (start : Nat) (old : List Event)
    (attempts : List Nat) (b : Broker) : Prop :=
  Underway p c h start old attempts b ∨
    ∃ outcomes, Ends c old attempts b (p.openWithRetry Outcome.backend c start outcomes)

section Turns
variable {b b' : Broker} {p : RetryPolicy} {c : CameraId} {h : HandleId} {start t : Nat}
  {outcomes : List Outcome} {steps : List CallStep} {old events : List Event}
  {attempts : List Nat}

theorem calls_emit {e : Event} (ofCall : e.isOfCall = true) (b : Broker) :
    (b.emit e).calls = e :: b.calls := List.filter_cons_of_pos ofCall

theorem calls_emit_other {e : Event} (other : e.isOfCall = false) (b : Broker) :
    (b.emit e).calls = b.calls := List.filter_cons_of_neg (by simp [other])

theorem calls_of_operates {w : Hardware} (operates : b.hw.Operates w) :
    { b with hw := w }.calls = b.calls :=
  operates.filter fun e news => by cases e <;> first | rfl | cases news

theorem calls_popHead (b : Broker) : b.popHead.calls = b.calls := by
  unfold popHead
  split
  · rfl
  · exact calls_emit_other rfl _

theorem calls_giveUpOpen (h : HandleId) (reason : OpenFailure) (b : Broker) :
    (b.giveUpOpen h reason).calls = b.calls := by
  have fails : (b.failHandle h reason).calls = b.calls :=
    congrArg (·.hw.history) ((Onward.refl b).failHandle h reason).backdrop
  exact (calls_popHead _).trans fails

theorem calls_deviceReady (c : CameraId) (d : DeviceId) (b : Broker) :
    (b.deviceReady c d).calls = .deviceOpened c d :: b.calls := by
  unfold deviceReady startSession
  dsimp only
  split <;> exact calls_emit rfl b

/-- The loop judges a failed attempt as the policy does. -/
theorem goes_of_failure (comes : p.Comes c start outcomes steps events t) (begun : t ≤ b.now)
    (inCall : InCall p c h old events b) (e : DeviceError) :
    CallGoes p c h start old (steps.filterMap CallStep.instant? ++ [t])
      (b.attemptFailed p h c (outcomes.length + 1) e) := by
  cases verdict : p.judge (outcomes.length + 1) e with
  | again =>
    let failed : Event := .attemptFailed c (outcomes.length + 1) p.attempts e p.interval
    have waits : b.attemptFailed p h c (outcomes.length + 1) e = (b.emit failed).setStage
        (.opening h (.pausing (outcomes.length + 1) (b.now + p.interval))) := by
      rw [attemptFailed, verdict]
    have told : (b.emit failed).calls = (events ++ [failed]).reverse ++ old := by
      rw [calls_emit rfl, inCall.told, List.reverse_concat]
      rfl
    rw [waits]
    exact .inl ⟨_, _, rfl, ⟨inCall.policy, inCall.handle, told⟩,
      .pausing comes verdict (Nat.add_le_add_right begun _)⟩
  | giveUp =>
    let given := (b.emit (.gaveUp c (outcomes.length + 1) e)).emit (.openGivenUp c)
    have ends : b.attemptFailed p h c (outcomes.length + 1) e = given.giveUpOpen h .openFailed := by
      rw [attemptFailed, verdict]
      rfl
    have told : (given.giveUpOpen h .openFailed).calls =
        .openGivenUp c :: .gaveUp c (outcomes.length + 1) e :: b.calls := by
      rw [calls_giveUpOpen, calls_emit rfl, calls_emit rfl]
    have clock : (given.giveUpOpen h .openFailed).now = b.now :=
      congrArg Prod.fst ((Retains.refl given).giveUpOpen h .openFailed).setting
    have report := comes.outcome ⟨b.now - t, some e⟩ []
    simp only [verdict] at report
    refine .inr ⟨outcomes ++ [⟨b.now - t, some e⟩], ?_⟩
    rw [ends, report]
    refine ⟨?_, ?_, ⟨_, .nothing, ?_⟩, rfl, rfl⟩
    · rw [CallReport.attempts_after]
      rfl
    · rw [clock]
      exact (Nat.add_sub_cancel' begun).symm
    · rw [told, inCall.told]
      simp [CallReport.after]

theorem attempts_attemptFailed (p : RetryPolicy) (h : HandleId) (c : CameraId) (attempt : Nat)
    (e : DeviceError) (b : Broker) :
    (b.attemptFailed p h c attempt e).hw.attempts = b.hw.attempts := by
  unfold attemptFailed
  split
  · rfl
  · let given := (b.emit (.gaveUp c attempt e)).emit (.openGivenUp c)
    have fails : (given.failHandle h .openFailed).hw.attempts = given.hw.attempts :=
      congrArg (·.hw.attempts) ((Onward.refl given).failHandle h .openFailed).backdrop
    have popped : ∀ o : Broker, o.popHead.hw.attempts = o.hw.attempts := by
      intro o
      unfold popHead
      split <;> rfl
    exact (popped _).trans fails

/-- A device that is there in time ends the call. -/
theorem ends_of_deviceReady (comes : p.Comes c start outcomes steps events t) (begun : t ≤ b.now)
    (inCall : InCall p c h old events b) (d : DeviceId) {noted : Broker}
    (notes : noted = if 1 < outcomes.length + 1
      then b.emit (.openedOnAttempt c (outcomes.length + 1) p.attempts) else b) :
    Ends c old (steps.filterMap CallStep.instant? ++ [t]) (noted.deviceReady c d)
        (p.openWithRetry Outcome.backend c start (outcomes ++ [⟨b.now - t, none⟩])) ∧
      (noted.deviceReady c d).hw.attempts = b.hw.attempts := by
  let note : Event := .openedOnAttempt c (outcomes.length + 1) p.attempts
  have told : noted.calls = (if 1 < outcomes.length + 1 then [note] else []) ++ b.calls := by
    rw [notes]
    split
    · exact calls_emit rfl b
    · rfl
  have kept : noted.now = b.now ∧ noted.hw.attempts = b.hw.attempts := by
    rw [notes]
    split <;> exact ⟨rfl, rfl⟩
  have finished : (noted.deviceReady c d).now = noted.now ∧
      (noted.deviceReady c d).hw.attempts = noted.hw.attempts ∧
      (noted.deviceReady c d).loop.stage = .reading := by
    unfold deviceReady startSession
    dsimp only
    split <;> exact ⟨rfl, rfl, rfl⟩
  refine ⟨?_, finished.2.1.trans kept.2⟩
  rw [comes.outcome ⟨b.now - t, none⟩ []]
  refine ⟨?_, ?_, ⟨_, .device d, ?_⟩, rfl, finished.2.2⟩
  · rw [CallReport.attempts_after]
    rfl
  · rw [finished.1, kept.1]
    exact (Nat.add_sub_cancel' begun).symm
  · rw [calls_deviceReady, told, inCall.told]
    simp only [CallReport.after, note]
    split <;> simp

theorem goes_of_endAttempt (comes : p.Comes c start outcomes steps events t) (begun : t ≤ b.now)
    (inCall : InCall p c h old events b) (d : DeviceId) :
    CallGoes p c h start old (steps.filterMap CallStep.instant? ++ [t])
        (b.endAttempt p h c (outcomes.length + 1) d) ∧
      (b.endAttempt p h c (outcomes.length + 1) d).hw.attempts = b.hw.attempts := by
  have operates := Hardware.Operates.finishOpen c d b.hw
  cases ended : b.hw.finishOpen c d with
  | mk result w =>
    rw [ended] at operates
    let tried : Broker := { b with hw := w }
    have still : InCall p c h old events tried :=
      ⟨inCall.policy, inCall.handle, (calls_of_operates operates).trans inCall.told⟩
    have later : t ≤ tried.now := Nat.le_trans begun (Nat.le_of_eq operates.now.symm)
    cases result with
    | error e =>
      have fails : b.endAttempt p h c (outcomes.length + 1) d =
          tried.attemptFailed p h c (outcomes.length + 1) e := by
        rw [endAttempt, ended]
      rw [fails]
      exact ⟨goes_of_failure comes later still e,
        (attempts_attemptFailed p h c _ e tried).trans operates.attempts⟩
    | ok done =>
      obtain ⟨ends, same⟩ := ends_of_deviceReady comes later still d rfl
      rw [endAttempt, ended]
      exact ⟨.inr ⟨_, ends⟩, same.trans operates.attempts⟩

/-- The loop tries to open the camera, when it is the turn of the next attempt. -/
theorem goes_of_beginAttempt (comes : p.Comes c start outcomes steps events b.now)
    (inCall : InCall p c h old events b) :
    CallGoes p c h start old (steps.filterMap CallStep.instant? ++ [b.now])
        (b.beginAttempt p h c (outcomes.length + 1)) ∧
      (b.beginAttempt p h c (outcomes.length + 1)).hw.attemptsOf c = b.hw.attemptsOf c + 1 := by
  obtain ⟨counters, counted, ⟨e, cameras, failed⟩ | ⟨x, -, -, -, -, begun⟩⟩ :=
    b.beginAttempt_cases p h c (outcomes.length + 1)
  · let tried : Broker := { b with hw := { b.hw with attempts := counters, cameras } }
    have still : InCall p c h old events tried := ⟨inCall.policy, inCall.handle, inCall.told⟩
    have same : (tried.attemptFailed p h c (outcomes.length + 1) e).hw.attempts =
        (b.hw.countAttempt c).attempts := by
      rw [attempts_attemptFailed, counted]
    rw [failed]
    exact ⟨goes_of_failure (b := tried) comes (Nat.le_refl _) still e,
      (Hardware.attemptsOf_congr same c).trans (b.hw.attemptsOf_countAttempt c)⟩
  · have same : (b.beginAttempt p h c (outcomes.length + 1)).hw.attempts =
        (b.hw.countAttempt c).attempts := by
      rw [begun, counted]
      rfl
    refine ⟨?_, (Hardware.attemptsOf_congr same c).trans (b.hw.attemptsOf_countAttempt c)⟩
    rw [begun]
    exact .inl ⟨_, _, rfl, ⟨inCall.policy, inCall.handle, inCall.told⟩,
      .acquiring comes (Nat.le_refl _) _ _⟩

/-- A loop that waits in a call takes its turn when the call can go on. -/
theorem Underway.turn (under : Underway p c h start old attempts b) (ready : b.loopReady = true) :
    CallGoes p c h start old (attempts ++
      List.replicate (b.resumeLoop.hw.attemptsOf c - b.hw.attemptsOf c) b.now) b.resumeLoop := by
  obtain ⟨call, events, stage, inCall, wait⟩ := under
  obtain ⟨x, hx, camera⟩ := inCall.handle
  have resumes : b.resumeLoop = b.resumeOpening h call := by rw [resumeLoop, stage]
  have due : OpenerCall.due call ≤ b.now := by simpa [loopReady, stage] using ready
  cases wait with
  | @acquiring t outcomes steps _ comes begun d due =>
    have ends : b.resumeLoop = b.endAttempt p h c (outcomes.length + 1) d := by
      rw [resumes, resumeOpening, hx, inCall.policy, ← camera]
    obtain ⟨goes, same⟩ := goes_of_endAttempt comes begun inCall d
    rw [ends, Hardware.attemptsOf_congr same, Nat.sub_self, List.replicate_zero, List.append_nil]
    exact goes
  | @pausing t due' outcomes steps events e comes again pause =>
    have delay : t + (b.now - p.interval - t) + p.interval = b.now := by
      have late : due' ≤ b.now := due
      omega
    have next := comes.next again (b.now - p.interval - t)
    rw [delay] at next
    have number : (outcomes ++ [(⟨b.now - p.interval - t, some e⟩ : Outcome)]).length =
        outcomes.length + 1 := List.length_append
    have begins : b.resumeLoop = b.beginAttempt p h c (outcomes.length + 1 + 1) := by
      rw [resumes, resumeOpening, hx, inCall.policy, ← camera]
    obtain ⟨goes, more⟩ := goes_of_beginAttempt next inCall
    rw [number] at goes more
    rw [begins, more, Nat.add_sub_cancel_left]
    rw [List.filterMap_append] at goes
    exact goes

end Turns

/-! What happens beside the loop. -/

structure RestsCalls (b b' : Broker) : Prop where
  stage : b'.loop.stage = b.loop.stage
  policy : b'.opener.policy? = b.opener.policy?
  attempts : b'.hw.attempts = b.hw.attempts
  calls : b'.calls = b.calls
  later : b.now ≤ b'.now

namespace RestsCalls
variable {b o : Broker}

theorem refl (b : Broker) : b.RestsCalls b := ⟨rfl, rfl, rfl, rfl, Nat.le_refl _⟩

theorem trans {b' : Broker} (h : b.RestsCalls o) (k : o.RestsCalls b') : b.RestsCalls b' :=
  ⟨k.stage.trans h.stage, k.policy.trans h.policy, k.attempts.trans h.attempts,
    k.calls.trans h.calls, Nat.le_trans h.later k.later⟩

theorem of_onward {o' : Broker} (on : b.Onward o o') : b.RestsCalls o :=
  ⟨congrArg (·.loop.stage) on.backdrop, congrArg (·.opener.policy?) on.backdrop,
    congrArg (·.hw.attempts) on.backdrop, congrArg (·.hw.history) on.backdrop,
    Nat.le_of_eq (congrArg (·.now) on.backdrop).symm⟩

theorem of_operates {w : Hardware} (operates : b.hw.Operates w) : b.RestsCalls { b with hw := w } :=
  ⟨rfl, rfl, operates.attempts, calls_of_operates operates, Nat.le_of_eq operates.now.symm⟩

theorem emit {e : Event} (other : e.isOfCall = false) (b : Broker) : b.RestsCalls (b.emit e) :=
  ⟨rfl, rfl, rfl, calls_emit_other other b, Nat.le_refl _⟩

theorem resumeClose (k : Nat) (b : Broker) : b.RestsCalls (b.resumeClose k) := by
  have marked : ∀ {o : Broker}, b.RestsCalls o → ∀ closes, b.RestsCalls { o with closes } :=
    fun h _ => ⟨h.stage, h.policy, h.attempts, h.calls, h.later⟩
  unfold Broker.resumeClose
  split
  · exact refl b
  · rename_i c hk
    obtain ⟨i, stage⟩ := c
    cases stage with
    | fresh =>
      rcases (Onward.refl b).beginClose i with ⟨nothing, -⟩ | ⟨d, o, o', on, begun, -⟩
      · rw [nothing]
        exact marked (refl b) _
      · have asked := (of_onward on).trans (of_operates (Hardware.Operates.closeDevice d o.hw))
        rw [begun]
        cases (o.hw.closeDevice d).1 <;> exact marked asked _
    | awaiting => exact marked (refl b) _
    | done => exact marked (refl b) _

theorem resumeTask {t : Task} (other : t ≠ .loop) (b : Broker) : b.RestsCalls (b.resumeTask t) := by
  cases t with
  | release d => exact of_operates (Hardware.Operates.resumeRelease d b.hw)
  | observe h => exact of_onward ((Onward.refl b).observe h)
  | listen i => exact of_onward ((Onward.refl b).listen i)
  | close k => exact resumeClose k b
  | countdown i generation => exact of_onward ((Onward.refl b).wakeCountdown i generation)
  | loop => exact absurd rfl other

theorem guarded {p : Prop} [Decidable p] (rests : b.RestsCalls o) :
    b.RestsCalls (if p then o else b) := by
  split
  · exact rests
  · exact refl b

theorem onManual (d : DeviceId) (f : Stream → Stream) (b : Broker) :
    b.RestsCalls (b.onManual d f) := by
  unfold Broker.onManual
  split
  · exact guarded ⟨rfl, rfl, rfl, rfl, Nat.le_refl _⟩
  · exact refl b

theorem step {a : Action} (other : a ≠ .turn .loop) (b : Broker) : b.RestsCalls (b.step a) := by
  cases a with
  | turn t => exact guarded (resumeTask (fun same => other (same ▸ rfl)) b)
  | «open» c share => exact guarded (of_onward ((Onward.refl b).requestOpen c share))
  | closeAll => exact guarded (of_onward (Onward.refl b).requestCloseAll)
  | shutdown =>
    have offered := of_onward ((Onward.refl b).offerOrLeave .closeAll)
    exact guarded ⟨offered.stage, offered.policy, offered.attempts, offered.calls, offered.later⟩
  | leave => exact guarded ⟨rfl, rfl, rfl, rfl, Nat.le_refl _⟩
  | join => exact guarded (guarded (emit rfl b))
  | disconnect h => exact of_onward ((Onward.refl b).disconnect h)
  | forget h => exact ⟨rfl, rfl, rfl, rfl, Nat.le_refl _⟩
  | grant =>
    simp only [Broker.step, Broker.grant]
    split
    · exact refl b
    · exact ⟨rfl, rfl, rfl, calls_emit_other rfl _, Nat.le_refl _⟩
  | revoke => exact guarded ⟨rfl, rfl, rfl, calls_emit_other rfl _, Nat.le_refl _⟩
  | unplug c => exact of_operates (Hardware.Operates.unplug c _ b.hw)
  | addCamera c => exact of_operates (Hardware.Operates.addCamera c b.hw)
  | failNext c n => exact ⟨rfl, rfl, rfl, rfl, Nat.le_refl _⟩
  | setLatency o c => exact ⟨rfl, rfl, rfl, rfl, Nat.le_refl _⟩
  | publish d state => exact onManual d _ b
  | dropPublisher d => exact onManual d _ b
  | script delay onClose outcomes =>
    simp only [Broker.step, rescript]
    split
    · rename_i scripted
      exact ⟨rfl, by rw [scripted]; rfl, rfl, rfl, Nat.le_refl _⟩
    · exact refl b
  | elapse ms => exact ⟨rfl, rfl, rfl, rfl, Nat.le_add_right _ _⟩

end RestsCalls

/-! Whole calls. -/

section Calls
variable {b : Broker} {p : RetryPolicy} {c : CameraId} {h : HandleId} {start : Nat}
  {old : List Event} {attempts : List Nat}

/-- Whatever happens, a call that is under way goes on like a call of the policy. -/
theorem Underway.step (hr : Reachable b) (under : Underway p c h start old attempts b)
    (a : Action) : CallGoes p c h start old (attempts ++
      List.replicate ((b.step a).hw.attemptsOf c - b.hw.attemptsOf c) b.now) (b.step a) := by
  by_cases turn : a = .turn .loop
  · subst turn
    cases ready : b.loopReady with
    | true =>
      rw [step_loop ready]
      exact under.turn ready
    | false =>
      rw [step_loop_idle ready, Nat.sub_self, List.replicate_zero, List.append_nil]
      exact .inl under
  · have rests := RestsCalls.step turn b
    obtain ⟨call, events, stage, inCall, wait⟩ := under
    obtain ⟨x, hx, camera⟩ := inCall.handle
    obtain ⟨y, hy, xy⟩ := (beside_step hr.sound.devicesFit turn).fades h x hx
    have policy : (b.step a).opener.policy? = some p := by
      rw [rests.policy, inCall.policy]
      rfl
    rw [Hardware.attemptsOf_congr rests.attempts, Nat.sub_self, List.replicate_zero,
      List.append_nil]
    exact .inl ⟨call, events, rests.stage.trans stage, ⟨Opener.policy?_eq_some.1 policy,
      ⟨y, hy, xy.camera.trans camera⟩, rests.calls.trans inCall.told⟩, wait.later rests.later⟩

theorem Underway.run (hr : Reachable b) (under : Underway p c h start old attempts b)
    (actions : List Action) :
    Underway p c h start old (attempts ++ attemptsIn c actions b) (b.run actions) ∨
      ∃ front back outcomes, actions = front ++ back ∧
        Ends c old (attempts ++ attemptsIn c front b) (b.run front)
          (p.openWithRetry Outcome.backend c start outcomes) := by
  induction actions generalizing b attempts with
  | nil =>
    rw [attemptsIn, List.append_nil]
    exact .inl under
  | cons a actions ih =>
    rcases under.step hr a with on | ⟨outcomes, ends⟩
    · rcases ih (hr.step a) on with still | ⟨front, back, outcomes, rfl, ends⟩
      · rw [List.append_assoc] at still
        exact .inl still
      · rw [List.append_assoc] at ends
        exact .inr ⟨a :: front, back, outcomes, rfl, ends⟩
    · refine .inr ⟨[a], actions, outcomes, rfl, ?_⟩
      rw [attemptsIn, attemptsIn, List.append_nil]
      exact ends

theorem calls_closeSessions (sessions : List SessionId) (b : Broker) :
    (b.closeSessions sessions .read).calls = b.calls := by
  have spawned : (sessions.foldl (fun b i => b.spawnClose i) b).calls = b.calls :=
    List.foldlRecOn (motive := fun o : Broker => o.calls = b.calls) _ _ rfl fun _ same _ _ => same
  unfold closeSessions awaitClosed
  split <;> exact spawned

/-- An open that is evaluated leaves the opener alone unless nothing is in its way. -/
theorem Evaluation.calls_or_free {g : HandleId} {share : Bool} {x : Handle} {b' : Broker}
    (evaluation : b.Evaluation g share x b') : b'.calls = b.calls ∨
      x.state = .unopened ∧ (share = false → (b.conflicting x.camera).1 = []) ∧
        b.activeFor? x.camera = none ∧ b.granted = true := by
  have taken : b.takeIn.calls = b.calls := calls_emit_other rfl _
  have told : ∀ {e : Event}, e.isOfCall = false → (b.takeIn.emit e).calls = b.calls :=
    fun other => (calls_emit_other other _).trans taken
  cases evaluation with
  | stale answered => exact .inl ((calls_popHead _).trans (told rfl))
  | makeRoom waits exclusive conflict some => exact .inl ((calls_closeSessions _ _).trans (told rfl))
  | replace waits active => exact .inl ((calls_closeSessions _ _).trans (told rfl))
  | @attach waits alone i active up =>
    have joins : (b.takeIn.connectTo i g).calls = b.takeIn.calls :=
      congrArg (·.hw.history) ((Onward.refl b.takeIn).connectTo i g).backdrop
    exact .inl ((calls_popHead _).trans (joins.trans taken))
  | deny waits alone none refused => exact .inl ((calls_giveUpOpen g _ _).trans (told rfl))
  | ask waits alone none granted replies => exact .inr ⟨waits, alone, none, granted⟩

/-- Nothing is in the way of the open. -/
theorem resumeLoop_of_free {share : Bool} {x : Handle} (evaluates : b.Evaluates h share x)
    (waits : x.state = .unopened) (alone : share = false → (b.conflicting x.camera).1 = [])
    (none : b.activeFor? x.camera = none) : b.resumeLoop = b.takeIn.beginOpening h x.camera := by
  have hx : b.takeIn.handles[h]? = some x := evaluates.handle
  have free : b.takeIn.activeFor? x.camera = .none := none
  have placed : b.takeIn.place h x.camera = b.takeIn.beginOpening h x.camera := by
    rw [place, free]
  rw [resumeLoop_of_evaluates evaluates, serveOpen, hx]
  dsimp only
  rw [if_neg (not_not.2 waits), placed]
  cases share with
  | true => rfl
  | false =>
    have same : b.takeIn.conflicting x.camera = b.conflicting x.camera := rfl
    rw [if_neg Bool.false_ne_true, same]
    cases conflict : b.conflicting x.camera with
    | mk others own =>
      obtain rfl : others = [] := by simpa [conflict] using alone rfl
      rfl

theorem loop_of_called (hr : Reachable b) {a : Action} {e : Event}
    (called : b.calls.count e < (b.step a).calls.count e) :
    a = .turn .loop ∧ b.step a = b.resumeLoop := by
  have turn : a = .turn .loop := by
    by_contra other
    rw [(RestsCalls.step other b).calls] at called
    exact absurd called (Nat.lt_irrefl _)
  subst turn
  refine ⟨rfl, ?_⟩
  rcases loop_turn hr.sound with stays | ⟨turns, -⟩
  · rw [stays] at called
    exact absurd called (Nat.lt_irrefl _)
  · exact turns

/-- The opener is asked in a turn of the loop that evaluates the oldest open. -/
theorem Reachable.beginAttempt_of_asked (hr : Reachable b) (policy : b.opener = .retrying p)
    {a : Action} (asked : b.hw.history.count (.openerAsked c h) <
      (b.step a).hw.history.count (.openerAsked c h)) :
    ∃ o : Broker, o.now = b.now ∧ o.hw.attempts = b.hw.attempts ∧
      InCall p c h (.openerAsked c h :: b.calls) [] o ∧ b.step a = o.beginAttempt p h c 1 := by
  have more : b.calls.count (.openerAsked c h) < (b.step a).calls.count (.openerAsked c h) := by
    rwa [calls, calls, List.count_filter rfl, List.count_filter rfl]
  obtain ⟨new, same, news⟩ := hr.news a
  have mem : .openerAsked c h ∈ new := by
    rw [← count_milestones rfl, ← count_milestones rfl, same, List.count_append] at asked
    exact List.count_pos_iff.1 (by omega)
  obtain ⟨reading, ask⟩ := news.opener c h mem
  obtain ⟨rfl, turns⟩ := loop_of_called hr more
  have still : ∀ {events : List Event}, .openerAsked c h ∉ events →
      b.resumeLoop.view.milestones ≠ events ++ b.view.milestones := by
    intro events absent told
    have told : (b.step (.turn .loop)).hw.milestones = events ++ b.hw.milestones := turns ▸ told
    exact absent (List.append_cancel_right (same.symm.trans told) ▸ mem)
  rw [turns] at more ⊢
  cases course_resumeLoop hr.sound with
  | rests new handles told closes opens =>
    refine absurd told (still fun mem => ?_)
    obtain ⟨i, other⟩ := closes _ mem
    cases other
  | clears last handles told opens => exact absurd told (still (by simp))
  | replies stage hx replies => cases reading.symm.trans stage
  | @evaluates g share x evaluates evaluation =>
    rcases evaluation.calls_or_free with unasked | ⟨waits, alone, none, granted⟩
    · rw [unasked] at more
      exact absurd more (Nat.lt_irrefl _)
    · obtain ⟨share', rest', head', -⟩ := ask.head
      obtain ⟨rest, head⟩ := evaluates.head
      have same : Request.open h share' :: rest' = .open g share :: rest := head'.symm.trans head
      obtain rfl : h = g := by
        cases same
        rfl
      have camera : x.camera = c := by
        have wanted : b.view.wanted[h]? = some x.camera := by simp [view, evaluates.handle]
        exact Option.some.inj (wanted.symm.trans ask.camera)
      let permitted := b.takeIn.emit (.permissionAsked c b.takeIn.granted)
      have granted : permitted.granted = true := granted
      have retries : (permitted.emit (.openerAsked c h)).opener = .retrying p := policy
      have silent : permitted.calls = b.calls :=
        (calls_emit_other rfl _).trans (calls_emit_other rfl _)
      refine ⟨permitted.emit (.openerAsked c h), rfl, rfl,
        ⟨policy, ⟨x, evaluates.handle, camera⟩, ?_⟩, ?_⟩
      · rw [calls_emit rfl, silent]
        rfl
      · rw [resumeLoop_of_free evaluates waits alone none, camera, beginOpening]
        dsimp only
        rw [if_pos granted, retries]

/-- Whenever the loop asks its opener for a device, the call goes as `RetryPolicy.openWithRetry` goes
with the same policy over certain outcomes. As long as the loop waits, it has tried to open the camera
and told of it as every such call does first. If the call ends, it has used up its outcomes: the
attempts were at the same instants, the same was told of them, and the answer came at the same instant
and was the same. -/
theorem Reachable.opener_retries (hr : Reachable b) (policy : b.opener = .retrying p) {a : Action}
    (asked : b.hw.history.count (.openerAsked c h) <
      (b.step a).hw.history.count (.openerAsked c h)) (actions : List Action) :
    (∃ call events outcomes, (b.run (a :: actions)).loop.stage = .opening h call ∧
      (b.run (a :: actions)).calls = events.reverse ++ .openerAsked c h :: b.calls ∧
      ∀ more, let r := p.openWithRetry Outcome.backend c b.now (outcomes ++ more)
        attemptsIn c (a :: actions) b <+: r.attempts ∧ events <+: r.events) ∨
    ∃ before after outcomes, actions = before ++ after ∧
      Ends c (.openerAsked c h :: b.calls) (attemptsIn c (a :: before) b) (b.run (a :: before))
        (p.openWithRetry Outcome.backend c b.now outcomes) := by
  obtain ⟨o, clock, counters, inCall, begins⟩ := hr.beginAttempt_of_asked policy asked
  obtain ⟨goes, more⟩ := goes_of_beginAttempt (.begins p c o.now) inCall
  have first : List.replicate ((b.step a).hw.attemptsOf c - b.hw.attemptsOf c) b.now = [o.now] := by
    have counted : (b.step a).hw.attemptsOf c = b.hw.attemptsOf c + 1 := by
      rw [begins, ← Hardware.attemptsOf_congr counters]
      exact more
    rw [counted, Nat.add_sub_cancel_left, clock]
    rfl
  have goes : CallGoes p c h b.now (.openerAsked c h :: b.calls) [o.now] (b.step a) := by
    rw [begins, ← clock]
    exact goes
  have parts : ∀ actions, attemptsIn c (a :: actions) b =
      [o.now] ++ attemptsIn c actions (b.step a) := fun actions => by rw [attemptsIn, first]
  rcases goes with under | ⟨outcomes, ends⟩
  · rcases under.run (hr.step a) actions with under | ⟨before, after, outcomes, split, ends⟩
    · obtain ⟨call, events, stage, inCall, wait⟩ := under
      obtain ⟨outcomes, soFar⟩ := wait.soFar
      rw [parts]
      exact .inl ⟨call, events, outcomes, stage, inCall.told, soFar⟩
    · refine .inr ⟨before, after, outcomes, split, ?_⟩
      rw [parts]
      exact ends
  · refine .inr ⟨[], actions, outcomes, rfl, ?_⟩
    rw [parts, attemptsIn, List.append_nil]
    exact ends

def busyOnce : Broker :=
  (⟨["front"], 30, 0, .retrying ⟨3, 250⟩, true⟩ : Setup).broker.run
    [.failNext front 1, .turn .loop, .open front true]

theorem opener_retries_busyOnce :
    let actions : List Action := [.elapse 250, .turn .loop, .elapse 40, .turn .loop]
    attemptsIn front (.turn .loop :: actions) busyOnce = [0, 250] ∧
      ∃ before after outcomes, actions = before ++ after ∧
        Ends front (.openerAsked front 0 :: busyOnce.calls)
          (attemptsIn front (.turn .loop :: before) busyOnce) (busyOnce.run (.turn .loop :: before))
          (RetryPolicy.openWithRetry ⟨3, 250⟩ Outcome.backend front busyOnce.now outcomes) := by
  intro actions
  have hr : Reachable busyOnce := ⟨_, _, rfl⟩
  have policy : busyOnce.opener = .retrying ⟨3, 250⟩ := by decide
  have asked : busyOnce.hw.history.count (.openerAsked front 0) <
      (busyOnce.step (.turn .loop)).hw.history.count (.openerAsked front 0) := by decide
  have finished : (busyOnce.run (.turn .loop :: actions)).loop.stage = .reading := by decide
  refine ⟨by decide, (hr.opener_retries policy asked actions).resolve_left ?_⟩
  rintro ⟨call, events, outcomes, stage, -⟩
  cases finished.symm.trans stage

end Calls

end Broker

end CameraBroker
