import CameraBroker.Proofs.Fates

/-! When a call finds the inbox full. The calls of clients share the inbox with the closes that
sessions ask for, so clients that keep within its depth are safe only from each other. -/
namespace CameraBroker.Broker

/-- A client calls the broker, which takes it for misuse if the inbox is full. -/
def Action.isCall : Action → Bool
  | .open _ _ => true
  | .closeAll => true
  | _ => false

variable {b : Broker}

/-- How many requests of clients are accepted and not done with. -/
def outstanding (b : Broker) : Nat := b.waiting.countP fun r => r.isClose = false

/-- Counting the call that is made, the clients have no more requests than the inbox takes. -/
def KeepsDepth (b : Broker) (a : Action) : Prop := a.isCall = true → b.outstanding < inboxDepth

/-- The call finds the inbox full. -/
def Overflows (b : Broker) : Action → Prop
  | .open c share => b.hasClient = true ∧ b.requestOpen c share = .error .full
  | .closeAll => b.hasClient = true ∧ b.requestCloseAll = .error .full
  | _ => False

instance (b : Broker) (a : Action) : Decidable (b.KeepsDepth a) :=
  inferInstanceAs (Decidable (a.isCall = true → b.outstanding < inboxDepth))

theorem offer_eq_full {r : Request} : b.offer r = .error .full ↔
    b.inbox.reader = .open ∧ inboxDepth ≤ b.inbox.buffer.length := by
  unfold offer Inbox.offer
  by_cases reader : b.inbox.reader = .open
  · by_cases full : inboxDepth ≤ b.inbox.buffer.length <;> simp [reader, full, Except.map]
  · simp [reader, Except.map]

theorem requestOpen_eq_full {c : CameraId} {share : Bool} : b.requestOpen c share = .error .full ↔
    b.inbox.reader = .open ∧ inboxDepth ≤ b.inbox.buffer.length := by
  have same : (b.createHandle c).inbox = b.inbox := rfl
  rw [← same, ← offer_eq_full (r := .open b.handles.length share)]
  unfold requestOpen
  dsimp only
  cases (b.createHandle c).offer (.open b.handles.length share) with
  | ok b' => simp
  | error e => cases e <;> simp

theorem requestCloseAll_eq_full : b.requestCloseAll = .error .full ↔
    b.inbox.reader = .open ∧ inboxDepth ≤ b.inbox.buffer.length := by
  rw [← offer_eq_full (r := .closeAll)]
  unfold requestCloseAll
  cases b.offer .closeAll with
  | ok b' => simp
  | error e => cases e <;> simp

theorem Overflows.full {a : Action} (overflows : b.Overflows a) : a.isCall = true ∧
    b.inbox.reader = .open ∧ inboxDepth ≤ b.inbox.buffer.length := by
  cases a with
  | «open» c share => exact ⟨rfl, requestOpen_eq_full.1 overflows.2⟩
  | closeAll => exact ⟨rfl, requestCloseAll_eq_full.1 overflows.2⟩
  | _ => exact overflows.elim

theorem countP_isClose (rs : List Request) :
    rs.length = rs.countP (fun r => r.isClose = false) + rs.countP fun r => r.isClose = true := by
  rw [List.length_eq_countP_add_countP fun r : Request => decide (r.isClose = false)]
  simp

/-- A loop that reads and has requests in its inbox is not at rest. -/
theorem Reachable.suspended_of_rest (hr : Reachable b) (reader : b.inbox.reader = .open)
    (some : b.inbox.buffer ≠ []) (rest : b.readyTasks = []) :
    (∃ h call, b.loop.stage = .opening h call) ∨
      ∃ sessions left after, b.loop.stage = .closing sessions left after := by
  have idle : b.loopReady = false := by
    have tasks : (if b.loopReady then [Task.loop] else []) = [] :=
      (List.append_eq_nil_iff.1 rest).2
    simpa using tasks
  have live : b.loop.stage = .stopped ∨ b.loop.stage = .crashed → False := by
    intro ended
    cases reader.symm.trans (hr.sound.halted ended)
  cases stage : b.loop.stage with
  | fresh => simp [loopReady, stage] at idle
  | reading => simp [loopReady, stage, some] at idle
  | «opening» h call => exact .inl ⟨h, call, rfl⟩
  | closing sessions left after => exact .inr ⟨sessions, left, after, rfl⟩
  | stopped => exact (live (.inl stage)).elim
  | crashed => exact (live (.inr stage)).elim

/-- In every run a call that finds the inbox full finds it full of requests of clients and closes of
sessions together. If the clients keep within its depth, a session has asked for its close; and at
rest this happens only while the loop waits for a device. -/
theorem overflow_causes (hr : Reachable b) {a : Action} (overflows : b.Overflows a) :
    inboxDepth ≤ b.outstanding + b.waiting.countP (fun r => r.isClose = true) ∧
    (b.KeepsDepth a → ∃ i s, .close i ∈ b.inbox.buffer ∧ b.sessions[i]? = some s) ∧
    (b.readyTasks = [] → (∃ h call, b.loop.stage = .opening h call) ∨
      ∃ sessions left after, b.loop.stage = .closing sessions left after) := by
  obtain ⟨call, reader, full⟩ := overflows.full
  have total := countP_isClose b.waiting
  have length : b.waiting.length = b.loop.pending.length + b.inbox.buffer.length :=
    List.length_append
  refine ⟨?_, fun keeps => ?_, fun rest => ?_⟩
  · unfold outstanding
    omega
  · by_contra none
    have own : b.inbox.buffer.countP (fun r => r.isClose = true) = 0 := by
      refine List.countP_eq_zero.2 fun r hr' close => none ?_
      cases r with
      | close i =>
        have named : i < b.view.faces.length :=
          hr.sound.named (.close i) (List.mem_append_right _ hr')
        have there : i < b.sessions.length := by simpa [view] using named
        exact ⟨i, _, hr', List.getElem?_eq_getElem there⟩
      | _ => cases of_decide_eq_true close
    have few : b.outstanding < inboxDepth := keeps call
    have buffered := countP_isClose b.inbox.buffer
    have counted : b.outstanding = b.loop.pending.countP (fun r => r.isClose = false) +
        b.inbox.buffer.countP fun r => r.isClose = false := List.countP_append
    omega
  · refine hr.suspended_of_rest reader (fun empty => ?_) rest
    rw [empty] at full
    exact absurd full (by decide)

/-- Eight cameras are opened and let go of, and their idle timers ask for the closes while the loop
waits for a ninth. -/
def crowd : List CameraId :=
  [⟨"0", by decide⟩, ⟨"1", by decide⟩, ⟨"2", by decide⟩, ⟨"3", by decide⟩, ⟨"4", by decide⟩,
    ⟨"5", by decide⟩, ⟨"6", by decide⟩, ⟨"7", by decide⟩]

def crowdedOut : List Action :=
  .turn .loop :: (crowd.flatMap fun c => .open c true :: List.replicate 3 (.turn .loop)) ++
    (List.range 8).map .disconnect ++
    [.script 5000 .closed [], .open front true, .turn .loop, .elapse 1000] ++
    (List.range 8).map fun i => .turn (.countdown i 3)

theorem overflows_crowdedOut : (byHand crowdedOut).Overflows (.open back true) := by
  have full : (byHand crowdedOut).inbox.reader = .open ∧
      inboxDepth ≤ (byHand crowdedOut).inbox.buffer.length := by decide +kernel
  exact ⟨by decide +kernel, requestOpen_eq_full.2 full⟩

theorem overflow_causes_crowdedOut :
    (byHand crowdedOut).outstanding = 1 ∧ (byHand crowdedOut).Overflows (.open back true) ∧
      ∃ i s, .close i ∈ (byHand crowdedOut).inbox.buffer ∧
        (byHand crowdedOut).sessions[i]? = some s := by
  have one : (byHand crowdedOut).outstanding = 1 := by decide +kernel
  obtain ⟨-, closes, -⟩ := overflow_causes (.byHand crowdedOut) overflows_crowdedOut
  exact ⟨one, overflows_crowdedOut, closes fun _ =>
    Nat.lt_of_le_of_lt (Nat.le_of_eq one) (by decide)⟩

/-- Clients that keep within the depth of the inbox find it full all the same. -/
theorem keepsDepth_overflows : ¬∀ (s : Setup) (actions : List Action) (a : Action),
    Throughout KeepsDepth (actions ++ [a]) s.broker → ¬(s.broker.run actions).Overflows a := by
  intro spared
  refine spared { opener := .scripted 0 .closed [] } crowdedOut (.open back true) ?_
    overflows_crowdedOut
  decide +kernel

end CameraBroker.Broker
