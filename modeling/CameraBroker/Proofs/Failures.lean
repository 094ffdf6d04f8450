import CameraBroker.Proofs.Outcomes

/-! Why handles fail. Each reason is recorded exactly when what it names resolves the handle,
however clients, close-alls and the opener race for it, and a failed open leaves everything else
alone. -/
namespace CameraBroker.Broker
variable {b b' : Broker} {a : Action} {h : HandleId} {reason : OpenFailure}

/-- What the reasons of a failure say of the step in which the handle fails. Permission is asked for
once no session of the camera is active, and none at all if the open is exclusive. -/
inductive GivenUp (b : Broker) (a : Action) (h : HandleId) : OpenFailure → Prop where
  | permissionDenied {share : Bool} {x : Handle} (turn : a = .turn .loop)
      (evaluates : b.Evaluates h share x) (waits : x.state = .unopened)
      (free : ∀ i ∈ b.loop.active, ∀ s, b.sessions[i]? = some s → s.camera ≠ x.camera)
      (alone : share = false → b.loop.active = []) (refused : b.granted = false) :
      GivenUp b a h .permissionDenied
  | openFailed {x : Handle} {rest : List Event} (handle : b.handles[h]? = some x)
      (waits : x.state = .unopened)
      (told : (b.step a).inquiries = .openGivenUp x.camera :: .openerAsked x.camera h ::
        .permissionAsked x.camera true :: rest)
      (new : (b.step a).inquiries ≠ b.inquiries) : GivenUp b a h .openFailed
  | superseded {share : Bool} {front rest more : List Request} (waits : b.Waits h)
      (queued : b.waiting = front ++ .closeAll :: rest) (mem : .open h share ∈ front)
      (serviced : (b.step a).servicedRequests =
        b.servicedRequests ++ (front ++ .closeAll :: more)) : GivenUp b a h .superseded
  | brokerStopped {c : CameraId} {share : Bool} (asked : a = .open c share)
      (client : b.hasClient = true) (new : h = b.handles.length)
      (closed : b.inbox.offer (.open h share) = .error .closed) : GivenUp b a h .brokerStopped

section
variable {p : HandleId → Prop} [DecidablePred p]

/-- Who is given up was waiting, or had failed before. -/
theorem fails_of_map (handles : ∀ h : HandleId, b'.handles[h]? =
      (b.handles[h]?).map fun x => if p h then x.failed reason else x) {r : OpenFailure}
    (fails : b'.failure? h = some r) (new : b.failure? h ≠ some r) :
    p h ∧ r = reason ∧ b.Waits h ∧ b'.Resolves h := by
  rw [failure?, handles] at fails
  cases hx : b.handles[h]? with
  | none => simp [hx] at fails
  | some x =>
    rw [failure?, hx] at new
    rw [hx] at fails
    by_cases hp : p h
    · have failed : (x.failed reason).failure = some r := by simpa [hp] using fails
      by_cases waits : x.state = .unopened
      · rw [Handle.failed_of_unopened waits] at failed
        refine ⟨hp, (Option.some.inj failed).symm, ⟨x, hx, waits⟩, x.failed reason, ?_, ?_⟩
        · simp [handles, hx, hp]
        · simp [Handle.failed_of_unopened waits]
      · rw [Handle.failed_of_answered waits] at failed
        exact absurd failed new
    · exact absurd (by simpa [hp] using fails) new

theorem failure?_of_failed (handles : ∀ h : HandleId, b'.handles[h]? =
      (b.handles[h]?).map fun x => if p h then x.failed reason else x)
    (hp : p h) (waits : b.Waits h) : b'.failure? h = some reason := by
  obtain ⟨x, hx, waits⟩ := waits
  simp [failure?, handles, hx, hp, Handle.failed_of_unopened waits]

end

theorem Drops.map {g : HandleId} (drops : b.Drops g reason b') (h : HandleId) :
    b'.handles[h]? = (b.handles[h]?).map fun x => if g = h then x.failed reason else x := by
  rw [drops.handles, List.getElem?_modify]
  rfl

/-- A handle that has just failed was given up for that reason, and has its answer. -/
theorem Reachable.givenUp (hr : Reachable b) (fails : (b.step a).failure? h = some reason)
    (new : b.failure? h ≠ some reason) : GivenUp b a h reason ∧ (b.step a).Resolves h := by
  cases hr.outcome a with
  | keeps failures inquires serviced => exact absurd ((failures h).symm.trans fails) new
  | @clears before after last handles inquiries opens serviced =>
    obtain ⟨mem, rfl, waits, resolved⟩ := fails_of_map handles fails new
    obtain ⟨r, hr, handle⟩ := List.mem_filterMap.1 mem
    obtain ⟨front, rfl⟩ := lastCloseAll?_concat last
    have queued : b.waiting = front ++ .closeAll :: after := by
      rw [(lastCloseAll?_eq_some last).1, List.append_assoc]
      rfl
    have done : (b.step a).servicedRequests = b.servicedRequests ++ (front ++ .closeAll :: []) :=
      serviced
    cases r with
    | «open» g share =>
      obtain rfl : g = h := Option.some.inj handle
      have mem : .open g share ∈ front := by simpa using hr
      exact ⟨.superseded waits queued mem done, resolved⟩
    | close i => cases handle
    | closeAll => cases handle
  | @denies g share x turn evaluates waits free alone refused drops inquiries serviced =>
    obtain ⟨rfl, rfl, -, resolved⟩ := fails_of_map drops.map fails new
    refine ⟨.permissionDenied turn evaluates waits (fun i hi s hs same => ?_) alone refused,
      resolved⟩
    exact free_of_activeFor? free i hi (by simp [View.cameraOf, view, hs, Session.face, same])
  | @refuses g share x rest handle drops inquiries before serviced =>
    obtain ⟨rfl, rfl, ⟨y, hy, waits⟩, resolved⟩ := fails_of_map drops.map fails new
    obtain rfl : x = y := Option.some.inj (handle.symm.trans hy)
    refine ⟨.openFailed handle waits inquiries fun same => ?_, resolved⟩
    -- Whether or not the call began in this very step, something more was told.
    have longer := congrArg List.length (inquiries.symm.trans same)
    rcases before with old | old
    · simp only [old, List.length_cons] at longer
      omega
    · simp only [old, List.length_cons] at longer
      omega
  | @stops c share asked client closed handles view =>
    rw [failure?_of_concat handles] at fails
    split at fails
    · rename_i here
      obtain rfl : reason = .brokerStopped := (Option.some.inj fails).symm
      subst here
      let y : Handle := { camera := c, state := .disconnected, failure := some .brokerStopped }
      have there : (b.step a).handles[b.handles.length]? = some y := by
        rw [handles]
        simp [y]
      exact ⟨.brokerStopped asked client rfl closed, y, there, by simp [y]⟩
    · exact absurd fails new

/-- The loop is ready to evaluate an open. -/
theorem step_of_evaluates {share : Bool} {x : Handle} (evaluates : b.Evaluates h share x) :
    b.step (.turn .loop) = b.resumeLoop := by
  obtain ⟨rest, head⟩ := evaluates.head
  refine step_loop (loopReady_of_waiting evaluates.stage ?_)
  rw [head]
  exact List.cons_ne_nil _ rest

/-- An open that may not be asked for is denied. -/
theorem drops_of_denied {share : Bool} {x : Handle} (evaluates : b.Evaluates h share x)
    (waits : x.state = .unopened)
    (free : ∀ i ∈ b.loop.active, ∀ s, b.sessions[i]? = some s → s.camera ≠ x.camera)
    (alone : share = false → b.loop.active = []) (refused : b.granted = false) :
    b.Drops h .permissionDenied (b.step (.turn .loop)) := by
  have absent : ∀ i, b.activeFor? x.camera ≠ some i := by
    intro i active
    obtain ⟨mem, s, hs, same⟩ := session_of_activeFor? active
    exact free i mem s hs same
  rw [step_of_evaluates evaluates]
  have evaluation := evaluation_resumeLoop evaluates
  generalize b.resumeLoop = b' at evaluation ⊢
  cases evaluation with
  | stale answered => exact absurd waits answered
  | @makeRoom _ exclusive others own conflict some =>
    rw [conflicting_eq, alone exclusive] at conflict
    cases conflict
    exact absurd rfl some
  | replace _ active => exact absurd active (absent _)
  | attach _ _ active up => exact absurd active (absent _)
  | deny _ _ none _ =>
    exact ((Serving.takeIn evaluates).emit (.permissionAsked x.camera false)).drops _
  | ask _ _ none granted replies => cases refused.symm.trans granted

/-- An open that was not allowed, or that the opener could not serve, is dropped. -/
theorem GivenUp.drops (hr : Reachable b) (given : GivenUp b a h reason)
    (served : reason = .permissionDenied ∨ reason = .openFailed) :
    b.Drops h reason (b.step a) := by
  cases given with
  | permissionDenied turn evaluates waits free alone refused =>
    subst turn
    exact drops_of_denied evaluates waits free alone refused
  | @openFailed x rest handle waits told new =>
    cases hr.outcome a with
    | keeps failures inquires serviced =>
      cases inquires with
      | none same opens => exact absurd same new
      | one handle' asked opens => cases told.symm.trans asked
    | clears last handles same opens serviced => exact absurd same new
    | denies turn evaluates waits free alone refused drops asked serviced =>
      cases told.symm.trans asked
    | @refuses g share y rest' handle' drops asked before serviced =>
      obtain rfl : h = g := by
        have same := told.symm.trans asked
        simp only [List.cons.injEq, Event.openerAsked.injEq] at same
        exact same.2.1.2
      exact drops
    | stops asked client closed handles view =>
      refine absurd ?_ new
      rw [← view_inquiries, ← view_inquiries, view]
      rfl
  | superseded => rcases served with no | no <;> cases no
  | brokerStopped => rcases served with no | no <;> cases no

/-- Who is given up fails for that reason. -/
theorem GivenUp.fails (hr : Reachable b) (given : GivenUp b a h reason) :
    (b.step a).failure? h = some reason := by
  cases given with
  | permissionDenied turn evaluates waits free alone refused =>
    have drops := GivenUp.drops hr (.permissionDenied turn evaluates waits free alone refused)
      (.inl rfl)
    exact failure?_of_failed drops.map rfl ⟨_, evaluates.handle, waits⟩
  | openFailed handle waits told new =>
    have drops := GivenUp.drops hr (.openFailed handle waits told new) (.inr rfl)
    exact failure?_of_failed drops.map rfl ⟨_, handle, waits⟩
  | @superseded share front rest more waits queued mem done =>
    have only : ∀ rs, (b.step a).servicedRequests = b.servicedRequests ++ rs →
        rs = front ++ .closeAll :: more := fun rs serviced =>
      List.append_cancel_left (serviced.symm.trans done)
    have all : .closeAll ∈ front ++ Request.closeAll :: more :=
      List.mem_append_right _ List.mem_cons_self
    cases hr.outcome a with
    | keeps failures inquires serviced =>
      obtain ⟨rs, serviced, absent⟩ := serviced
      exact absurd (only rs serviced ▸ all) absent
    | @clears before after last handles inquiries opens serviced =>
      refine failure?_of_failed handles ?_ waits
      rw [only before serviced]
      exact mem_handles (List.mem_append_left _ mem)
    | denies turn evaluates waits free alone refused drops inquiries serviced =>
      exact absurd (only _ serviced ▸ all) (by simp)
    | refuses handle drops inquiries before serviced =>
      exact absurd (only _ serviced ▸ all) (by simp)
    | stops asked client closed handles view =>
      have same : (b.step a).servicedRequests = b.servicedRequests ++ [] := by
        rw [← view_servicedRequests, view, ← view_servicedRequests, List.append_nil]
        rfl
      exact absurd (only _ same ▸ all) List.not_mem_nil
  | brokerStopped asked client new closed =>
    subst asked new
    obtain ⟨handles, -, -⟩ := requestOpen_of_closed client closed
    rw [failure?_of_concat handles, if_pos rfl]

/-- A handle that has failed has its answer. -/
theorem Reachable.resolves_of_failure (hr : Reachable b) :
    ∀ h reason, b.failure? h = some reason → b.Resolves h := by
  refine hr.invariant (P := fun b => ∀ h reason, b.failure? h = some reason → b.Resolves h)
    (fun s h reason fails => ?_) fun b a hb hp h reason fails => ?_
  · cases fails
  · by_cases old : b.failure? h = some reason
    · exact hb.resolves_step (hp h reason old) a
    · exact (hb.givenUp fails old).2

/-- A failure stays. -/
theorem Reachable.failure?_run (hr : Reachable b) (failed : b.failure? h = some reason)
    (actions : List Action) : (b.run actions).failure? h = some reason := by
  obtain ⟨x, hx, answered⟩ := hr.resolves_of_failure h reason failed
  obtain ⟨y, hy, -, same⟩ := hr.failure_run hx answered actions
  rw [failure?, hx] at failed
  rw [failure?, hy]
  exact same.trans failed

/-- A client that lets go of a handle that waits is never told of a failure. -/
theorem Reachable.failure?_of_disconnected (hr : Reachable b) (waits : b.Waits h)
    (actions : List Action) : ((b.step (.disconnect h)).run actions).failure? h = none := by
  obtain ⟨x, hx, unanswered⟩ := waits
  have untold : b.failure? h = none := by
    refine Option.eq_none_iff_forall_ne_some.2 fun reason fails => ?_
    obtain ⟨y, hy, answered⟩ := hr.resolves_of_failure h reason fails
    exact answered (Option.some.inj (hx.symm.trans hy) ▸ unanswered)
  have gone : (b.step (.disconnect h)).handles[h]? = some x.disconnect := by
    have left : (b.step (.disconnect h)).handles = b.handles.modify h Handle.disconnect :=
      b.handles_disconnect h
    rw [left]
    simp [hx]
  have answered : x.disconnect.state ≠ .unopened := by
    rcases x.state_disconnect with state | state <;> simp [state]
  obtain ⟨y, hy, -, same⟩ := (hr.step _).failure_run gone answered actions
  have kept : x.disconnect.failure = x.failure := x.failure_moveTo _
  rw [failure?, hx] at untold
  rw [failure?, hy]
  exact (same.trans kept).trans untold

/-- Asking a loop that has stopped changes nothing else. -/
theorem leavesOthers_of_stopped (given : GivenUp b a h .brokerStopped) :
    b.LeavesOthers (b.step a) h ∧ (b.step a).waiting = b.waiting := by
  cases given with
  | @brokerStopped c share asked client new closed =>
    subst asked new
    obtain ⟨handles, view, sessions⟩ := requestOpen_of_closed client closed
    refine ⟨⟨fun g hg => ?_, sessions, congrArg (·.loop.active) view, congrArg View.closes view,
      ?_, congrArg (·.inbox.reader) view⟩, congrArg View.waiting view⟩
    · rcases Nat.lt_or_gt_of_ne hg with old | out
      · rw [handles, List.getElem?_append_left old]
      · have length : (b.step (.open c share)).handles.length ≤ g := by
          rw [handles, List.length_append]
          exact out
        rw [List.getElem?_eq_none length, List.getElem?_eq_none (Nat.le_of_lt out)]
    · have devices : (b.step (.open c share)).hw.devices = b.hw.devices :=
        congrArg View.devices view
      exact devices ▸ List.prefix_refl _

/-- While a call of the opener goes on, nothing else changes. -/
theorem Reachable.leavesOthers_of_opening (hr : Reachable b)
    (opens : (b.step (.turn .loop)).loop.stage.opens? = some h) :
    (b.step (.turn .loop)).handles = b.handles ∧ b.LeavesOthers (b.step (.turn .loop)) h ∧
      (b.step (.turn .loop)).waiting = b.waiting := by
  rcases loop_turn hr.sound with stays | ⟨turns, -⟩
  · rw [stays]
    exact ⟨rfl, ⟨fun _ _ => rfl, rfl, rfl, rfl, List.prefix_refl _, rfl⟩, rfl⟩
  · rw [turns] at opens ⊢
    exact (course_resumeLoop hr.sound).leavesOthers hr.sound opens

/-- In every run a handle has failed for a reason exactly if some step of the run gave it up for
that reason. A client that lets go of a handle before it has its answer makes it fail for none. The
opener is never called unless permission was granted just before. An open that was not allowed or
that the opener could not serve is dropped while the loop goes on to read: no other handle, no
session and no other request changes; nor does anything change while the opener is at it, or when a
loop that has stopped is asked. -/
theorem failures_exact {s : Setup} {actions : List Action} (run : s.broker.run actions = b) :
    (∀ h reason, b.failure? h = some reason ↔ ∃ before a after, actions = before ++ a :: after ∧
      GivenUp (s.broker.run before) a h reason) ∧
    (∀ h, b.Waits h → ∀ more, ((b.step (.disconnect h)).run more).failure? h = none) ∧
    Permitted b.inquiries ∧
    (∀ a h reason, GivenUp b a h reason → reason = .permissionDenied ∨ reason = .openFailed →
      b.Drops h reason (b.step a)) ∧
    (∀ h, (b.step (.turn .loop)).loop.stage.opens? = some h →
      (b.step (.turn .loop)).handles = b.handles ∧ b.LeavesOthers (b.step (.turn .loop)) h ∧
        (b.step (.turn .loop)).waiting = b.waiting) ∧
    (∀ a h, GivenUp b a h .brokerStopped →
      b.LeavesOthers (b.step a) h ∧ (b.step a).waiting = b.waiting) := by
  have hr : Reachable b := ⟨s, actions, run⟩
  refine ⟨fun h reason => ⟨fun fails => ?_, ?_⟩, fun h waits => hr.failure?_of_disconnected waits,
    hr.inquiring.permitted, fun a h reason given => given.drops hr,
    fun h => hr.leavesOthers_of_opening, fun a h given => leavesOthers_of_stopped given⟩
  · subst run
    have start : s.broker.failure? h ≠ some reason := nofun
    obtain ⟨before, a, after, split, new, now⟩ :=
      exists_step_of_run (P := fun b => b.failure? h = some reason) start fails
    exact ⟨before, a, after, split, (((Reachable.start s).run before).givenUp now new).1⟩
  · rintro ⟨before, a, after, rfl, given⟩
    have hb : Reachable (s.broker.run before) := (Reachable.start s).run before
    rw [← run, run_append, run_cons]
    exact (hb.step a).failure?_run (given.fails hb) after

def revokedFirst : List Action := [.turn .loop, .revoke, .open front true, .turn .loop]

theorem failures_exact_revokedFirst : (byHand revokedFirst).failure? 0 = some .permissionDenied ∧
    ∃ before a after, revokedFirst = before ++ a :: after ∧
      GivenUp (byHand before) a 0 .permissionDenied := by
  have denied : (byHand revokedFirst).failure? 0 = some .permissionDenied := by decide
  have run : ({ opener := .scripted 0 .closed [] } : Setup).broker.run revokedFirst =
      byHand revokedFirst := rfl
  obtain ⟨reasons, -⟩ := failures_exact run
  exact ⟨denied, (reasons 0 .permissionDenied).1 denied⟩

end CameraBroker.Broker
