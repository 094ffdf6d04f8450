import CameraBroker.Proofs.DeviceLog
import CameraBroker.Proofs.Teardown

/-! What is left when the loop has stopped and no task can go on: nothing. A handle that waits has
its open among the requests that wait, and one that is connected has a session that is active or
about to be closed. -/
namespace CameraBroker

namespace View
variable {v w : View} {kept : HandleId → Prop} {g : HandleId}

theorem mem_modify_of_ne {closes : List SessionClose} {k : Nat} {c x : SessionClose}
    {f : SessionClose → SessionClose} (hk : closes[k]? = some c) (hx : x ∈ closes) (hne : c ≠ x) :
    x ∈ closes.modify k f := by
  obtain ⟨j, hj⟩ := List.mem_iff_getElem?.1 hx
  have hkj : k ≠ j := by
    rintro rfl
    exact hne (Option.some.inj (hk.symm.trans hj))
  exact List.mem_iff_getElem?.2 ⟨j, by rw [List.getElem?_modify_ne _ _ hkj, hj]⟩

/-- A handle that is kept stays bound, whatever goes on beside the loop. -/
theorem Binds.background (h : Background kept v w) (hg : kept g) (hv : v.Binds g) :
    w.Binds g := by
  obtain ⟨i, t, ht, current, bound⟩ := hv
  cases h with
  | device hx xy => exact ⟨i, t, ht, current, bound⟩
  | refusedOpen c => exact ⟨i, t, ht, current, bound⟩
  | «open» c share room => exact ⟨i, t, ht, current, bound⟩
  | close hi room => exact ⟨i, t, ht, current, bound⟩
  | closeAll room => exact ⟨i, t, ht, current, bound⟩
  | leave => exact ⟨i, t, ht, current, bound⟩
  | @beginClose k j hk stage hs gone =>
    have other : j ≠ i := by
      rintro rfl
      exact gone t g ht current hg
    refine ⟨i, t, ?_, current, bound.imp id fun fresh => ?_⟩
    · simpa [View.setCloseStage, View.shut, other] using ht
    · exact mem_modify_of_ne hk fresh fun same => other (congrArg SessionClose.session same)
  | @endClose k c hk hc =>
    refine ⟨i, t, ht, current, bound.imp id fun fresh => ?_⟩
    refine mem_modify_of_ne hk fresh ?_
    rintro rfl
    exact hc rfl

theorem Binds.meanwhile (h : Meanwhile kept v w) (hg : kept g) (hv : v.Binds g) : w.Binds g :=
  h.invariant (P := fun v => v.Binds g) (fun _ _ move hv => hv.background move hg) hv

/-- Sessions that are no longer active are about to be closed. -/
theorem Binds.retire {u : View} {sessions active left : List SessionId} {after : AfterClose}
    (ties : u.ties = v.ties) (closes : u.closes = v.closes)
    (all : ∀ i ∈ v.loop.active, i ∈ active ∨ i ∈ sessions) (hv : v.Binds g) :
    (u.retire sessions active left after).Binds g := by
  obtain ⟨i, t, ht, current, bound⟩ := hv
  have started : (u.retire sessions active left after).closes =
      u.closes ++ sessions.map fun i => { session := i } := rfl
  refine ⟨i, t, ties ▸ ht, current, ?_⟩
  rw [started, closes, List.mem_append]
  rcases bound with hi | fresh
  · exact (all i hi).imp id fun hi => .inr (List.mem_map_of_mem hi)
  · exact .inr (.inl fresh)

theorem Binds.of_eq (ties : w.ties = v.ties) (closes : w.closes = v.closes)
    (active : w.loop.active = v.loop.active) (hv : v.Binds g) : w.Binds g := by
  rw [Binds, ties, closes, active]
  exact hv

theorem Binds.join (asked c : CameraId) (d : DeviceId) (hv : v.Binds g) :
    (v.join asked c d).Binds g := by
  obtain ⟨i, t, ht, current, bound⟩ := hv
  obtain ⟨hi, -⟩ := List.getElem?_eq_some_iff.1 ht
  have ties : (v.join asked c d).ties = v.ties ++ [({} : Tie)] := rfl
  refine ⟨i, t, ?_, current, bound.imp (List.mem_append_left _) id⟩
  rw [ties, List.getElem?_append_left hi, ht]

end View

namespace Broker
variable {b b' : Broker} {v w : View} {g : HandleId}

theorem Opens.binds {h : HandleId} {c : CameraId} (opens : Opens b' h c v w) (hv : v.Binds g) :
    w.loop.stage = .crashed ∨ w.Binds g := by
  cases opens with
  | giveUp lost resolved =>
    right
    refine hv.of_eq ?_ ?_ ?_
    · unfold View.popHead
      split <;> rfl
    · unfold View.popHead
      split <;> rfl
    · unfold View.popHead
      split <;> rfl
  | pause lost attempt due => exact .inr (hv.of_eq rfl rfl rfl)
  | «begin» lost camera simulated state release attempt due => exact .inr (hv.of_eq rfl rfl rfl)
  | call lost due => exact .inr (hv.of_eq rfl rfl rfl)
  | simulated stage hx up => exact .inr (.join _ _ _ (hv.of_eq rfl rfl rfl))
  | manual stage camera manual release => exact .inr (.join _ _ _ (hv.of_eq rfl rfl rfl))
  | crash stage => exact .inl rfl

/-- A handle that stays connected stays bound. -/
theorem Rule.binds (rule : Rule b b' w) (connected : b'.Connected g) (hv : b.view.Binds g) :
    w.loop.stage = .crashed ∨ w.Binds g := by
  cases rule with
  | idle => exact .inr hv
  | start stage => exact .inr (hv.of_eq rfl rfl rfl)
  | finish stage done noClient leaves => exact .inr (hv.retire rfl rfl fun i => .inr)
  | close stage first leaves => exact .inr (hv.retire rfl rfl fun j hj => mem_filter_ne_or hj _)
  | closeAll stage noClose last resolved leaves => exact .inr (hv.retire rfl rfl fun i => .inr)
  | @serve stage h share rest head c camera w serves =>
    cases serves with
    | stale answered => exact .inr (hv.of_eq rfl rfl rfl)
    | makeRoom waits exclusive conflict some leaves =>
      rw [conflicting_eq] at conflict
      cases conflict
      exact .inr (hv.retire rfl rfl fun i hi => mem_filter_not_or hi _)
    | replace waits active leaves =>
      exact .inr (hv.retire rfl rfl fun j hj => mem_filter_ne_or hj _)
    | @attach waits i t active ht resolved kept =>
      -- The handle that the session bound before is not connected any more.
      obtain ⟨j, t', ht', current, bound⟩ := hv
      have other : i ≠ j := by
        rintro rfl
        obtain rfl : t = t' := Option.some.inj (ht.symm.trans ht')
        exact kept g current connected
      refine .inr ⟨j, t', ?_, current, bound⟩
      have same : (b.view.ties.modify i fun t => { t with current := some h })[j]? =
        b.view.ties[j]? := List.getElem?_modify_ne _ _ other
      exact same.trans ht'
    | deny waits resolved => exact .inr (hv.of_eq rfl rfl rfl)
    | ask waits alone none opens => exact opens.binds (hv.of_eq rfl rfl rfl)
  | opener stage camera opens => exact opens.binds hv
  | await stage sub down => exact .inr (hv.of_eq rfl rfl rfl)

/-! What the invariants come to. -/

theorem Reachable.stage_step_of_halted (hr : Reachable b)
    (halted : b.loop.stage = .stopped ∨ b.loop.stage = .crashed) (a : Action) :
    (b.step a).loop.stage = b.loop.stage := by
  rcases hr.step_cases a with beside | turn
  · have same : (b.step a).loop = b.loop := (View.Aside.of_meanwhile beside.view).loop
    rw [same]
  · have same : (b.step a).view = b.view := turn.rule.eq_of_halted halted
    exact congrArg (fun v => v.loop.stage) same

theorem Reachable.stage_run_of_halted (hr : Reachable b)
    (halted : b.loop.stage = .stopped ∨ b.loop.stage = .crashed) (actions : List Action) :
    (b.run actions).loop.stage = b.loop.stage := by
  induction actions generalizing b with
  | nil => rfl
  | cons a actions ih =>
    have same := hr.stage_step_of_halted halted a
    exact (ih (hr.step a) (by rwa [same])).trans same

/-- A handle that was there before has moved on from where it was. -/
theorem Beside.before (h : b.Beside b') {y : Handle} (hy : b'.handles[g]? = some y) :
    b.handles.length ≤ g ∨ ∃ x, b.handles[g]? = some x ∧ x.Fades y := by
  by_cases old : g < b.handles.length
  · have hx : b.handles[g]? = some b.handles[g] := List.getElem?_eq_getElem old
    obtain ⟨z, hz, xz⟩ := h.fades g _ hx
    obtain rfl : y = z := Option.some.inj (hy.symm.trans hz)
    exact .inr ⟨_, hx, xz⟩
  · exact .inl (Nat.le_of_not_lt old)

theorem eq_unopened_of_rank_le {s : HandleState} (h : s.rank ≤ HandleState.unopened.rank) :
    s = .unopened := by
  cases s with
  | unopened => rfl
  | connected => cases h
  | disconnected => cases h
  | closed => cases h

/-- A session binds every connected handle. -/
theorem Reachable.binds_of_connected (hr : Reachable b) :
    ∀ h, b.Connected h → b.loop.stage = .crashed ∨ b.view.Binds h := by
  refine hr.invariant
    (P := fun b => ∀ h, b.Connected h → b.loop.stage = .crashed ∨ b.view.Binds h)
    (fun s h connected => ?_) fun b a hb hp h connected => ?_
  · obtain ⟨y, hy, -⟩ := connected
    cases (List.getElem?_nil.symm.trans hy : none = some y)
  · have crashes : b.loop.stage = .crashed → (b.step a).loop.stage = .crashed := fun crashed =>
      (hb.stage_step_of_halted (.inr crashed) a).trans crashed
    rcases hb.step_cases a with beside | turn
    · obtain ⟨y, hy, state⟩ := connected
      rcases beside.before hy with new | ⟨x, hx, xy⟩
      · exact absurd state (beside.created h y hy new).1
      · exact (hp h ⟨x, hx, xy.connected state⟩).imp crashes
          fun binds => binds.meanwhile beside.view ⟨y, hy, state⟩
    · rcases turn.follows.connected h connected with before | binds
      · rcases hp h before with crashed | binds
        · exact .inl (crashes crashed)
        · exact turn.rule.binds connected binds
      · exact .inr binds

/-- The open of a handle that waits is among the requests that wait. -/
theorem Reachable.waiting_of_waits (hr : Reachable b) :
    ∀ h, b.Waits h → b.loop.stage = .crashed ∨ ∃ share, .open h share ∈ b.waiting := by
  refine hr.invariant
    (P := fun b => ∀ h, b.Waits h → b.loop.stage = .crashed ∨ ∃ share, .open h share ∈ b.waiting)
    (fun s h waits => ?_) fun b a hb hp h waits => ?_
  · obtain ⟨y, hy, -⟩ := waits
    cases (List.getElem?_nil.symm.trans hy : none = some y)
  · obtain ⟨y, hy, state⟩ := waits
    rcases hb.step_cases a with beside | turn
    · have aside := View.Aside.of_meanwhile beside.view
      rcases beside.before hy with new | ⟨x, hx, xy⟩
      · exact .inr ((beside.created h y hy new).2 state)
      · have before := eq_unopened_of_rank_le (state ▸ xy.forward)
        refine (hp h ⟨x, hx, before⟩).imp (fun crashed => ?_) fun ⟨share, waits⟩ => ⟨share, ?_⟩
        · exact (hb.stage_step_of_halted (.inr crashed) a).trans crashed
        · exact aside.waiting.subset waits
    · have there : h < b.handles.length := by
        obtain ⟨hlt, -⟩ := List.getElem?_eq_some_iff.1 hy
        have same := congrArg List.length turn.rule.wanted
        simp only [view, List.length_map] at same
        exact same ▸ hlt
      have hx : b.handles[h]? = some b.handles[h] := List.getElem?_eq_getElem there
      obtain ⟨z, hz, xz⟩ := turn.follows.forward h _ hx
      obtain rfl : y = z := Option.some.inj (hy.symm.trans hz)
      rcases hp h ⟨_, hx, eq_unopened_of_rank_le (state ▸ xz)⟩ with crashed | ⟨share, waits⟩
      · exact .inl ((hb.stage_step_of_halted (.inr crashed) a).trans crashed)
      · obtain ⟨rs, services, resolved⟩ := turn.rule.services hb.sound turn.follows
        cases services with
        | serve accepted serviced split crashed =>
          have mem : .open h share ∈ b.view.waiting.filter fun r => r.isClose = false :=
            List.mem_filter.2 ⟨waits, rfl⟩
          rw [split false] at mem
          rcases List.mem_append.1 mem with done | still
          · obtain ⟨z, hz, answered⟩ := resolved h share (List.mem_filter.1 done).1
            obtain rfl : y = z := Option.some.inj (hy.symm.trans hz)
            exact absurd state answered
          · exact .inr ⟨share, (List.mem_filter.1 still).1⟩
        | crash accepted serviced none waiting stage => exact .inl stage

/-- A task that is about to close a session can go on. -/
theorem ready_of_fresh {k : Nat} {i : SessionId} (hk : b.closes[k]? = some { session := i }) :
    .close k ∈ b.readyTasks := by
  obtain ⟨there, -⟩ := List.getElem?_eq_some_iff.1 hk
  have ready : k ∈ b.readyCloses :=
    List.mem_filter.2 ⟨List.mem_range.2 there, by simp [hk, closeReady]⟩
  simp [readyTasks, ready]

/-- When the loop has stopped and no task can go on, no close is left to be made. -/
theorem not_fresh_of_rest (rest : b.readyTasks = []) (i : SessionId) :
    { session := i } ∉ b.closes := by
  intro fresh
  obtain ⟨k, hk⟩ := List.mem_iff_getElem?.1 fresh
  have ready := ready_of_fresh hk
  rw [rest] at ready
  cases ready

/-- Once the loop has stopped, the inbox stays empty and accepts nothing. -/
theorem Reachable.refuses_of_stopped (hr : Reachable b) (stopped : b.loop.stage = .stopped)
    (actions : List Action) : (b.run actions).acceptedRequests = b.acceptedRequests ∧
      (b.run actions).inbox.buffer = [] := by
  induction actions generalizing b with
  | nil =>
    have ending : b.view.loop.stage.isEnding = true := congrArg LoopStage.isEnding stopped
    exact ⟨rfl, (List.append_eq_nil_iff.1 (hr.sound.ending ending).2.1).2⟩
  | cons a actions ih =>
    have gone : b.view.inbox.reader = .gone := hr.sound.halted (.inl stopped)
    have refuses : b.view.Refuses := .inl (by rw [gone]; nofun)
    obtain ⟨accepted, empty⟩ :=
      ih (hr.step a) ((hr.stage_step_of_halted (.inl stopped) a).trans stopped)
    exact ⟨accepted.trans (hr.acceptedRequests_of_refuses refuses a), empty⟩

/-- Once the loop has stopped, every device is gone. -/
theorem ReachableBy.gone_of_stopped (hr : ReachableBy KeepsClosed b)
    (stopped : b.loop.stage = .stopped) : ∀ x ∈ b.hw.devices, x.IsGone := by
  intro x hx
  obtain ⟨d, hd⟩ := List.mem_iff_getElem?.1 hx
  have ending : b.view.loop.stage.isEnding = true := congrArg LoopStage.isEnding stopped
  have active := (hr.reachable.sound.ending ending).1
  have all := hr.tended.resolve_left fun crashed => nomatch stopped.symm.trans crashed
  rcases all d x hd with gone | acquired | ⟨i, f, hi | hi, -⟩
  · exact gone
  · cases (congrArg LoopStage.acquired? stopped).symm.trans acquired
  · rw [active] at hi
    cases hi
  · have left : b.view.loop.stage.left = [] := congrArg LoopStage.left stopped
    rw [left] at hi
    cases hi

/-- Once the loop has stopped and no task can go on, there is no active session, every device that
the opener returned is gone, the device log has a closed line for each opened line of a camera,
every handle is disconnected or closed, and no request enters the inbox any more. -/
theorem shutdown_leaves_nothing (hr : ReachableBy KeepsClosed b)
    (stopped : b.loop.stage = .stopped) (rest : b.readyTasks = []) :
    b.loop.active = [] ∧
    (∀ c d, .deviceOpened c d ∈ b.hw.history → ∃ x, b.hw.devices[d]? = some x ∧ x.IsGone) ∧
    (∀ c, b.hw.history.count (.logOpened c) = b.hw.history.count (.logClosed c)) ∧
    (∀ x ∈ b.handles, x.state = .disconnected ∨ x.state = .closed) ∧
    (∀ actions, (b.run actions).acceptedRequests = b.acceptedRequests ∧
      (b.run actions).inbox.buffer = []) := by
  have hs := hr.reachable.sound
  have ending : b.view.loop.stage.isEnding = true := congrArg LoopStage.isEnding stopped
  have alive : b.loop.stage ≠ .crashed := fun crashed => nomatch stopped.symm.trans crashed
  obtain ⟨active, none, -⟩ := hs.ending ending
  have gone := hr.gone_of_stopped stopped
  refine ⟨active, fun c d opened => ?_, fun c => ?_, fun x hx => ?_,
    hr.reachable.refuses_of_stopped stopped⟩
  · obtain ⟨x, hx⟩ := hr.reachable.device_of_opened opened
    exact ⟨x, hx, gone x (List.mem_of_getElem? hx)⟩
  · have down : b.hw.devices.countP (·.isUpFor c) = 0 := by
      refine List.countP_eq_zero.2 fun x hx => ?_
      simp [Device.isUpFor, (gone x hx).isUp]
    rw [hr.reachable.count_logOpened, down, Nat.add_zero]
  · obtain ⟨h, hh⟩ := List.mem_iff_getElem?.1 hx
    cases state : x.state with
    | unopened =>
      rcases hr.reachable.waiting_of_waits h ⟨x, hh, state⟩ with crashed | ⟨share, waits⟩
      · exact absurd crashed alive
      · rw [← view_waiting, none] at waits
        cases waits
    | connected =>
      rcases hr.reachable.binds_of_connected h ⟨x, hh, state⟩ with crashed | ⟨i, t, -, -, bound⟩
      · exact absurd crashed alive
      · rcases bound with hi | fresh
        · rw [active] at hi
          cases hi
        · exact absurd fresh (not_fresh_of_rest rest i)
    | disconnected => exact .inl rfl
    | closed => exact .inr rfl

def shutDown : Broker :=
  ({ cameras := ["front"] } : Setup).broker.run [.open front true, .turn .loop, .turn .loop,
    .turn .loop, .turn (.listen 0), .turn .loop, .turn (.observe 0), .shutdown, .turn .loop,
    .turn (.close 0), .turn (.release 0), .turn (.listen 0), .turn (.close 0), .turn .loop,
    .turn .loop]

theorem shutdown_leaves_nothing_simulated : shutDown.handles.length = 1 ∧
    (∀ x ∈ shutDown.handles, x.state = .disconnected ∨ x.state = .closed) ∧
    shutDown.hw.history.count (.logOpened front) = 1 ∧
    shutDown.hw.history.count (.logClosed front) = 1 := by
  have hr : ReachableBy KeepsClosed shutDown := ⟨_, _, by decide, rfl⟩
  have stopped : shutDown.loop.stage = .stopped := by decide
  obtain ⟨-, -, log, ended, -⟩ := shutdown_leaves_nothing hr stopped (by decide)
  have opened : shutDown.hw.history.count (.logOpened front) = 1 := by decide
  exact ⟨by decide, ended, opened, (log front).symm.trans opened⟩

end Broker

end CameraBroker
