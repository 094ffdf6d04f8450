import CameraBroker.Proofs.SessionMoves
import CameraBroker.Proofs.Simulated

/-! Sessions and their devices. Each session has a device of its own, and a simulated device begins to
close only when its session is closed. -/
namespace CameraBroker

/-- What a device is after a step. A simulated one never comes back once it is going down, and each
change of its stream is a publication. -/
structure Device.Ages (x y : Device) : Prop where
  isManual : y.isManual = x.isManual
  news : x.isManual = false → y.stream = x.stream ∨ x.stream.version < y.stream.version
  down : x.isManual = false → x.stream.state.isTearingDown = true →
    y.stream.state.isTearingDown = true

theorem Device.Passes.ages {x y : Device} (h : x.Passes y) : x.Ages y := by
  cases h with
  | goesOn becomes =>
    refine ⟨becomes.isManual, becomes.news, fun simulated down => ?_⟩
    rcases becomes.state simulated with same | ⟨-, closing⟩ | closed
    · rw [same]
      exact down
    · rw [closing]
      rfl
    · rw [closed]
      rfl
  | opens simulated up =>
    refine ⟨rfl, fun _ => .inr (Nat.lt_succ_self _), fun _ down => ?_⟩
    cases state : x.stream.state <;>
      simp [state, DeviceState.isTearingDown, DeviceState.canAdvanceTo, DeviceState.rank] at down up

namespace Broker
variable {b : Broker} {d : DeviceId} {i j : SessionId}

/-- No two sessions have the same device. -/
theorem Reachable.eq_of_device (hr : Reachable b) : ∀ (i j : SessionId) (f g : Face),
    b.view.faces[i]? = some f → b.view.faces[j]? = some g → f.device = g.device → i = j := by
  refine hr.invariant (P := fun b => ∀ (i j : SessionId) (f g : Face), b.view.faces[i]? = some f →
    b.view.faces[j]? = some g → f.device = g.device → i = j)
    (fun s i j f g hf => ?_) fun b a hb hp => ?_
  · rw [view_start] at hf
    cases (List.getElem?_nil.symm.trans hf : none = some f)
  rcases hb.faces_cases a with same | ⟨c, d, more, fresh, -⟩
  · rw [same]
    exact hp
  · intro i j f g hf hg same
    rw [more] at hf hg
    rcases View.of_getElem?_concat hf with oldf | ⟨rfl, rfl⟩
    · rcases View.of_getElem?_concat hg with oldg | ⟨rfl, rfl⟩
      · exact hp i j f g oldf oldg same
      · exact absurd same (fresh f (List.mem_of_getElem? oldf))
    · rcases View.of_getElem?_concat hg with oldg | ⟨rfl, -⟩
      · exact absurd same.symm (fresh g (List.mem_of_getElem? oldg))
      · rfl

/-- A turn of the loop closes no device. -/
theorem Lulls.grows {b' : Broker} (grows : b.view.Grows b'.view) : Lulls b.hw b'.hw := by
  have joined : ∀ {x : Device}, (x.isManual = false → x.stream.state ≠ .closing) →
      b'.hw.devices = b.hw.devices ++ [x] → Lulls b.hw b'.hw := by
    rintro x other devices d ⟨y, hy, simulated, closing⟩
    rw [devices] at hy
    rcases View.of_getElem?_concat hy with old | ⟨-, rfl⟩
    · exact ⟨y, old, simulated, closing⟩
    · exact absurd closing (other simulated)
  cases grows with
  | remains h => exact .of_eq h.devices
  | «begin» asked lost left camera simulated state faces devices lines active acquired =>
    exact joined (fun _ closing => nomatch state.symm.trans closing) devices
  | @simulated h c e x asked acquired acquires left up faces devices lines active stage =>
    rintro d ⟨y, hy, simulated, closing⟩
    have devices : b'.hw.devices = b.hw.devices.set e x.opened := devices
    rw [devices] at hy
    rcases View.of_getElem?_set hy with old | ⟨-, rfl⟩
    · exact ⟨y, old, simulated, closing⟩
    · cases closing
  | manual asked acquired left camera manual faces devices lines active stage =>
    exact joined (fun simulated _ => nomatch manual.symm.trans simulated) devices

/-- A simulated device begins to close only when its session does. -/
theorem Reachable.closesDown_step (hr : Reachable b) {a : Action}
    (closes : ClosesDown (b.step a).hw d) : ClosesDown b.hw d ∨
      ∃ (i : SessionId) (s : Session), b.sessions[i]? = some s ∧ s.device = d ∧
        (b.step a).view.ties[i]? = some ⟨none, true⟩ := by
  by_cases ha : a = .turn .loop
  · subst ha
    left
    rcases loop_turn hr.sound with stays | ⟨turns, turn⟩
    · exact stays ▸ closes
    · rw [turns] at closes
      exact Lulls.grows (turn.rule.grows hr.sound) d closes
  · rcases b.calms_step ha with calms | ⟨k, same⟩
    · exact .inl (calms.lulls d closes)
    · rw [same] at closes ⊢
      exact closesDown_of_resumeClose closes

/-- The device of a session that is new has not begun to close. -/
theorem Reachable.not_closesDown_of_new (hr : Reachable b) {a : Action} {f : Face}
    (new : b.view.faces[i]? = none) (hf : (b.step a).view.faces[i]? = some f) :
    ¬ClosesDown b.hw f.device := by
  rintro ⟨x, hx, -, closing⟩
  rcases hr.faces_cases a with same | ⟨c, d, more, -, state⟩
  · rw [same, new] at hf
    cases hf
  · rw [more] at hf
    rcases View.of_getElem?_concat hf with there | ⟨-, rfl⟩
    · cases new.symm.trans there
    · rcases state x hx with opening | closed
      · cases opening.symm.trans closing
      · cases closed.symm.trans closing

/-- A session whose device closes is being closed itself, if the device is simulated. -/
theorem Reachable.closing_of_closesDown (hr : Reachable b) {s : Session}
    (hs : b.sessions[i]? = some s) (closes : ClosesDown b.hw s.device) : s.closing = true := by
  have face : ∀ {b : Broker} {i : SessionId} {s : Session}, b.sessions[i]? = some s →
      b.view.faces[i]? = some s.face := fun hs => by simp [view, hs]
  -- It was so before, or a task closes the session just now.
  have shut : ∀ {b : Broker} {a : Action} {i : SessionId} {s : Session}, Reachable b →
      (b.step a).sessions[i]? = some s → ClosesDown (b.step a).hw s.device →
      ClosesDown b.hw s.device ∨ s.closing = true := by
    intro b a i s hb hs closes
    refine (hb.closesDown_step closes).imp id ?_
    rintro ⟨j, t, ht, device, shut⟩
    obtain rfl : i = j :=
      (hb.step a).eq_of_device i j s.face t.face (face hs) (hb.faces_step (face ht) a) device.symm
    have tie : (b.step a).view.ties[i]? = some s.tie := by simp [view, hs]
    exact congrArg Tie.closing (Option.some.inj (tie.symm.trans shut))
  refine hr.session_invariant (P := fun b _ s => ClosesDown b.hw s.device → s.closing = true)
    (fun b a i c d instant hb new hs closes => ?_)
    (fun b a i s s' hb hs hs' hp ticked closes => ?_) i s hs closes
  · refine (shut hb hs closes).resolve_left fun before => ?_
    have new : b.view.faces[i]? = none := by simpa [view] using new
    exact hb.not_closesDown_of_new new (face hs) before
  · refine (shut hb hs' closes).elim (fun before => ?_) id
    have same : s'.device = s.device :=
      congrArg Face.device (Option.some.inj ((face hs').symm.trans (hb.faces_step (face hs) a)))
    have was := hp (same ▸ before)
    cases ticked with
    | keep tie sane asks => exact (congrArg Tie.closing tie).trans was
    | shut fresh tie sane => exact congrArg Tie.closing tie
    | attach noClose noCloseAll active waits tie sane released =>
      exact (congrArg Tie.closing tie).trans was

end Broker

end CameraBroker
