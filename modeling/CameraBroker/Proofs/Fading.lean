import CameraBroker.Proofs.View

/-! Handles only move forward, and few operations connect one. -/
namespace CameraBroker

theorem HandleState.rank_lt_of_canMoveTo {a b : HandleState} (h : a.canMoveTo b = true) :
    a.rank < b.rank := by
  simpa [canMoveTo] using h

structure Handle.Fades (x y : Handle) : Prop where
  camera : y.camera = x.camera
  forward : x.state.rank ≤ y.state.rank
  connected : y.state = .connected → x.state = .connected

namespace Handle.Fades

theorem refl (x : Handle) : x.Fades x := ⟨rfl, Nat.le_refl _, id⟩

theorem trans {x y z : Handle} (h : x.Fades y) (k : y.Fades z) : x.Fades z :=
  ⟨k.camera.trans h.camera, Nat.le_trans h.forward k.forward, h.connected ∘ k.connected⟩

theorem moveTo {x : Handle} {next : HandleState} (hn : next ≠ .connected) :
    x.Fades (x.moveTo next) := by
  unfold Handle.moveTo Handle.move?
  split
  · rename_i h
    exact ⟨rfl, Nat.le_of_lt (HandleState.rank_lt_of_canMoveTo h), fun e => absurd e hn⟩
  · exact refl x

theorem fail {x y : Handle} {reason : OpenFailure} (h : x.fail? reason = some y) : x.Fades y := by
  unfold Handle.fail? at h
  split at h
  · rename_i hx
    cases h
    exact ⟨rfl, by simp [hx, HandleState.rank], nofun⟩
  · cases h

theorem disconnect (x : Handle) : x.Fades x.disconnect := by
  have h : x.Fades (x.moveTo .disconnected) := moveTo nofun
  exact ⟨h.camera, h.forward, h.connected⟩

theorem observe (s : Stream) (x : Handle) : x.Fades (x.observe s) := by
  have closing : x.Fades (if s.state = .closing then x.moveTo .disconnected else x) := by
    split
    · exact moveTo nofun
    · exact refl x
  unfold Handle.observe
  split
  · exact refl x
  · split
    · have last : ∀ z : Handle, z.Fades (z.moveTo .closed) := fun z => moveTo nofun
      have closed := closing.trans (last _)
      exact ⟨closed.camera, closed.forward, closed.connected⟩
    · exact ⟨closing.camera, closing.forward, closing.connected⟩

end Handle.Fades

theorem Handle.disconnect_ne_connected (x : Handle) : x.disconnect.state ≠ .connected := by
  unfold disconnect moveTo move?
  cases h : x.state <;> simp [HandleState.canMoveTo, HandleState.rank, unbind, h]

namespace Broker

def Connected (b : Broker) (h : HandleId) : Prop :=
  ∃ y, b.handles[h]? = some y ∧ y.state = .connected

def Waits (b : Broker) (h : HandleId) : Prop :=
  ∃ y, b.handles[h]? = some y ∧ y.state = .unopened

/-- The handle is there and no longer waits for an answer. -/
def Resolves (b : Broker) (h : HandleId) : Prop :=
  ∃ y, b.handles[h]? = some y ∧ y.state ≠ .unopened

/-- Answers stay. -/
theorem Resolves.forward {b b' : Broker} {h : HandleId} (hr : b.Resolves h)
    (forward : ∀ x, b.handles[h]? = some x →
      ∃ y, b'.handles[h]? = some y ∧ x.state.rank ≤ y.state.rank) : b'.Resolves h := by
  obtain ⟨x, hx, hs⟩ := hr
  obtain ⟨y, hy, xy⟩ := forward x hx
  refine ⟨y, hy, fun e => hs ?_⟩
  rw [e] at xy
  cases hxs : x.state <;> simp [hxs, HandleState.rank] at xy ⊢

def Fades (b b' : Broker) : Prop :=
  b'.handles.length = b.handles.length ∧
    ∀ (h : HandleId) (x : Handle), b.handles[h]? = some x →
      ∃ y, b'.handles[h]? = some y ∧ x.Fades y

namespace Fades

theorem of_eq {b b' : Broker} (h : b'.handles = b.handles) : b.Fades b' :=
  ⟨by rw [h], fun i x hx => ⟨x, by rw [h, hx], .refl x⟩⟩

theorem refl (b : Broker) : b.Fades b := of_eq rfl

theorem trans {b c d : Broker} (h : b.Fades c) (k : c.Fades d) : b.Fades d := by
  refine ⟨k.1.trans h.1, fun i x hx => ?_⟩
  obtain ⟨y, hy, xy⟩ := h.2 i x hx
  obtain ⟨z, hz, yz⟩ := k.2 i y hy
  exact ⟨z, hz, xy.trans yz⟩

theorem setHandle {b : Broker} {i : HandleId} {x y : Handle} (hx : b.handles[i]? = some x)
    (xy : x.Fades y) : b.Fades (b.setHandle i y) := by
  refine ⟨by simp [Broker.setHandle], fun j z hz => ?_⟩
  obtain ⟨hi, -⟩ := List.getElem?_eq_some_iff.1 hx
  by_cases hij : i = j
  · subst hij
    obtain rfl : x = z := Option.some.inj (hx.symm.trans hz)
    exact ⟨y, by simp [Broker.setHandle, hi], xy⟩
  · exact ⟨z, by simp [Broker.setHandle, List.getElem?_set_ne hij, hz], .refl z⟩

/-- A handle of the later state is one of the earlier state. -/
theorem before {b b' : Broker} (h : b.Fades b') {i : HandleId} {y : Handle}
    (hy : b'.handles[i]? = some y) : ∃ x, b.handles[i]? = some x ∧ x.Fades y := by
  obtain ⟨hi, -⟩ := List.getElem?_eq_some_iff.1 hy
  have hi : i < b.handles.length := h.1 ▸ hi
  have hx : b.handles[i]? = some b.handles[i] := List.getElem?_eq_getElem hi
  obtain ⟨z, hz, xz⟩ := h.2 i _ hx
  obtain rfl : y = z := Option.some.inj (hy.symm.trans hz)
  exact ⟨_, hx, xz⟩

theorem resolves {b b' : Broker} (h : b.Fades b') {i : HandleId} (hi : b.Resolves i) :
    b'.Resolves i := by
  refine hi.forward fun x hx => ?_
  obtain ⟨y, hy, xy⟩ := h.2 i x hx
  exact ⟨y, hy, xy.forward⟩

end Fades

section Operations
variable (b : Broker)

@[simp] theorem handles_giveBack (token : Option TimerId) :
    (b.giveBack token).handles = b.handles := by
  cases token <;> rfl

theorem fades_failHandle (i : HandleId) (reason : OpenFailure) :
    b.Fades (b.failHandle i reason) := by
  unfold failHandle
  split
  · exact .refl b
  · rename_i x hx
    split
    · exact .refl b
    · rename_i y hy
      exact (Fades.setHandle hx (.fail hy)).trans (.of_eq rfl)

theorem fades_disconnect (i : HandleId) : b.Fades (b.disconnect i) := by
  unfold disconnect
  split
  · exact .refl b
  · rename_i x hx
    have emitted : (if (x.move? .disconnected).isSome
        then b.emit (.handleDisconnected i x.camera) else b).handles = b.handles := by
      split <;> rfl
    have moved := Fades.setHandle (emitted ▸ hx) (.disconnect x)
    exact ((Fades.of_eq emitted).trans moved).trans (.of_eq (handles_giveBack _ _))

theorem fades_observe (i : HandleId) : b.Fades (b.observe i) := by
  unfold observe
  split
  · exact .refl b
  · rename_i x hx
    split
    · exact .refl b
    · rename_i s hs
      have moved := Fades.setHandle hx (.observe s x)
      dsimp only
      split
      · exact moved
      · exact moved.trans (.of_eq (handles_giveBack _ _))

@[simp] theorem view_failHandle (i : HandleId) (reason : OpenFailure) :
    (b.failHandle i reason).view = b.view := by
  unfold failHandle
  split
  · rfl
  · rename_i x hx
    split
    · rfl
    · rename_i y hy
      rw [view_emit]
      exact view_setHandle hx (Handle.Fades.fail hy).camera

@[simp] theorem view_disconnect (i : HandleId) : (b.disconnect i).view = b.view := by
  unfold disconnect
  split
  · rfl
  · rename_i x hx
    dsimp only
    rw [view_giveBack]
    split
    · have told : (b.emit (.handleDisconnected i x.camera)).handles[i]? = some x := hx
      rw [view_setHandle told (Handle.Fades.disconnect x).camera, view_emit]
      rfl
    · exact view_setHandle hx (Handle.Fades.disconnect x).camera

@[simp] theorem view_observe (i : HandleId) : (b.observe i).view = b.view := by
  unfold observe
  split
  · rfl
  · rename_i x hx
    split
    · rfl
    · rename_i s hs
      have moved := view_setHandle hx (Handle.Fades.observe s x).camera
      dsimp only
      split
      · exact moved
      · exact (view_giveBack _ _).trans moved

variable {b}

/-- A handle that could be failed waits no longer. -/
theorem resolves_failHandle {i : HandleId} (hi : i < b.handles.length) (reason : OpenFailure) :
    (b.failHandle i reason).Resolves i := by
  obtain ⟨x, hx⟩ : ∃ x, b.handles[i]? = some x := ⟨_, List.getElem?_eq_getElem hi⟩
  unfold failHandle
  simp only [hx, Handle.fail?]
  by_cases hs : x.state = .unopened
  · exact ⟨{ x with state := .disconnected, failure := some reason },
      by simp [hs, setHandle, emit, hi], nofun⟩
  · exact ⟨x, by simp [hs, hx], hs⟩

theorem disconnect_ne_connected {i : HandleId} {y : Handle}
    (hy : (b.disconnect i).handles[i]? = some y) : y.state ≠ .connected := by
  obtain ⟨x, hx, -⟩ := (b.fades_disconnect i).before hy
  obtain ⟨hi, -⟩ := List.getElem?_eq_some_iff.1 hx
  have emitted : (if (x.move? .disconnected).isSome
      then b.emit (.handleDisconnected i x.camera) else b).handles = b.handles := by
    split <;> rfl
  have hxy : x.disconnect = y := by
    simp only [disconnect, hx, handles_giveBack, setHandle, emitted] at hy
    simpa [hi] using hy
  exact hxy ▸ x.disconnect_ne_connected

end Operations

end Broker

end CameraBroker
