import CameraBroker.Proofs.HandleMoves

/-! How a handle ends when its device goes away by itself. Its observer closes it if it finds the
end of the device while the handle is still bound. A session that is closed earlier lets go of its
handle, which then follows nothing any more and stays disconnected. -/
namespace CameraBroker

namespace Handle
variable {x : Handle}

theorem state_disconnect_of_ne_closed (unclosed : x.state ≠ .closed) :
    x.disconnect.state = .disconnected := by
  unfold disconnect moveTo move?
  cases h : x.state <;> simp_all [HandleState.canMoveTo, HandleState.rank, unbind]

theorem state_disconnect_of_answered (answered : x.state = .disconnected ∨ x.state = .closed) :
    x.disconnect.state = x.state := by
  unfold disconnect moveTo move?
  rcases answered with h | h <;> simp [h, HandleState.canMoveTo, HandleState.rank, unbind]

theorem failed_ne_closed (unclosed : x.state ≠ .closed) (reason : OpenFailure) :
    (x.failed reason).state ≠ .closed := by
  unfold failed fail?
  split
  · exact nofun
  · exact unclosed

theorem moveTo_disconnected_ne_closed (unclosed : x.state ≠ .closed) :
    (x.moveTo .disconnected).state ≠ .closed := by
  unfold moveTo move?
  split
  · exact nofun
  · exact unclosed

end Handle

theorem HandleState.eq_closed_of_rank_le {s : HandleState} (h : HandleState.closed.rank ≤ s.rank) :
    s = .closed := by
  cases s <;> simp_all [rank]

namespace Broker
variable {b b' : Broker} {h : HandleId} {x y : Handle}

/-- The handle is bound, and its device is closed or has lost its publisher. -/
def SeesEnd (b : Broker) (x : Handle) : Prop :=
  ∃ k s, x.binding = some k ∧ b.stream? k.device = some s ∧ s.isGone = true

/-- Only the end of a device closes a handle. -/
theorem Touches.closed {a : Action} (touches : Touches b a b' h x y) (unclosed : x.state ≠ .closed)
    (closed : y.state = .closed) : b.SeesEnd x := by
  cases touches with
  | leave same => exact absurd (same.state.symm.trans closed) unclosed
  | disconnect why => cases (x.state_disconnect_of_ne_closed unclosed).symm.trans closed
  | fail reason served => exact absurd closed (Handle.failed_ne_closed unclosed reason)
  | supersede served mem => exact absurd closed (Handle.failed_ne_closed unclosed _)
  | attach served noClose noCloseAll active hs waits timer => cases closed
  | @observe k s hk hs =>
    rcases Handle.observe_cases hk s with ⟨gone, -, -⟩ | ⟨-, -, same | ⟨-, moved⟩⟩
    · exact ⟨k, s, hk, hs, gone⟩
    · exact absurd (same.symm.trans closed) unclosed
    · exact absurd (moved.symm.trans closed) (Handle.moveTo_disconnected_ne_closed unclosed)

/-- A handle that has its answer and follows nothing is left as it is. -/
theorem Touches.unbound {a : Action} (touches : Touches b a b' h x y) (unbound : x.binding = none)
    (answered : x.state = .disconnected ∨ x.state = .closed) :
    y.binding = none ∧ y.state = x.state := by
  have told : x.state ≠ .unopened := by
    rcases answered with h | h <;> rw [h] <;> exact nofun
  cases touches with
  | leave same => exact ⟨same.binding.trans unbound, same.state⟩
  | disconnect why => exact ⟨rfl, Handle.state_disconnect_of_answered answered⟩
  | observe hk hs => cases unbound.symm.trans hk
  | fail reason served =>
    rw [Handle.failed_of_answered told]
    exact ⟨unbound, rfl⟩
  | supersede served mem =>
    rw [Handle.failed_of_answered told]
    exact ⟨unbound, rfl⟩
  | attach served noClose noCloseAll active hs waits timer => exact absurd waits told

theorem Reachable.unbound_run (hr : Reachable b) (hx : b.handles[h]? = some x)
    (unbound : x.binding = none) (answered : x.state = .disconnected ∨ x.state = .closed)
    (actions : List Action) : ∃ y, (b.run actions).handles[h]? = some y ∧ y.state = x.state := by
  induction actions generalizing b x with
  | nil => exact ⟨x, hx, rfl⟩
  | cons a actions ih =>
    obtain ⟨y, hy, touches⟩ := hr.touches a hx
    obtain ⟨still, same⟩ := touches.unbound unbound answered
    obtain ⟨z, hz, later⟩ := ih (hr.step a) hy still (same ▸ answered)
    exact ⟨z, hz, later.trans same⟩

theorem Reachable.forward_run (hr : Reachable b) (hx : b.handles[h]? = some x)
    (actions : List Action) :
    ∃ y, (b.run actions).handles[h]? = some y ∧ x.state.rank ≤ y.state.rank := by
  induction actions generalizing b x with
  | nil => exact ⟨x, hx, Nat.le_refl _⟩
  | cons a actions ih =>
    obtain ⟨y, hy, forward⟩ := hr.forward_step hx a
    obtain ⟨z, hz, later⟩ := ih (hr.step a) hy
    exact ⟨z, hz, Nat.le_trans forward later⟩

/-- A handle that a run closes is bound at some point of it when its device is at its end. -/
theorem Reachable.seesEnd_of_closed (hr : Reachable b) (hx : b.handles[h]? = some x)
    (unclosed : x.state ≠ .closed) {actions : List Action}
    (hy : (b.run actions).handles[h]? = some y) (closed : y.state = .closed) :
    ∃ before a after z, actions = before ++ a :: after ∧ (b.run before).handles[h]? = some z ∧
      (b.run before).SeesEnd z := by
  obtain ⟨before, a, after, rfl, not, becomes⟩ := exists_step_of_run
    (P := fun b => ∃ y, b.handles[h]? = some y ∧ y.state = .closed)
    (fun ⟨y, hy, closed⟩ => unclosed (Option.some.inj (hx.symm.trans hy) ▸ closed))
    ⟨y, hy, closed⟩
  obtain ⟨z, hz, -⟩ := hr.forward_run hx before
  obtain ⟨w, hw, touches⟩ := (hr.run before).touches a hz
  obtain ⟨w', hw', ends⟩ := becomes
  obtain rfl : w = w' := Option.some.inj (hw.symm.trans hw')
  exact ⟨before, a, after, z, rfl, hz, touches.closed (fun now => not ⟨z, hz, now⟩) ends⟩

/-- The observer closes the handle for good when it finds the end of the device. -/
theorem Reachable.closed_of_observe (hr : Reachable b) (hx : b.handles[h]? = some x)
    (ready : .observe h ∈ b.readyTasks) (ends : b.SeesEnd x) (actions : List Action) :
    ∃ y, ((b.step (.turn (.observe h))).run actions).handles[h]? = some y ∧
      y.state = .closed := by
  obtain ⟨k, s, hk, hs, gone⟩ := ends
  obtain ⟨there, -⟩ := List.getElem?_eq_some_iff.1 hx
  have turns : b.step (.turn (.observe h)) = b.observe h := step_of_ready ready
  have hy : (b.observe h).handles[h]? = some (x.observe s) := by
    simp [b.handles_observe_of_stream hx hk hs, there]
  have closed : (x.observe s).state = .closed := by
    rcases Handle.observe_cases hk s with ⟨-, -, closed⟩ | ⟨alive, -, -⟩
    · exact closed
    · cases gone.symm.trans alive
  obtain ⟨y, hy, forward⟩ := (hr.step (.turn (.observe h))).forward_run (turns ▸ hy) actions
  rw [closed] at forward
  exact ⟨y, hy, HandleState.eq_closed_of_rank_le forward⟩

/-- A session that begins to close lets go of its handle. -/
theorem getElem?_handles_resumeClose {k : Nat} {i : SessionId} {s : Session}
    (hk : b.closes[k]? = some { session := i }) (hs : b.sessions[i]? = some s)
    (current : s.current = some h) (hx : b.handles[h]? = some x) :
    (b.resumeClose k).handles[h]? = some x.disconnect := by
  obtain ⟨shutting, handles, -, same⟩ := beginClose_bonds hs
  have letGo : (b.beginClose i).2.handles[h]? = some x.disconnect := by
    have handles' : (b.beginClose i).2.handles = (shutting.letGo s.current).handles :=
      congrArg Prod.fst same
    simp [handles', getElem?_handles_letGo, handles, hx, current]
  unfold resumeClose
  rw [hk]
  dsimp only
  cases began : b.beginClose i with
  | mk started after =>
    rw [began] at letGo
    cases started <;> exact letGo

/-- The close of a session lets go of its handle for good. -/
theorem Reachable.disconnected_of_close (hr : Reachable b) (hx : b.handles[h]? = some x)
    (unclosed : x.state ≠ .closed) {k : Nat} {i : SessionId} (hk : b.closes[k]? = some ⟨i, .fresh⟩)
    (current : b.view.Current i h) (actions : List Action) :
    ∃ y, ((b.step (.turn (.close k))).run actions).handles[h]? = some y ∧
      y.state = .disconnected := by
  have turns : b.step (.turn (.close k)) = b.resumeClose k := if_pos (ready_of_fresh hk)
  obtain ⟨t, ht, bound⟩ := current
  obtain ⟨s, hs, rfl⟩ : ∃ s, b.sessions[i]? = some s ∧ s.tie = t := by simpa [view] using ht
  have hy : (b.resumeClose k).handles[h]? = some x.disconnect :=
    getElem?_handles_resumeClose hk hs bound hx
  have state := x.state_disconnect_of_ne_closed unclosed
  obtain ⟨y, hy, same⟩ := (hr.step (.turn (.close k))).unbound_run (turns ▸ hy) rfl (.inl state)
    actions
  exact ⟨y, hy, same.trans state⟩

/-- In every run a handle is closed only when its device is at its end while the handle is still
bound. Its observer closes it then, for good. Whatever the device does, a handle whose session is
closed before that ends disconnected. -/
theorem closes_only_while_bound (hr : Reachable b) (hx : b.handles[h]? = some x)
    (unclosed : x.state ≠ .closed) :
    (∀ actions y, (b.run actions).handles[h]? = some y → y.state = .closed →
      ∃ before a after z, actions = before ++ a :: after ∧ (b.run before).handles[h]? = some z ∧
        (b.run before).SeesEnd z) ∧
    (.observe h ∈ b.readyTasks → b.SeesEnd x → ∀ actions,
      ∃ y, ((b.step (.turn (.observe h))).run actions).handles[h]? = some y ∧
        y.state = .closed) ∧
    (∀ k i, b.closes[k]? = some ⟨i, .fresh⟩ → b.view.Current i h → ∀ actions,
      ∃ y, ((b.step (.turn (.close k))).run actions).handles[h]? = some y ∧
        y.state = .disconnected) :=
  ⟨fun _ _ hy closed => hr.seesEnd_of_closed hx unclosed hy closed,
    fun ready ends actions => hr.closed_of_observe hx ready ends actions,
    fun _ _ hk current actions => hr.disconnected_of_close hx unclosed hk current actions⟩

/-- A handle is connected to a device that the close of its session leaves as it is. -/
def connectedByHand : List Action :=
  [.script 0 .ignore [], .turn .loop, .open front true, .turn .loop, .turn .loop, .turn .loop,
    .turn (.observe 0), .turn (.listen 0)]

def closesAtOnce : List Action := connectedByHand ++ [.publish 0 .closed]

theorem closes_only_while_bound_atOnce :
    (∃ x, (byHand closesAtOnce).handles[0]? = some x ∧ x.state = .connected) ∧
      ∀ actions, ∃ y, (((byHand closesAtOnce).step (.turn (.observe 0))).run actions).handles[0]? =
        some y ∧ y.state = .closed := by
  have ready : .observe 0 ∈ (byHand closesAtOnce).readyTasks := by decide
  obtain ⟨x, hx, connected, k, hk, s, hs, gone⟩ : ∃ x,
      (byHand closesAtOnce).handles[0]? = some x ∧ x.state = .connected ∧ ∃ k, x.binding = some k ∧
        ∃ s, (byHand closesAtOnce).stream? k.device = some s ∧ s.isGone = true :=
    ⟨_, rfl, by decide, _, rfl, _, rfl, by decide⟩
  have unclosed : x.state ≠ .closed := by
    rw [connected]
    exact nofun
  obtain ⟨-, observed, -⟩ := closes_only_while_bound (.byHand _) hx unclosed
  exact ⟨⟨x, hx, connected⟩, observed ready ⟨k, s, hk, hs, gone⟩⟩

def closesSlowly : List Action :=
  [.publish 0 .closing, .turn (.observe 0), .turn (.listen 0), .turn .loop, .turn (.close 0),
    .turn (.countdown 0 1), .publish 0 .closed, .turn .loop]

/-- Only devices and tasks act. -/
def Action.isByItself : Action → Bool
  | .turn _ => true
  | .publish _ _ => true
  | .dropPublisher _ => true
  | .elapse _ => true
  | _ => false

/-- What the contract of a device says of all its states. -/
def MovesForward (b : Broker) (a : Action) : Prop :=
  ∀ p ∈ b.hw.devices.zip (b.step a).hw.devices, p.1.stream.state.rank ≤ p.2.stream.state.rank

instance (b : Broker) (a : Action) : Decidable (MovesForward b a) :=
  inferInstanceAs (Decidable (∀ p ∈ b.hw.devices.zip (b.step a).hw.devices,
    p.1.stream.state.rank ≤ p.2.stream.state.rank))

/-- A connected handle may end disconnected although its device has closed by itself. -/
theorem connected_may_end_disconnected : ¬∀ (s : Setup) (before after : List Action) (h : HandleId)
    (x y : Handle) (k : Binding) (e f : Stream),
    (s.broker.run before).readyTasks = [] → (s.broker.run before).handles[h]? = some x →
    x.state = .connected → x.binding = some k → (s.broker.run before).stream? k.device = some e →
    e.isLost = false → (∀ a ∈ after, a.isByItself = true) →
    Throughout MovesForward after (s.broker.run before) →
    ((s.broker.run before).run after).readyTasks = [] →
    ((s.broker.run before).run after).stream? k.device = some f → f.state = .closed →
    ((s.broker.run before).run after).handles[h]? = some y → y.state = .closed := by
  intro closes
  have closed := closes { opener := .scripted 0 .closed [] } connectedByHand closesSlowly 0
    _ _ _ _ _ (by decide) rfl (by decide) rfl rfl (by decide) (by decide) (by decide +kernel)
    (by decide +kernel) rfl (by decide +kernel) rfl
  revert closed
  decide +kernel

end Broker

end CameraBroker
