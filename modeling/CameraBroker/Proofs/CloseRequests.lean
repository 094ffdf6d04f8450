import CameraBroker.Proofs.Barrier
import CameraBroker.Proofs.ClosingDevices
import CameraBroker.Proofs.Precedence

/-! The close of a single session. Closes are serviced in the order of arrival and before everything
else, none is lost, and what is done for one leaves every other session alone: its device, the
handle that it binds and its timer. -/
namespace CameraBroker

namespace Hardware

section
variable {w : Hardware} {d e : DeviceId}

theorem getElem?_onDevice_ne (hde : d ≠ e) (f : Device → Device) :
    (w.onDevice d f).devices[e]? = w.devices[e]? := by
  simp [onDevice, hde]

theorem getElem?_of_advance {state : DeviceState} {x : Device} {w' : Hardware} (hde : d ≠ e)
    (h : w.advance? d state = some (x, w')) : w'.devices[e]? = w.devices[e]? := by
  unfold advance? at h
  split at h
  · cases h
  · obtain ⟨s, -, same⟩ := Option.map_eq_some_iff.1 h
    cases same
    exact getElem?_onDevice_ne hde _

/-- A device that is asked to close changes by itself. -/
theorem getElem?_closeDevice_ne (hde : d ≠ e) :
    (w.closeDevice d).2.devices[e]? = w.devices[e]? := by
  unfold closeDevice
  split
  · rfl
  · split
    · split
      · rfl
      · rename_i advanced
        exact (getElem?_onDevice_ne hde _).trans (getElem?_of_advance hde advanced)
    · rename_i onClose _
      dsimp only
      split
      · cases onClose with
        | closed => exact getElem?_onDevice_ne hde _
        | closing => exact getElem?_onDevice_ne hde _
        | ignore => rfl
      · rfl

/-- So does one that is released. -/
theorem getElem?_resumeRelease_ne (hde : d ≠ e) :
    (w.resumeRelease d).devices[e]? = w.devices[e]? := by
  unfold resumeRelease
  split
  · exact getElem?_onDevice_ne hde _
  · unfold finishRelease
    dsimp only
    rw [getElem?_onDevice_ne hde]
    split
    · rename_i advanced
      have kept := getElem?_of_advance hde advanced
      exact kept
    · rfl

end

end Hardware

namespace Broker
variable {b b' : Broker} {w : View} {i : SessionId}

/-- The other sessions are as they were, and so are their devices and the handles they bind. -/
structure SparesOthers (b b' : Broker) (i : SessionId) : Prop where
  active : ∀ j, j ≠ i → (j ∈ b'.loop.active ↔ j ∈ b.loop.active)
  sessions : ∀ j : SessionId, j ≠ i → b'.sessions[j]? = b.sessions[j]?
  devices : ∀ (j : SessionId) (s : Session), j ≠ i → b.sessions[j]? = some s →
    b'.hw.devices[s.device]? = b.hw.devices[s.device]?
  handles : ∀ (j : SessionId) (s : Session) (h : HandleId), j ≠ i → b.sessions[j]? = some s →
    s.current = some h → b'.handles[h]? = b.handles[h]?

/-- What is done for the close of a session: the loop services it and waits for the session, a task
closes the session, and its device is released. -/
inductive PartOfClose (b : Broker) (i : SessionId) : Action → Prop where
  | service {a : Action}
      (more : b.servicedRequests.count (.close i) < (b.step a).servicedRequests.count (.close i)) :
      PartOfClose b i a
  | wait {left : List SessionId} (stage : b.loop.stage = .closing [i] left .read) :
      PartOfClose b i (.turn .loop)
  | close {k : Nat} {c : SessionClose} (hk : b.closes[k]? = some c) (session : c.session = i) :
      PartOfClose b i (.turn (.close k))
  | release {s : Session} (hs : b.sessions[i]? = some s) :
      PartOfClose b i (.turn (.release s.device))

/-- What the loop does with the close of a session. It services nothing else until the device of the
session is gone. -/
structure ServicesClose (b b' : Broker) (i : SessionId) : Prop where
  serviced : b'.servicedRequests = b.servicedRequests ++ [.close i]
  active : b'.loop.active = b.loop.active.filter (· ≠ i)
  closes : b'.closes = b.closes ++ [{ session := i }]
  ends : ∃ s, b.sessions[i]? = some s ∧ ∀ actions,
    i ∈ (b'.run actions).loop.stage.left ∧ (b'.run actions).servicedRequests = b'.servicedRequests ∨
      ∃ front back, actions = front ++ back ∧ (b'.run front).Lost s.device

theorem SparesOthers.of_eq (active : ∀ j, j ≠ i → (j ∈ b'.loop.active ↔ j ∈ b.loop.active))
    (devices : b'.hw.devices = b.hw.devices) (bonds : b'.bonds = b.bonds) :
    b.SparesOthers b' i := by
  have handles : b'.handles = b.handles := congrArg Prod.fst bonds
  have sessions : b'.sessions = b.sessions := congrArg Prod.snd bonds
  exact ⟨active, fun j _ => by rw [sessions], fun j s _ _ => by rw [devices],
    fun j s h _ _ _ => by rw [handles]⟩

theorem SparesOthers.refl (b : Broker) (i : SessionId) : b.SparesOthers b i :=
  .of_eq (fun _ _ => Iff.rfl) rfl rfl

/-- A task takes its turn, or cannot go on just then. -/
theorem step_turn (b : Broker) (t : Task) :
    b.step (.turn t) = b.resumeTask t ∨ b.step (.turn t) = b := by
  by_cases ready : t ∈ b.readyTasks
  · exact .inl (step_of_ready ready)
  · exact .inr (step_of_unready ready)

/-! The loop. -/

/-- Only a turn of the loop is done with a request. -/
theorem Reachable.turn_of_serviced (hr : Reachable b) {a : Action}
    (more : b.servicedRequests.count (.close i) < (b.step a).servicedRequests.count (.close i)) :
    a = .turn .loop ∧ b.step a = b.resumeLoop := by
  by_cases ha : a = .turn .loop
  · subst ha
    rcases loop_turn hr.sound with stays | ⟨turns, -⟩
    · rw [stays] at more
      exact absurd more (Nat.lt_irrefl _)
    · exact ⟨rfl, turns⟩
  · have beside := beside_step hr.sound.devicesFit ha
    rw [← view_servicedRequests, ← view_servicedRequests, beside.view.serviced] at more
    exact absurd more (Nat.lt_irrefl _)

/-- A turn for a close leaves handles and sessions to the task that closes the session. -/
theorem bonds_of_firstClose {rest : List Request} (stage : b.loop.stage = .reading)
    (first : firstClose? b.waiting = some (i, rest)) : b.resumeLoop.bonds = b.bonds := by
  unfold resumeLoop
  rw [stage]
  dsimp only
  unfold read
  split
  · rename_i none
    have none : b.waiting = [] := none
    rw [none] at first
    cases first
  · dsimp only
    unfold serve
    have found : firstClose? (b.loop.pending ++ b.inbox.buffer) = some (i, rest) := first
    simp only [emit, setPending, onLoop, found]
    exact bonds_closeSessions _ _ _

theorem Reachable.spares_of_service (hr : Reachable b) {a : Action}
    (more : b.servicedRequests.count (.close i) < (b.step a).servicedRequests.count (.close i)) :
    b.SparesOthers (b.step a) i := by
  obtain ⟨rest, left, retires⟩ := hr.retires more
  obtain ⟨-, turns⟩ := hr.turn_of_serviced more
  have active : (b.step a).loop.active = b.loop.active.filter (· ≠ i) :=
    congrArg (fun v => v.loop.active) retires.view
  refine .of_eq (fun j hj => ?_) (congrArg View.devices retires.view) ?_
  · simp [active, hj]
  · rw [turns]
    exact bonds_of_firstClose retires.stage retires.first

theorem spares_of_wait {left : List SessionId} (stage : b.loop.stage = .closing [i] left .read) :
    b.SparesOthers b.resumeLoop i := by
  have waits : b.resumeLoop = b.awaitClosed [i] left .read := by
    unfold resumeLoop
    rw [stage]
  have view := view_awaitClosed b [i] left .read
  have active : (b.awaitClosed [i] left .read).loop.active = b.loop.active :=
    congrArg (fun v => v.loop.active) view
  rw [waits]
  exact .of_eq (fun j _ => by rw [active]) (congrArg View.devices view)
    (bonds_awaitClosed b [i] left .read)

/-- The loop waits for the session and does nothing else until the device is gone. -/
theorem Reachable.ends_of_left (hr : Reachable b) {s : Session} (hs : b.sessions[i]? = some s)
    (waits : i ∈ b.loop.stage.left) (actions : List Action) :
    i ∈ (b.run actions).loop.stage.left ∧
        (b.run actions).servicedRequests = b.servicedRequests ∨
      ∃ front back, actions = front ++ back ∧ (b.run front).Lost s.device := by
  induction actions generalizing b s with
  | nil => exact .inl ⟨waits, rfl⟩
  | cons a actions ih =>
    have busy : b.loop.stage.left ≠ [] := List.ne_nil_of_mem waits
    have hf : b.view.faces[i]? = some s.face := by simp [view, hs]
    obtain ⟨t, ht, device⟩ : ∃ t, (b.step a).sessions[i]? = some t ∧ t.device = s.device := by
      obtain ⟨t, ht, same⟩ : ∃ t, (b.step a).sessions[i]? = some t ∧ t.face = s.face := by
        simpa [view] using hr.faces_step hf a
      exact ⟨t, ht, congrArg Face.device same⟩
    have goesOn : i ∈ (b.step a).loop.stage.left ∨ b.Lost s.device := by
      rcases hr.step_cases a with beside | turn
      · have loop : (b.step a).loop = b.loop := (View.Aside.of_meanwhile beside.view).loop
        exact .inl (loop ▸ waits)
      · rcases turn.rule.of_left busy with same | ⟨sessions, left, left', after, stage, down, same⟩
        · have loop : (b.step a).loop = b.loop := congrArg View.loop same
          exact .inl (loop ▸ waits)
        · have next : (b.step a).loop.stage = .afterWait sessions left' after :=
            congrArg (fun v => v.loop.stage) same
          rw [stage] at waits
          by_cases still : i ∈ left'
          · exact .inl (by rw [next, LoopStage.left_afterWait]; exact still)
          · exact .inr (hr.lost_of_isDown hf
              (down i waits (hr.sound.left _ _ _ stage waits) still))
    rcases goesOn with still | lost
    · have same := (hr.serviced_of_left busy a).1
      rcases ih (hr.step a) ht still with ⟨left, later⟩ | ⟨front, back, rfl, lost⟩
      · exact .inl ⟨left, later.trans same⟩
      · exact .inr ⟨a :: front, back, rfl, device ▸ lost⟩
    · exact .inr ⟨[], a :: actions, rfl, lost⟩

theorem Reachable.servicesClose (hr : Reachable b) {a : Action}
    (more : b.servicedRequests.count (.close i) < (b.step a).servicedRequests.count (.close i)) :
    b.ServicesClose (b.step a) i := by
  obtain ⟨rest, left, retires⟩ := hr.retires more
  have stage : (b.step a).loop.stage = .afterWait [i] left .read :=
    congrArg (fun v => v.loop.stage) retires.view
  have there : i < b.sessions.length := by
    obtain ⟨before, after, waiting, -, -⟩ := firstClose?_eq_some retires.first
    have named : i < b.view.faces.length := hr.sound.named (.close i) (by simp [waiting])
    simpa [view] using named
  have hs : b.sessions[i]? = some b.sessions[i] := List.getElem?_eq_getElem there
  have hf : b.view.faces[i]? = some b.sessions[i].face := by simp [view, hs]
  refine ⟨retires.serviced, congrArg (fun v => v.loop.active) retires.view,
    congrArg View.closes retires.view, b.sessions[i], hs, fun actions => ?_⟩
  by_cases waits : i ∈ left
  · have faces : (b.step a).view.faces[i]? = some b.sessions[i].face := hr.faces_step hf a
    obtain ⟨t, ht, same⟩ : ∃ t, (b.step a).sessions[i]? = some t ∧ t.face = b.sessions[i].face := by
      simpa [view] using faces
    have busy : i ∈ (b.step a).loop.stage.left := by
      rw [stage, LoopStage.left_afterWait]
      exact waits
    have device : t.device = b.sessions[i].device := congrArg Face.device same
    exact device ▸ (hr.step a).ends_of_left ht busy actions
  · obtain ⟨x, hx, gone⟩ := hr.lost_of_isDown hf (retires.leaves.down i (by simp) waits)
    have devices : (b.step a).hw.devices = b.hw.devices := congrArg View.devices retires.view
    exact .inr ⟨[], actions, rfl, x, devices ▸ hx, gone⟩

/-! The task that closes the session. -/

/-- The handle that a session binds holds a token of that session or none. -/
theorem Reachable.token_of_current (hr : Reachable b) {s : Session} {h : HandleId}
    (hs : b.sessions[i]? = some s) (current : s.current = some h) {j : SessionId}
    (token : (b.handles[h]?).bind Handle.token? = some j) : j = i := by
  obtain ⟨x, hx, token⟩ := Option.bind_eq_some_iff.1 token
  obtain ⟨k, hk, token⟩ := Option.bind_eq_some_iff.1 token
  obtain ⟨j', t, ht, bound, -, held⟩ := hr.held hx hk
  have same : j' = i := hr.bindings.once ((current_of_session ht).2 bound)
    ((current_of_session hs).2 current)
  rcases held with none | some
  · cases none.symm.trans token
  · exact (Option.some.inj (token.symm.trans some)).trans same

/-- What a session lets go of concerns no other session. -/
theorem Reachable.bonds_of_shut (hr : Reachable b) {s : Session} {shutting : Broker}
    (hs : b.sessions[i]? = some s) (handles : shutting.handles = b.handles)
    (sessions : shutting.sessions = b.sessions.set i s.shut)
    (same : b'.bonds = (shutting.letGo s.current).bonds) {j : SessionId} (hj : j ≠ i) :
    b'.sessions[j]? = b.sessions[j]? ∧ ∀ (t : Session) (h : HandleId), b.sessions[j]? = some t →
      t.current = some h → b'.handles[h]? = b.handles[h]? := by
  have handles' : b'.handles = (shutting.letGo s.current).handles := congrArg Prod.fst same
  have sessions' : b'.sessions = (shutting.letGo s.current).sessions := congrArg Prod.snd same
  refine ⟨?_, fun t h ht bound => ?_⟩
  · have other : shutting.sessions[j]? = b.sessions[j]? := by
      rw [sessions, List.getElem?_set_ne hj.symm]
    rw [sessions', ← other]
    cases current : s.current with
    | none => rfl
    | some h =>
      have kept : (b.handles[h]?).bind Handle.token? ≠ some j := fun token =>
        hj (hr.token_of_current hs current token)
      simp [letGo, getElem?_sessions_disconnect, handles, kept]
  · have other : s.current ≠ some h := fun current =>
      hj (hr.bindings.once ((current_of_session ht).2 bound) ((current_of_session hs).2 current))
    simp [handles', getElem?_handles_letGo, handles, other]

/-- The task asks only the device of its own session to close. -/
theorem devices_beginClose (b : Broker) (i : SessionId) {e : DeviceId}
    (other : ∀ s, b.sessions[i]? = some s → s.device ≠ e) :
    (b.beginClose i).2.hw.devices[e]? = b.hw.devices[e]? := by
  cases hs : b.sessions[i]? with
  | none => simp [beginClose, hs]
  | some s =>
    obtain ⟨c, view, -, -, began⟩ := beginClose_eq hs
    have devices : c.hw.devices = b.hw.devices := congrArg View.devices view
    rw [began, ← devices]
    exact Hardware.getElem?_closeDevice_ne (other s hs)

theorem Reachable.device_ne (hr : Reachable b) {j : SessionId} {s t : Session} (hij : j ≠ i)
    (hs : b.sessions[i]? = some s) (ht : b.sessions[j]? = some t) : s.device ≠ t.device := by
  intro same
  exact hij (hr.eq_of_device i j s.face t.face (by simp [view, hs]) (by simp [view, ht]) same).symm

/-- A turn of the task that closes a session. -/
theorem Reachable.bonds_of_close (hr : Reachable b) {k : Nat} {c : SessionClose}
    (hk : b.closes[k]? = some c) {j : SessionId} (hj : j ≠ c.session) :
    (b.resumeClose k).sessions[j]? = b.sessions[j]? ∧ ∀ (t : Session) (h : HandleId),
      b.sessions[j]? = some t → t.current = some h →
        (b.resumeClose k).handles[h]? = b.handles[h]? := by
  unfold resumeClose
  rw [hk]
  dsimp only
  cases c.stage with
  | fresh =>
    cases hs : b.sessions[c.session]? with
    | none =>
      have nothing : b.beginClose c.session = (false, b) := by simp [beginClose, hs]
      rw [nothing]
      exact ⟨rfl, fun _ _ _ _ => rfl⟩
    | some s =>
      obtain ⟨shutting, handles, sessions, same⟩ := beginClose_bonds hs
      have others := hr.bonds_of_shut hs handles sessions same hj
      cases began : b.beginClose c.session with
      | mk started after =>
        rw [began] at others
        cases started <;> exact others
  | awaiting => exact ⟨rfl, fun _ _ _ _ => rfl⟩
  | done => exact ⟨rfl, fun _ _ _ _ => rfl⟩

theorem Reachable.devices_of_close (hr : Reachable b) {k : Nat} {c : SessionClose}
    (hk : b.closes[k]? = some c) {j : SessionId} (hj : j ≠ c.session) {t : Session}
    (ht : b.sessions[j]? = some t) :
    (b.resumeClose k).hw.devices[t.device]? = b.hw.devices[t.device]? := by
  have apart := b.devices_beginClose c.session (e := t.device) fun s hs => hr.device_ne hj hs ht
  unfold resumeClose
  rw [hk]
  dsimp only
  cases c.stage with
  | fresh =>
    cases began : b.beginClose c.session with
    | mk started after =>
      rw [began] at apart
      cases started <;> exact apart
  | awaiting => rfl
  | done => rfl

theorem Reachable.spares_of_close (hr : Reachable b) {k : Nat} {c : SessionClose}
    (hk : b.closes[k]? = some c) : b.SparesOthers (b.step (.turn (.close k))) c.session := by
  have other : Action.turn (.close k) ≠ .turn .loop := nofun
  have loop : (b.step (.turn (.close k))).loop = b.loop :=
    (View.Aside.of_meanwhile (beside_step hr.sound.devicesFit other).view).loop
  rcases b.step_turn (.close k) with turns | stays
  · have turns : b.step (.turn (.close k)) = b.resumeClose k := turns
    rw [turns] at loop ⊢
    exact ⟨fun j _ => by rw [loop], fun j hj => (hr.bonds_of_close hk hj).1,
      fun j t hj ht => hr.devices_of_close hk hj ht,
      fun j t h hj => (hr.bonds_of_close hk hj).2 t h⟩
  · exact stays.symm ▸ .refl b c.session

theorem Reachable.spares_of_release (hr : Reachable b) {s : Session}
    (hs : b.sessions[i]? = some s) : b.SparesOthers (b.step (.turn (.release s.device))) i := by
  rcases b.step_turn (.release s.device) with turns | stays
  · rw [turns]
    exact ⟨fun _ _ => Iff.rfl, fun _ _ => rfl,
      fun j t hj ht => Hardware.getElem?_resumeRelease_ne (hr.device_ne hj hs ht),
      fun _ _ _ _ _ _ => rfl⟩
  · exact stays.symm ▸ .refl b i

theorem Reachable.spares_of_partOfClose (hr : Reachable b) {a : Action} (part : b.PartOfClose i a) :
    b.SparesOthers (b.step a) i := by
  cases part with
  | service more => exact hr.spares_of_service more
  | wait stage =>
    rcases b.step_turn .loop with turns | stays
    · exact turns.symm ▸ spares_of_wait stage
    · exact stays.symm ▸ .refl b i
  | close hk session => exact session ▸ hr.spares_of_close hk
  | release hs => exact hr.spares_of_release hs

/-- In every run closes come first, are never lost and concern their own session alone. While one
is pending, nothing is done about opens and close-alls, and they keep waiting with their handles.
Closes are serviced in the order of arrival, and each is serviced or waits unless a crash of the
opener has lost it. Servicing one takes its session out of the active set, and no other one; the
loop goes on when the session's device is gone. All that is done for it spares every other
session. -/
theorem close_requests (hr : Reachable b) :
    (∀ a, b.ClosePending →
      (∃ new, (b.step a).hw.milestones = new ++ b.hw.milestones ∧
        ∀ e ∈ new, e.isOutranked = false) ∧
      b.waiting.filter (fun r => r.isClose = false) <+:
        (b.step a).waiting.filter (fun r => r.isClose = false) ∧
      (b.step a).sessions.length = b.sessions.length ∧
      ∀ h, b.Waits h → a ≠ .disconnect h → (b.step a).Waits h) ∧
    (∃ lost, (b.loop.stage ≠ .crashed → lost = []) ∧
      b.acceptedRequests.filter (fun r => r.isClose = true) =
        b.servicedRequests.filter (fun r => r.isClose = true) ++
          b.waiting.filter (fun r => r.isClose = true) ++ lost) ∧
    (∀ a i, b.servicedRequests.count (.close i) < (b.step a).servicedRequests.count (.close i) →
      b.ServicesClose (b.step a) i) ∧
    (∀ a i, b.PartOfClose i a → b.SparesOthers (b.step a) i) := by
  refine ⟨fun a pending => ?_, ?_, fun a i more => hr.servicesClose more,
    fun a i part => hr.spares_of_partOfClose part⟩
  · have holds := hr.holdsBack pending a
    refine ⟨holds.told, holds.waiting, ?_, fun h waits other =>
      hr.waits_of_closePending pending waits other⟩
    simpa [view] using congrArg List.length holds.faces
  · obtain ⟨lost, alive, parts⟩ := hr.accounted
    rw [view_accepted, view_servicedRequests, view_waiting] at parts
    exact ⟨lost.filter fun r => r.isClose = true, fun live => by rw [alive live]; rfl, parts true⟩

/-- The window of an idle timer goes by while an open of another camera waits. -/
def overtaken : Broker :=
  byHand [.turn .loop, .open front true, .turn .loop, .turn .loop, .turn .loop, .disconnect 0,
    .elapse 1000, .open back true, .turn (.countdown 0 3)]

theorem close_requests_overtaken : overtaken.waiting = [.open 1 true, .close 0] ∧
    overtaken.ServicesClose (overtaken.step (.turn .loop)) 0 ∧
    (overtaken.step (.turn .loop)).Waits 1 := by
  have hr : Reachable overtaken := .byHand _
  have pending : overtaken.ClosePending := ⟨0, .inr (by decide)⟩
  have waits : overtaken.Waits 1 := ⟨{ camera := back }, by decide, rfl⟩
  obtain ⟨held, -, services, -⟩ := close_requests hr
  exact ⟨by decide, services _ 0 (by decide), (held (.turn .loop) pending).2.2.2 1 waits nofun⟩

end Broker

end CameraBroker
