import CameraBroker.Proofs.ClosingDevices
import CameraBroker.Proofs.IdleRelease

/-! No session is stranded. At rest every active session of a simulated camera is in use, or counts
down, or has asked the loop for its close, so that no wake-up is ever lost. -/
namespace CameraBroker

/-- What a bound handle knows of its device. It has seen no more than there is, nor the end, and it
is connected unless the device is going down. -/
structure Handle.Follows (x : Handle) (k : Binding) (y : Device) : Prop where
  seen : ∀ v, k.seen = some v →
    v ≤ y.stream.version ∧ (v = y.stream.version → y.stream.state ≠ .closed)
  state : x.state = .connected ∨ y.stream.state.isTearingDown = true

theorem Handle.Follows.ages {x : Handle} {k : Binding} {y z : Device} (h : x.Follows k y)
    (simulated : y.isManual = false) (ages : y.Ages z) : x.Follows k z := by
  refine ⟨fun v hv => ?_, h.state.imp id (ages.down simulated)⟩
  obtain ⟨le, unended⟩ := h.seen v hv
  rcases ages.news simulated with same | later
  · rw [same]
    exact ⟨le, unended⟩
  · have lt : v < z.stream.version := Nat.lt_of_le_of_lt le later
    exact ⟨Nat.le_of_lt lt, fun same => absurd same (Nat.ne_of_lt lt)⟩

namespace Broker
variable {b : Broker} {h : HandleId} {i : SessionId}

/-- The stream that is handed out shows the state of the device. -/
theorem device_of_stream? {d : DeviceId} {s : Stream} (hs : b.stream? d = some s) :
    ∃ y, b.hw.devices[d]? = some y ∧ s.state = y.stream.state ∧ s.version = y.stream.version := by
  obtain ⟨y, hy, rfl⟩ := Option.map_eq_some_iff.1 hs
  refine ⟨y, hy, ?_⟩
  split <;> exact ⟨rfl, rfl⟩

/-- A bound handle follows its device. -/
theorem Reachable.follows (hr : Reachable b) {x : Handle} {k : Binding}
    (hx : b.handles[h]? = some x) (hk : x.binding = some k) :
    ∃ y, b.hw.devices[k.device]? = some y ∧ (y.isManual = false → x.Follows k y) := by
  refine hr.handle_invariant (P := fun b x => ∀ k, x.binding = some k →
    ∃ y, b.hw.devices[k.device]? = some y ∧ (y.isManual = false → x.Follows k y))
    (fun b x unbound _ k hk => ?_) (fun b a h x x' hb hx _ hp touched k' hk' => ?_) h x hx k hk
  · cases unbound.symm.trans hk
  -- Most steps leave a handle that is bound as it was, and its device goes on.
  have goesOn : ∀ y, b.hw.devices[k'.device]? = some y → (y.isManual = false → x'.Follows k' y) →
      ∃ z, (b.step a).hw.devices[k'.device]? = some z ∧
        (z.isManual = false → x'.Follows k' z) := by
    intro y hy follows
    obtain ⟨z, hz, passes⟩ := hb.device_step hy a
    refine ⟨z, hz, fun simulated => ?_⟩
    have simulated := passes.ages.isManual.symm.trans simulated
    exact (follows simulated).ages simulated passes.ages
  have kept : x.binding = some k' → x'.state = x.state →
      ∃ z, (b.step a).hw.devices[k'.device]? = some z ∧
        (z.isManual = false → x'.Follows k' z) := by
    intro hk state
    obtain ⟨y, hy, follows⟩ := hp k' hk
    exact goesOn y hy fun simulated => ⟨(follows simulated).seen, state ▸ (follows simulated).state⟩
  have unfailed : ∀ reason, (x.failed reason).binding = some k' → x.failed reason = x := by
    intro reason bound
    refine Handle.failed_of_answered (fun waits => ?_) reason
    rw [x.binding_failed, (hb.fits h x hx).free waits] at bound
    cases bound
  cases touched with
  | leave same => exact kept (same.binding.symm.trans hk') same.state
  | disconnect why => cases hk'
  | fail reason served =>
    have same := unfailed reason hk'
    exact kept (same ▸ hk') (congrArg Handle.state same)
  | supersede served mem =>
    have same := unfailed .superseded hk'
    exact kept (same ▸ hk') (congrArg Handle.state same)
  | @observe k s hk hs =>
    rcases Handle.observe_cases hk s with ⟨-, unbound, -⟩ | ⟨alive, bound, state⟩
    · cases unbound.symm.trans hk'
    obtain rfl : { k with seen := some s.version } = k' := Option.some.inj (bound.symm.trans hk')
    obtain ⟨y, hy, follows⟩ := hp k hk
    obtain ⟨y', hy', sees, version⟩ := device_of_stream? hs
    obtain rfl : y = y' := Option.some.inj (hy.symm.trans hy')
    refine goesOn y hy fun simulated => ⟨fun v hv => ?_, ?_⟩
    · obtain rfl : s.version = v := Option.some.inj hv
      refine ⟨Nat.le_of_eq version, fun _ closed => ?_⟩
      have gone : s.isGone = true := by simp [Stream.isGone, sees, closed]
      cases gone.symm.trans alive
    · rcases state with same | ⟨closing, -⟩
      · exact same ▸ (follows simulated).state
      · right
        rw [← sees, closing]
        rfl
  | @attach share i s token served noClose noCloseAll active hs waits timer =>
    cases hk'
    obtain ⟨y, hy, -⟩ := hb.sound.faces s.face (List.mem_map_of_mem (List.mem_of_getElem? hs))
    refine goesOn y hy fun _ => ⟨fun v hv => ?_, .inl rfl⟩
    cases hv

/-! At rest. -/

/-- Every observer has seen what there is. -/
theorem seen_of_rest (rest : b.readyTasks = []) {x : Handle} {k : Binding} {s : Stream}
    (hx : b.handles[h]? = some x) (hk : x.binding = some k) (hs : b.stream? k.device = some s) :
    k.seen = some s.version := by
  by_contra news
  obtain ⟨there, -⟩ := List.getElem?_eq_some_iff.1 hx
  have observes : h ∈ b.readyObservers :=
    List.mem_filter.2 ⟨List.mem_range.2 there,
      by simp [hx, hk, hs, Handle.canObserve, Stream.hasNews, news]⟩
  have ready : .observe h ∈ b.readyTasks := by simp [readyTasks, observes]
  rw [rest] at ready
  cases ready

/-- Every countdown still sleeps. -/
theorem asleep_of_rest (rest : b.readyTasks = []) {s : Session} (hs : b.sessions[i]? = some s)
    {c : Countdown} (hc : c ∈ s.timer.countdowns) : b.now < c.due := by
  by_contra due
  obtain ⟨there, -⟩ := List.getElem?_eq_some_iff.1 hs
  have wakes : c.generation ∈ s.timer.due b.now :=
    List.mem_map_of_mem (List.mem_filter.2 ⟨hc, decide_eq_true (Nat.not_lt.1 due)⟩)
  have counts : (i, c.generation) ∈ b.readyCountdowns :=
    List.mem_flatMap.2 ⟨i, List.mem_range.2 there, by simpa [hs] using wakes⟩
  have ready : .countdown i c.generation ∈ b.readyTasks := by
    simp [readyTasks, counts]
  rw [rest] at ready
  cases ready

/-- A handle that is bound to a simulated device is connected, unless its session is being closed. -/
theorem Reachable.connected_of_bound (hr : Reachable b) (rest : b.readyTasks = [])
    (simulated : ∀ y ∈ b.hw.devices, y.isManual = false) {x : Handle} {k : Binding} {s : Session}
    (hx : b.handles[h]? = some x) (hk : x.binding = some k) (hs : b.sessions[i]? = some s)
    (device : k.device = s.device) (unclosed : s.closing = false) : x.state = .connected := by
  obtain ⟨y, hy, follows⟩ := hr.follows hx hk
  have own := simulated y (List.mem_of_getElem? hy)
  obtain ⟨seen, state⟩ := follows own
  refine state.resolve_right fun down => ?_
  cases ends : y.stream.state with
  | closing =>
    have closes : ClosesDown b.hw s.device := ⟨y, device ▸ hy, own, ends⟩
    cases (hr.closing_of_closesDown hs closes).symm.trans unclosed
  | closed =>
    obtain ⟨st, hst⟩ : ∃ st, b.stream? k.device = some st := by simp [stream?, hy]
    obtain ⟨y', hy', -, version⟩ := device_of_stream? hst
    obtain rfl : y = y' := Option.some.inj (hy.symm.trans hy')
    exact (seen st.version (seen_of_rest rest hx hk hst)).2 version ends
  | _ =>
    rw [ends] at down
    cases down

/-- What there is to be said for a session that is still active. -/
inductive Minded (b : Broker) (i : SessionId) (s : Session) : Prop where
  /-- Its handle is connected and keeps a token. -/
  | used {h : HandleId} {x : Handle} (current : s.current = some h)
      (hx : b.handles[h]? = some x) (connected : x.state = .connected)
      (token : x.token? = some i)
  /-- No handle keeps a token, and the countdown that counts is under way. -/
  | idle {c : Countdown} (free : ∀ x ∈ b.handles, x.token? ≠ some i) (tokens : s.timer.tokens = 0)
      (live : s.timer.released = false) (sleeps : c ∈ s.timer.countdowns)
      (counts : c.generation = s.timer.generation) (ahead : b.now < c.due)
  /-- The loop has been asked for its close. -/
  | asked (waits : .close i ∈ b.waiting)

theorem Reachable.minded (hr : Reachable b) (client : b.hasClient = true)
    (rest : b.readyTasks = []) (simulated : ∀ y ∈ b.hw.devices, y.isManual = false)
    (active : i ∈ b.loop.active) {s : Session} (hs : b.sessions[i]? = some s) :
    b.Minded i s := by
  cases released : s.timer.released with
  | true => exact .asked (hr.asked_of_released client active hs released)
  | false =>
    by_cases free : ∀ x ∈ b.handles, x.token? ≠ some i
    · have none : s.timer.tokens = 0 := by
        rw [hr.tokens hs]
        exact List.countP_eq_zero.2 fun x hx => by simpa using free x hx
      obtain ⟨c, sleeps, counts⟩ := (hr.sane i s hs).armed released none
      exact .idle free none released sleeps counts (asleep_of_rest rest hs sleeps)
    · obtain ⟨x, mem, token⟩ : ∃ x ∈ b.handles, x.token? = some i := by simpa using free
      obtain ⟨h, hx⟩ := List.mem_iff_getElem?.1 mem
      obtain ⟨k, hk, own⟩ := Option.bind_eq_some_iff.1 token
      obtain ⟨j, t, ht, current, device, held⟩ := hr.held hx hk
      obtain rfl : i = j := by
        rcases held with none | same
        · cases own.symm.trans none
        · exact Option.some.inj (own.symm.trans same)
      obtain rfl : s = t := Option.some.inj (hs.symm.trans ht)
      have unclosed : s.closing = false := hr.unclosed i active s.tie (by simp [view, hs])
      exact .used current hx
        (hr.connected_of_bound rest simulated hx hk hs device unclosed) token

/-- Where simulated cameras are opened with retries, every session that is active at rest has a
connected handle that keeps a token, or keeps counting down without one, or its close waits, as long
as the client's end of the inbox is there. -/
theorem no_stranded {s : Setup} {actions : List Action} (retries : ∃ p, s.opener = .retrying p)
    (client : (s.broker.run actions).hasClient = true)
    (rest : (s.broker.run actions).readyTasks = []) :
    ∀ i ∈ (s.broker.run actions).loop.active, ∃ x,
      (s.broker.run actions).sessions[i]? = some x ∧ (s.broker.run actions).Minded i x := by
  intro i active
  have hr : Reachable (s.broker.run actions) := (Reachable.start s).run actions
  have there : i < (s.broker.run actions).sessions.length := by
    simpa [view] using hr.sound.active i active
  have simulated := simulated_of_retrying retries actions
  exact ⟨_, List.getElem?_eq_getElem there,
    hr.minded client rest simulated active (List.getElem?_eq_getElem there)⟩

def twoCameras : Setup := { cameras := ["front", "back"] }

/-- A camera is unplugged while the loop opens another one, and its session cannot ask for its close
since the inbox is full. -/
def unheard : List Action :=
  [.turn .loop, .open front true, .turn .loop, .turn .loop, .turn .loop, .turn (.observe 0),
    .turn (.listen 0), .setLatency 5 0, .open back true, .turn .loop, .turn .loop] ++
  List.replicate inboxDepth .closeAll ++
  [.unplug front, .turn (.observe 0), .turn (.listen 0)]

theorem no_stranded_unheard :
    (twoCameras.broker.run unheard).loop.active = [0] ∧
      (twoCameras.broker.run unheard).inbox.buffer = List.replicate inboxDepth .closeAll ∧
      ∃ x, (twoCameras.broker.run unheard).sessions[0]? = some x ∧
        (twoCameras.broker.run unheard).Minded 0 x := by
  have client : (twoCameras.broker.run unheard).hasClient = true := by decide +kernel
  have rest : (twoCameras.broker.run unheard).readyTasks = [] := by decide +kernel
  have active : (twoCameras.broker.run unheard).loop.active = [0] := by decide +kernel
  have mem : 0 ∈ (twoCameras.broker.run unheard).loop.active := by
    rw [active]
    exact List.mem_singleton_self 0
  exact ⟨active, by decide +kernel, no_stranded ⟨_, rfl⟩ client rest 0 mem⟩

end Broker

end CameraBroker
