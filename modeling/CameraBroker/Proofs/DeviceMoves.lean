import CameraBroker.Proofs.Run
import CameraBroker.Proofs.View

/-! How devices change: one at a time, a simulated one only forward, and with a line in the
device log exactly when it comes up or goes down. -/
namespace CameraBroker

namespace Device

/-- A simulated device that is open or on its way down. -/
def isUp (x : Device) : Bool :=
  !x.isManual && (x.stream.state = .open || x.stream.state = .closing)

/-- Only a simulated device that is going down or is down has a release. -/
def ReleaseFits (x : Device) : Prop :=
  x.release ≠ .none → x.isManual = false ∧ x.stream.state.isTearingDown = true

def opened (x : Device) : Device := { x with stream := x.stream.publish .open }

/-- The lines that a change makes in the device log, latest first. -/
def logLines (x y : Device) : List Event :=
  if x.isUp && !y.isUp then [.logClosed x.camera]
  else if !x.isUp && y.isUp then [.logOpened x.camera]
  else []

theorem eq_of_mem_logLines {x y : Device} {e : Event} (h : e ∈ x.logLines y) :
    e = .logClosed x.camera ∨ e = .logOpened x.camera := by
  unfold logLines at h
  split at h
  · exact .inl (List.mem_singleton.1 h)
  · split at h
    · exact .inr (List.mem_singleton.1 h)
    · cases h

/-- A later state of a device. A simulated one is opened by the loop only, and its stream changes
with every publication. -/
structure Becomes (x y : Device) : Prop where
  camera : y.camera = x.camera
  make : y.make = x.make
  live : y.stream.live = true → x.stream.live = true
  state : x.isManual = false → y.stream.state = x.stream.state ∨
    x.stream.state = .open ∧ y.stream.state = .closing ∨ y.stream.state = .closed
  news : x.isManual = false → y.stream = x.stream ∨ x.stream.version < y.stream.version
  release : x.ReleaseFits → y.ReleaseFits

theorem Becomes.refl (x : Device) : x.Becomes x :=
  ⟨rfl, rfl, id, fun _ => .inl rfl, fun _ => .inl rfl, id⟩

theorem Becomes.isManual {x y : Device} (h : x.Becomes y) : y.isManual = x.isManual := by
  simp [Device.isManual, h.make]

theorem Becomes.trans {x y z : Device} (h : x.Becomes y) (k : y.Becomes z) : x.Becomes z := by
  refine ⟨k.camera.trans h.camera, k.make.trans h.make, h.live ∘ k.live, fun hx => ?_,
    fun hx => ?_, k.release ∘ h.release⟩
  · rcases k.state (h.isManual.trans hx) with same | ⟨opened, closing⟩ | closed
    · rw [same]
      exact h.state hx
    · rcases h.state hx with same | ⟨-, gone⟩ | gone
      · exact .inr (.inl ⟨same ▸ opened, closing⟩)
      · rw [gone] at opened
        cases opened
      · rw [gone] at opened
        cases opened
    · exact .inr (.inr closed)
  · rcases k.news (h.isManual.trans hx) with same | later
    · rw [same]
      exact h.news hx
    · rcases h.news hx with same | before
      · exact .inr (same ▸ later)
      · exact .inr (Nat.lt_trans before later)

/-- A simulated device never goes back. -/
theorem Becomes.forward {x y : Device} (h : x.Becomes y) (hx : x.isManual = false) :
    x.stream.state.rank ≤ y.stream.state.rank := by
  rcases h.state hx with same | ⟨opened, closing⟩ | closed
  · exact Nat.le_of_eq (by rw [same])
  · rw [opened, closing]
    decide
  · rw [closed]
    cases x.stream.state <;> decide

@[simp] theorem isManual_setStream (x : Device) (s : Stream) :
    { x with stream := s }.isManual = x.isManual := rfl

theorem logLines_of_isUp_eq {x y : Device} (h : y.isUp = x.isUp) : x.logLines y = [] := by
  cases hx : x.isUp <;> simp [logLines, h, hx]

end Device

theorem DeviceState.eq_closing_of_canAdvanceTo_closed {s : DeviceState}
    (h : s.canAdvanceTo .closed = true) (ht : s.isTearingDown = true) : s = .closing := by
  cases s <;> simp_all [canAdvanceTo, rank, isTearingDown]

/-- A simulated device is closed, or begins to close. -/
theorem Device.Becomes.publish {x : Device} (hx : x.isManual = false) {state : DeviceState}
    (h : x.stream.state = .open ∧ state = .closing ∨ state = .closed) :
    x.Becomes { x with stream := x.stream.publish state } := by
  refine ⟨rfl, rfl, id, fun _ => .inr h, fun _ => .inr (Nat.lt_succ_self _), fun _ _ => ⟨hx, ?_⟩⟩
  rcases h with ⟨-, rfl⟩ | rfl <;> rfl

def Event.isDeviceNews : Event → Bool
  | .simulatedOpen _ => true
  | .simulatedReleased _ => true
  | .unplugged _ => true
  | .logOpened _ => true
  | .logClosed _ => true
  | .logCloseCall _ => true
  | _ => false

namespace Hardware

inductive Move (w w' : Hardware) : Prop where
  | silent (devices : w'.devices = w.devices) (milestones : w'.milestones = w.milestones)
  | device {d : DeviceId} {x y : Device} (hx : w.devices[d]? = some x) (xy : x.Becomes y)
      (devices : w'.devices = w.devices.set d y)
      (milestones : w'.milestones = x.logLines y ++ w.milestones)

abbrev Moves : Hardware → Hardware → Prop := Relation.ReflTransGen Move

section
variable {w : Hardware} {d : DeviceId} {x : Device}

theorem milestones_emit (e : Event) :
    (w.emit e).milestones = if e.isMilestone then e :: w.milestones else w.milestones := by
  cases h : e.isMilestone <;> simp [emit, milestones, h]

theorem Move.emit {e : Event} (he : e.isMilestone = false) : w.Move (w.emit e) :=
  .silent rfl (by simp [milestones_emit, he])

theorem devices_onDevice (hx : w.devices[d]? = some x) (f : Device → Device) :
    (w.onDevice d f).devices = w.devices.set d (f x) := by
  obtain ⟨hd, rfl⟩ := List.getElem?_eq_some_iff.1 hx
  apply List.ext_getElem?
  intro i
  by_cases hi : d = i
  · subst hi
    simp [onDevice, hd]
  · simp [onDevice, hi]

/-- A change of one device that no line of the log goes with. -/
theorem Move.onDevice (hx : w.devices[d]? = some x) {f : Device → Device} (xy : x.Becomes (f x))
    (up : (f x).isUp = x.isUp) : w.Move (w.onDevice d f) :=
  .device hx xy (devices_onDevice hx f) (by rw [Device.logLines_of_isUp_eq up]; rfl)

theorem advance?_eq (hx : w.devices[d]? = some x) (state : DeviceState) :
    w.advance? d state = if x.stream.state.canAdvanceTo state
      then some (x, w.onStream d fun _ => x.stream.publish state) else none := by
  unfold advance? Stream.advance?
  by_cases h : x.stream.state.canAdvanceTo state = true <;> simp [hx, h]

/-- A device that moves on leaves the history as it is. -/
theorem history_of_advance {w' : Hardware} {state : DeviceState} {y : Device}
    (advanced : w.advance? d state = some (y, w')) : w'.history = w.history := by
  cases hx : w.devices[d]? with
  | none => simp [advance?, hx] at advanced
  | some x =>
    rw [advance?_eq hx] at advanced
    split at advanced
    · cases advanced
      rfl
    · cases advanced

/-- A simulated device goes down without a line in the log. -/
theorem Move.publish (hx : w.devices[d]? = some x) (hm : x.isManual = false) {state : DeviceState}
    (hs : x.stream.state = .open ∧ state = .closing ∨ state = .closed)
    (up : { x with stream := x.stream.publish state }.isUp = x.isUp) :
    w.Move (w.onStream d fun _ => x.stream.publish state) :=
  .onDevice (f := fun y => { y with stream := x.stream.publish state }) hx (.publish hm hs) up

theorem Move.setRelease (hx : w.devices[d]? = some x) {r : Release}
    (hr : { x with release := r }.ReleaseFits) :
    w.Move (w.onDevice d fun y => { y with release := r }) :=
  .onDevice (f := fun y => { y with release := r }) hx
    ⟨rfl, rfl, id, fun _ => .inl rfl, fun _ => .inl rfl, fun _ => hr⟩ rfl

/-- The device of a stream that was changed. -/
theorem getElem?_onStream (hx : w.devices[d]? = some x) (f : Stream → Stream) :
    (w.onStream d f).devices[d]? = some { x with stream := f x.stream } := by
  simp [onStream, onDevice, hx]

theorem Moves.finishRelease (hx : w.devices[d]? = some x) (hr : x.ReleaseFits)
    (hne : x.release ≠ .none) : w.Moves (w.finishRelease d) := by
  obtain ⟨hm, ht⟩ := hr hne
  unfold Hardware.finishRelease
  dsimp only
  rw [advance?_eq hx]
  by_cases hs : x.stream.state.canAdvanceTo .closed = true
  · have hc := DeviceState.eq_closing_of_canAdvanceTo_closed hs ht
    have closed : { x with stream := x.stream.publish .closed }.isUp = false := by
      simp [Device.isUp, Stream.publish]
    have up : x.isUp = true := by simp [Device.isUp, hm, hc]
    have first : w.Move (((w.onStream d fun _ => x.stream.publish .closed).recordRelease
        x.camera).emit (.simulatedReleased x.camera)) :=
      .device hx (.publish hm (.inr rfl)) (devices_onDevice hx _)
        (by rw [milestones_emit, Device.logLines, closed, up]; rfl)
    have after : (((w.onStream d fun _ => x.stream.publish .closed).recordRelease
        x.camera).emit (.simulatedReleased x.camera)).devices[d]? =
          some { x with stream := x.stream.publish .closed } :=
      getElem?_onStream hx fun _ => x.stream.publish .closed
    rw [if_pos hs]
    exact .tail (.single first) (.setRelease after fun _ => ⟨hm, rfl⟩)
  · rw [if_neg hs]
    exact .single (.setRelease hx fun _ => ⟨hm, ht⟩)

theorem Moves.resumeRelease (hx : w.devices[d]? = some x) (hr : x.ReleaseFits)
    (hne : x.release ≠ .none) : w.Moves (w.resumeRelease d) := by
  unfold Hardware.resumeRelease
  split
  · exact .single (.setRelease hx fun _ => hr hne)
  · exact .finishRelease hx hr hne

/-- A device driven by hand publishes what it likes. -/
theorem Move.onManual (hx : w.devices[d]? = some x) (hm : x.isManual = true)
    {f : Stream → Stream} (hl : (f x.stream).live = true → x.stream.live = true) :
    w.Move (w.onStream d f) := by
  refine .onDevice (f := fun y => { y with stream := f y.stream }) hx
    ⟨rfl, rfl, hl, fun h => ?_, fun h => ?_, fun hr hne => ?_⟩ (by simp [Device.isUp, hm])
  · rw [hm] at h
    cases h
  · rw [hm] at h
    cases h
  · have h := (hr hne).1
    rw [hm] at h
    cases h

/-- A simulated device that is asked to close has been open. -/
theorem Moves.closeDevice
    (opened : ∀ x, w.devices[d]? = some x → x.isManual = false →
      DeviceState.open.rank ≤ x.stream.state.rank) :
    w.Moves (w.closeDevice d).2 := by
  unfold Hardware.closeDevice
  split
  · exact .refl
  · rename_i x hx
    split
    · rename_i latency hmake
      have hm : x.isManual = false := by simp [Device.isManual, hmake]
      rw [advance?_eq hx]
      by_cases hs : x.stream.state.canAdvanceTo .closing = true
      · have hopen : x.stream.state = .open := by
          have h := opened x hx hm
          cases he : x.stream.state <;> simp_all [DeviceState.canAdvanceTo, DeviceState.rank]
        have first : w.Move (w.onStream d fun _ => x.stream.publish .closing) :=
          .publish hx hm (.inl ⟨hopen, rfl⟩) (by simp [Device.isUp, hopen, Stream.publish])
        rw [if_pos hs]
        exact .tail (.single first) (.setRelease (getElem?_onStream hx _) fun _ => ⟨hm, rfl⟩)
      · rw [if_neg hs]
    · rename_i onClose hmake
      have hm : x.isManual = true := by simp [Device.isManual, hmake]
      have asked : w.Moves (w.emit (.logCloseCall d)) := .single (.emit rfl)
      have hx' : (w.emit (.logCloseCall d)).devices[d]? = some x := hx
      dsimp only
      split
      · cases onClose with
        | closed => exact asked.tail (.onManual hx' hm id)
        | closing => exact asked.tail (.onManual hx' hm id)
        | ignore => exact asked
      · exact asked

theorem Moves.yank {c : CameraId} (hx : w.devices[d]? = some x) (hm : x.isManual = false)
    (hc : x.camera = c) : w.Moves (w.yank c d).2 := by
  subst hc
  unfold Hardware.yank
  rw [hx]
  dsimp only
  by_cases hs : x.stream.state.canAdvanceTo .closing = true
  · have closed : { x with stream := x.stream.publish .closed }.isUp = false := by
      simp [Device.isUp, Stream.publish]
    have published : (w.onStream d (·.publish .closed)).devices =
        w.devices.set d { x with stream := x.stream.publish .closed } :=
      devices_onDevice (f := fun y => { y with stream := y.stream.publish .closed }) hx
    rw [if_pos hs]
    by_cases hopen : x.stream.state = .open
    · have up : x.isUp = true := by simp [Device.isUp, hm, hopen]
      rw [if_pos hopen]
      exact .single (.device hx (.publish hm (.inr rfl)) published
        (by rw [Device.logLines, closed, up]; rfl))
    · have down : x.isUp = false := by
        cases he : x.stream.state <;>
          simp_all [Device.isUp, DeviceState.canAdvanceTo, DeviceState.rank]
      rw [if_neg hopen]
      exact .single (.device hx (.publish hm (.inr rfl)) published
        (by rw [Device.logLines, closed, down]; rfl))
  · rw [if_neg hs]

theorem mem_devicesOf {c : CameraId} {held : DeviceId → Bool} (h : d ∈ w.devicesOf c held) :
    ∃ x, w.devices[d]? = some x ∧ x.isManual = false ∧ x.camera = c := by
  simp only [devicesOf, List.mem_filter] at h
  obtain ⟨-, h⟩ := h
  split at h
  · cases h
  · rename_i x hx
    split at h
    · cases h
    · rename_i hmake
      exact ⟨x, hx, by simp [Device.isManual, hmake], by simp_all⟩

end

/-- Along moves a device stays what it is. -/
theorem Moves.becomes {w w' : Hardware} (h : w.Moves w') {d : DeviceId} {x : Device}
    (hx : w.devices[d]? = some x) : ∃ y, w'.devices[d]? = some y ∧ x.Becomes y := by
  induction h with
  | refl => exact ⟨x, hx, .refl x⟩
  | tail _ move ih =>
    obtain ⟨y, hy, xy⟩ := ih
    cases move with
    | silent devices => exact ⟨y, by rw [devices, hy], xy⟩
    | @device e z z' hz zz' devices =>
      obtain ⟨he, -⟩ := List.getElem?_eq_some_iff.1 hz
      by_cases hde : e = d
      · subst hde
        obtain rfl : y = z := Option.some.inj (hy.symm.trans hz)
        exact ⟨z', by simp [devices, he], xy.trans zz'⟩
      · exact ⟨y, by rw [devices, List.getElem?_set_ne hde, hy], xy⟩

theorem Moves.unplug (c : CameraId) (held : DeviceId → Bool) (w : Hardware) :
    w.Moves (w.unplug c held).2 := by
  unfold Hardware.unplug
  split
  · exact .refl
  · refine List.foldlRecOn (motive := fun r : Bool × Hardware => w.Moves r.2) _ _ .refl ?_
    intro r hr d hd
    obtain ⟨x, hx, hm, hc⟩ := mem_devicesOf hd
    obtain ⟨y, hy, xy⟩ := hr.becomes hx
    exact hr.trans (Moves.yank hy (xy.isManual.trans hm) (xy.camera.trans hc))

/-- An attempt to open a camera is counted. It fails at once, or a device begins to open. -/
theorem beginOpen_cases (c : CameraId) (w : Hardware) :
    ∃ attempts, w.countAttempt c = { w with attempts } ∧
      ((∃ e cameras, w.beginOpen c = (.error e, { w with attempts, cameras })) ∨
        w.beginOpen c = (.ok (w.devices.length, w.now + w.openLatency), { w with
          attempts, devices := w.devices ++
            [{ camera := c, make := .simulated w.closeLatency, stream := ⟨.opening, 0, true⟩ }] })) := by
  obtain ⟨attempts, counted⟩ : ∃ attempts, w.countAttempt c = { w with attempts } := by
    unfold countAttempt
    split <;> exact ⟨_, rfl⟩
  refine ⟨attempts, counted, ?_⟩
  unfold beginOpen
  rw [counted]
  dsimp only
  split
  · exact .inl ⟨_, _, rfl⟩
  · split
    · exact .inl ⟨_, _, rfl⟩
    · exact .inr rfl

/-- Devices and cameras change. The clock stands, no attempt to open a camera is counted, and nothing
is told but of devices. -/
structure Operates (w w' : Hardware) : Prop where
  now : w'.now = w.now
  attempts : w'.attempts = w.attempts
  told : ∃ new, w'.history = new ++ w.history ∧ ∀ e ∈ new, e.isDeviceNews = true

namespace Operates
variable {w w' : Hardware} {d : DeviceId}

theorem of_eq (now : w'.now = w.now) (attempts : w'.attempts = w.attempts)
    (history : w'.history = w.history) : w.Operates w' :=
  ⟨now, attempts, [], history, by simp⟩

theorem refl (w : Hardware) : w.Operates w := of_eq rfl rfl rfl

theorem trans {u : Hardware} (h : w.Operates w') (k : w'.Operates u) : w.Operates u := by
  obtain ⟨first, same, news⟩ := h.told
  obtain ⟨second, same', news'⟩ := k.told
  refine ⟨k.now.trans h.now, k.attempts.trans h.attempts, second ++ first, ?_, fun e he => ?_⟩
  · rw [same', same, List.append_assoc]
  · exact (List.mem_append.1 he).elim (news' e) (news e)

theorem emit {e : Event} (news : e.isDeviceNews = true) (w : Hardware) : w.Operates (w.emit e) :=
  ⟨rfl, rfl, [e], rfl, by simpa using news⟩

/-- The history shows the same to whoever does not look at devices. -/
theorem filterMap {α : Type} (h : w.Operates w') {f : Event → Option α}
    (blind : ∀ e, e.isDeviceNews = true → f e = none) :
    w'.history.filterMap f = w.history.filterMap f := by
  obtain ⟨new, same, news⟩ := h.told
  have nothing : new.filterMap f = [] :=
    List.filterMap_eq_nil_iff.2 fun e he => blind e (news e he)
  rw [same, List.filterMap_append, nothing, List.nil_append]

theorem filter (h : w.Operates w') {f : Event → Bool}
    (blind : ∀ e, e.isDeviceNews = true → f e = false) :
    w'.history.filter f = w.history.filter f := by
  simpa using h.filterMap (f := Option.guard f) fun e news => by simp [blind e news]

theorem advance {state : DeviceState} {x : Device}
    (advanced : w.advance? d state = some (x, w')) : w.Operates w' := by
  unfold advance? at advanced
  split at advanced
  · cases advanced
  · obtain ⟨s, -, same⟩ := Option.map_eq_some_iff.1 advanced
    cases same
    exact of_eq rfl rfl rfl

theorem recordOpen (c : CameraId) (w : Hardware) : w.Operates (w.recordOpen c) :=
  ⟨rfl, rfl, [.logOpened c], rfl, by simp [Event.isDeviceNews]⟩

theorem recordRelease (c : CameraId) (w : Hardware) : w.Operates (w.recordRelease c) :=
  ⟨rfl, rfl, [.logClosed c], rfl, by simp [Event.isDeviceNews]⟩

theorem addCamera (c : CameraId) (w : Hardware) : w.Operates (w.addCamera c) := by
  unfold Hardware.addCamera
  split <;> exact of_eq rfl rfl rfl

theorem closeDevice (d : DeviceId) (w : Hardware) : w.Operates (w.closeDevice d).2 := by
  unfold Hardware.closeDevice
  split
  · exact refl w
  · split
    · split
      · exact refl w
      · rename_i advanced
        exact (advance advanced).trans (of_eq rfl rfl rfl)
    · rename_i onClose _
      have asked : w.Operates (w.emit (.logCloseCall d)) := emit rfl w
      dsimp only
      split
      · cases onClose with
        | closed => exact asked.trans (of_eq rfl rfl rfl)
        | closing => exact asked.trans (of_eq rfl rfl rfl)
        | ignore => exact asked
      · exact asked

theorem resumeRelease (d : DeviceId) (w : Hardware) : w.Operates (w.resumeRelease d) := by
  unfold Hardware.resumeRelease
  split
  · exact of_eq rfl rfl rfl
  · unfold Hardware.finishRelease
    dsimp only
    split
    · rename_i x w' advanced
      have recorded := (advance advanced).trans (recordRelease x.camera w')
      exact (recorded.trans (emit rfl _)).trans (of_eq rfl rfl rfl)
    · exact of_eq rfl rfl rfl

theorem yank (c : CameraId) (d : DeviceId) (w : Hardware) : w.Operates (w.yank c d).2 := by
  unfold Hardware.yank
  split
  · exact refl w
  · split
    · let published := w.onStream d (·.publish .closed)
      have told : w.Operates (published.emit (.unplugged c)) :=
        have yanked : w.Operates published := of_eq rfl rfl rfl
        yanked.trans (emit rfl published)
      dsimp only
      split
      · exact told.trans (recordRelease c _)
      · exact told
    · exact refl w

theorem unplug (c : CameraId) (held : DeviceId → Bool) (w : Hardware) :
    w.Operates (w.unplug c held).2 := by
  unfold Hardware.unplug
  split
  · exact refl w
  · exact List.foldlRecOn (motive := fun r : Bool × Hardware => w.Operates r.2) _ _ (refl w)
      fun r before d _ => before.trans (yank c d r.2)

theorem finishOpen (c : CameraId) (d : DeviceId) (w : Hardware) :
    w.Operates (w.finishOpen c d).2 := by
  unfold Hardware.finishOpen
  split
  · rename_i x w' advanced
    exact ((advance advanced).trans (recordOpen c w')).trans (emit rfl _)
  · exact refl w

end Operates

end Hardware

end CameraBroker
