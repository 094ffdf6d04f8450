import CameraBroker.Proofs.DeviceLog

/-! The counts of simulated cameras. A device comes up once and goes down once at most, each time
with a line in the device log, and the counts of its camera follow the log: how many devices are
up, how many went down, and how many were up at the same time. -/
namespace CameraBroker

/-- What the counts `k` of a camera have to do with the device log, oldest line first. -/
structure Camera.Books (c : CameraId) (log : List Event) (k : Camera) : Prop where
  balance : log.count (.logOpened c) = log.count (.logClosed c) + k.openNow
  releases : k.releases = log.count (.logClosed c)
  covered : ∀ p, p <+: log → p.count (.logClosed c) ≤ p.count (.logOpened c) ∧
    p.count (.logOpened c) ≤ p.count (.logClosed c) + k.peak
  attained : ∃ p, p <+: log ∧ p.count (.logOpened c) = p.count (.logClosed c) + k.peak

namespace Camera.Books
variable {c : CameraId} {log : List Event} {k : Camera}

theorem nil (c : CameraId) : Books c [] {} := by
  refine ⟨rfl, rfl, fun p hp => ?_, ⟨[], List.prefix_refl _, rfl⟩⟩
  obtain rfl := List.prefix_nil.1 hp
  exact ⟨Nat.le_refl _, Nat.le_refl _⟩

/-- One line more. The counts that fit it cover every earlier line, too. -/
theorem concat {e : Event} {k' : Camera} (h : Books c log k)
    (balance : (log ++ [e]).count (.logOpened c) = (log ++ [e]).count (.logClosed c) + k'.openNow)
    (releases : k'.releases = (log ++ [e]).count (.logClosed c)) (room : k'.openNow ≤ k'.peak)
    (peak : k'.peak = k.peak ∨ k.peak ≤ k'.peak ∧ k'.peak = k'.openNow) :
    Books c (log ++ [e]) k' := by
  have grows : k.peak ≤ k'.peak := by
    rcases peak with same | ⟨more, -⟩
    · exact Nat.le_of_eq same.symm
    · exact more
  refine ⟨balance, releases, fun p hp => ?_, ?_⟩
  · rcases List.prefix_concat_iff.1 hp with rfl | hp
    · omega
    · obtain ⟨lower, upper⟩ := h.covered p hp
      omega
  · rcases peak with same | ⟨-, now⟩
    · obtain ⟨p, hp, attained⟩ := h.attained
      exact ⟨p, hp.trans (List.prefix_append _ _), same ▸ attained⟩
    · exact ⟨_, List.prefix_refl _, now ▸ balance⟩

theorem room (h : Books c log k) : k.openNow ≤ k.peak := by
  obtain ⟨-, upper⟩ := h.covered log (List.prefix_refl _)
  have balance := h.balance
  omega

theorem opened (h : Books c log k) : Books c (log ++ [.logOpened c])
    { k with openNow := k.openNow + 1, peak := max k.peak (k.openNow + 1) } := by
  have balance := h.balance
  refine h.concat ?_ ?_ (Nat.le_max_right _ _) ?_
  · simp only [List.count_append, List.count_singleton_self, ne_eq, reduceCtorEq,
      not_false_eq_true, List.count_cons_of_ne, List.count_nil]
    omega
  · simp [h.releases]
  · dsimp only
    omega

/-- While a device is up, its going down takes one away from what is open. -/
theorem closed (h : Books c log k) (up : 0 < k.openNow) : Books c (log ++ [.logClosed c])
    { k with openNow := k.openNow - 1, releases := k.releases + 1 } := by
  have balance := h.balance
  have room := h.room
  refine h.concat ?_ ?_ ?_ (.inl rfl)
  · simp only [List.count_append, List.count_singleton_self, ne_eq, reduceCtorEq,
      not_false_eq_true, List.count_cons_of_ne, List.count_nil]
    omega
  · simp [h.releases]
  · dsimp only
    omega

/-- A line about another camera. -/
theorem other {e : Event} (h : Books c log k) (opens : e ≠ .logOpened c) (closes : e ≠ .logClosed c) :
    Books c (log ++ [e]) k := by
  refine h.concat ?_ ?_ h.room (.inl rfl)
  · simpa [List.count_append, opens, closes] using h.balance
  · simpa [List.count_append, closes] using h.releases

end Camera.Books

namespace Device

/-- A later state of a simulated device, at most one publication later. -/
structure Advances (x y : Device) : Prop where
  camera : y.camera = x.camera
  make : y.make = x.make
  stream : y.stream = x.stream ∨ x.stream.state.rank < y.stream.state.rank ∧
    y.stream.version = x.stream.version + 1

theorem Advances.refl (x : Device) : x.Advances x := ⟨rfl, rfl, .inl rfl⟩

theorem Advances.isManual {x y : Device} (h : x.Advances y) : y.isManual = x.isManual := by
  simp [Device.isManual, h.make]

theorem Advances.publish {x : Device} {state : DeviceState}
    (forward : x.stream.state.canAdvanceTo state = true) :
    x.Advances { x with stream := x.stream.publish state } :=
  ⟨rfl, rfl, .inr ⟨by simpa [DeviceState.canAdvanceTo, Stream.publish] using forward, rfl⟩⟩

end Device

namespace Hardware

def deviceLog (w : Hardware) : List Event :=
  (w.history.filter fun e => e.deviceLine?.isSome).reverse

/-- What is counted of a camera. Nothing is counted of one that is not known. -/
def counts (w : Hardware) (c : CameraId) : Camera := { (w.camera? c).getD {} with busyOpens := 0 }

def linesOf (w w' : Hardware) (d : DeviceId) : List Event :=
  match w.devices[d]?, w'.devices[d]? with
  | some x, some y => x.logLines y
  | _, _ => []

inductive Shift (w w' : Hardware) : Prop where
  | silent (devices : w'.devices = w.devices) (log : w'.deviceLog = w.deviceLog)
      (known : ∀ c, (w.camera? c).isSome → (w'.camera? c).isSome)
      (counts : ∀ c, w'.counts c = w.counts c)
  | begins {x : Device} (devices : w'.devices = w.devices ++ [x]) (simulated : x.isManual = false)
      (opening : x.stream.state = .opening) (unreleased : x.release = .none)
      (there : (w.camera? x.camera).isSome) (log : w'.deviceLog = w.deviceLog)
      (cameras : w'.cameras = w.cameras)
  | moves {d : DeviceId} {x y : Device} (hx : w.devices[d]? = some x) (xy : x.Advances y)
      (release : y.ReleaseFits) (up : y.isUp = x.isUp) (devices : w'.devices = w.devices.set d y)
      (log : w'.deviceLog = w.deviceLog) (cameras : w'.cameras = w.cameras)
  | rises {d : DeviceId} {x y : Device} (hx : w.devices[d]? = some x) (xy : x.Advances y)
      (release : y.ReleaseFits) (down : x.isUp = false) (up : y.isUp = true)
      (devices : w'.devices = w.devices.set d y)
      (log : w'.deviceLog = w.deviceLog ++ [.logOpened x.camera])
      (cameras : w'.cameras = (w.recordOpen x.camera).cameras)
  | falls {d : DeviceId} {x y : Device} (hx : w.devices[d]? = some x) (xy : x.Advances y)
      (release : y.ReleaseFits) (up : x.isUp = true) (down : y.isUp = false)
      (devices : w'.devices = w.devices.set d y)
      (log : w'.deviceLog = w.deviceLog ++ [.logClosed x.camera])
      (cameras : w'.cameras = (w.recordRelease x.camera).cameras)

structure Accounts (w : Hardware) : Prop where
  simulated : ∀ x ∈ w.devices, x.isManual = false
  begun : ∀ x ∈ w.devices, x.stream.state ≠ .unopened
  release : ∀ x ∈ w.devices, x.ReleaseFits
  known : ∀ x ∈ w.devices, (w.camera? x.camera).isSome
  up : ∀ c, (w.counts c).openNow = w.devices.countP (·.isUpFor c)
  books : ∀ c, Camera.Books c w.deviceLog (w.counts c)

section Cameras
variable {w w' : Hardware}

theorem camera?_onCamera (w : Hardware) (c c' : CameraId) (f : Camera → Camera) :
    (w.onCamera c f).camera? c' = (w.camera? c').map fun x => if c' = c then f x else x := by
  unfold camera? onCamera
  dsimp only
  induction w.cameras with
  | nil => rfl
  | cons entry rest ih =>
    obtain ⟨key, k⟩ := entry
    by_cases own : c' = key
    · subst own
      by_cases same : c' = c <;> simp [same]
    · have other : (c' == key) = false := by simpa using own
      by_cases same : key = c
      · simp [List.lookup_cons, same ▸ other, same, ih]
      · simp [List.lookup_cons, other, same, ih]

theorem camera?_recordOpen (w : Hardware) (c c' : CameraId) :
    (w.recordOpen c).camera? c' = (w.camera? c').map fun x => if c' = c then
      { x with openNow := x.openNow + 1, peak := max x.peak (x.openNow + 1) } else x :=
  w.camera?_onCamera c c' fun x =>
    { x with openNow := x.openNow + 1, peak := max x.peak (x.openNow + 1) }

theorem camera?_recordRelease (w : Hardware) (c c' : CameraId) :
    (w.recordRelease c).camera? c' = (w.camera? c').map fun x => if c' = c then
      { x with openNow := x.openNow - 1, releases := x.releases + 1 } else x :=
  w.camera?_onCamera c c' fun x =>
    { x with openNow := x.openNow - 1, releases := x.releases + 1 }

theorem camera?_congr (cameras : w'.cameras = w.cameras) (c : CameraId) :
    w'.camera? c = w.camera? c := by
  unfold camera?
  rw [cameras]

theorem counts_congr (cameras : w'.cameras = w.cameras) (c : CameraId) :
    w'.counts c = w.counts c := by
  unfold counts
  rw [camera?_congr cameras]

theorem counts_recordOpen {c : CameraId} (known : (w.camera? c).isSome) (c' : CameraId) :
    (w.recordOpen c).counts c' = if c' = c then
      { w.counts c' with
        openNow := (w.counts c').openNow + 1
        peak := max (w.counts c').peak ((w.counts c').openNow + 1) }
      else w.counts c' := by
  obtain ⟨x, hx⟩ := Option.isSome_iff_exists.1 known
  unfold counts
  rw [camera?_recordOpen]
  by_cases own : c' = c
  · subst own
    simp [hx]
  · simp [own]

theorem counts_recordRelease {c : CameraId} (known : (w.camera? c).isSome) (c' : CameraId) :
    (w.recordRelease c).counts c' = if c' = c then
      { w.counts c' with
        openNow := (w.counts c').openNow - 1, releases := (w.counts c').releases + 1 }
      else w.counts c' := by
  obtain ⟨x, hx⟩ := Option.isSome_iff_exists.1 known
  unfold counts
  rw [camera?_recordRelease]
  by_cases own : c' = c
  · subst own
    simp [hx]
  · simp [own]

end Cameras

/-- What happens to all devices while `w` becomes `w'`: every device goes forward, those that are new
are opening, and the log has the lines of every device. -/
structure Course (w w' : Hardware) : Prop where
  lines : w'.deviceLog = w.deviceLog ++ (List.range w'.devices.length).flatMap (w.linesOf w')
  forward : ∀ (d : DeviceId) (x : Device), w.devices[d]? = some x →
    ∃ y, w'.devices[d]? = some y ∧ x.Advances y
  fresh : ∀ (d : DeviceId) (y : Device), w.devices[d]? = none → w'.devices[d]? = some y →
    y.stream.state = .opening

section Steps
variable {w w' : Hardware}

theorem flatMap_range_eq {α : Type} {f : Nat → List α} {d n : Nat} (hd : d < n)
    (others : ∀ i, i ≠ d → f i = []) : (List.range n).flatMap f = f d := by
  induction n with
  | zero => exact absurd hd (Nat.not_lt_zero _)
  | succ n ih =>
    rw [List.range_succ, List.flatMap_append, List.flatMap_singleton]
    by_cases last : d = n
    · subst last
      have none : (List.range d).flatMap f = [] := by
        rw [List.flatMap_eq_nil_iff]
        exact fun i hi => others i (Nat.ne_of_lt (List.mem_range.1 hi))
      rw [none, List.nil_append]
    · rw [ih (by omega), others n (Ne.symm last), List.append_nil]

theorem linesOf_eq_nil {d : DeviceId} (same : w'.devices[d]? = w.devices[d]?) :
    w.linesOf w' d = [] := by
  unfold linesOf
  rw [same]
  cases w.devices[d]? with
  | none => rfl
  | some x => exact Device.logLines_of_isUp_eq rfl

/-- The lines that one device makes. -/
theorem lines_set {d : DeviceId} {x y : Device} (hx : w.devices[d]? = some x)
    (devices : w'.devices = w.devices.set d y) :
    (List.range w'.devices.length).flatMap (w.linesOf w') = x.logLines y := by
  obtain ⟨hd, -⟩ := List.getElem?_eq_some_iff.1 hx
  have own : w.linesOf w' d = x.logLines y := by
    unfold linesOf
    rw [hx, devices, List.getElem?_set_self hd]
  rw [flatMap_range_eq (d := d) (by simpa [devices] using hd) fun i hi => ?_, own]
  exact linesOf_eq_nil (by rw [devices, List.getElem?_set_ne (Ne.symm hi)])

theorem Course.of_set {d : DeviceId} {x y : Device} (hx : w.devices[d]? = some x)
    (xy : x.Advances y) (devices : w'.devices = w.devices.set d y)
    (log : w'.deviceLog = w.deviceLog ++ x.logLines y) : w.Course w' := by
  obtain ⟨hd, -⟩ := List.getElem?_eq_some_iff.1 hx
  refine ⟨by rw [lines_set hx devices, log], fun e z hz => ?_, fun e z none hz => ?_⟩
  · by_cases own : d = e
    · subst own
      obtain rfl : x = z := Option.some.inj (hx.symm.trans hz)
      exact ⟨y, by rw [devices, List.getElem?_set_self hd], xy⟩
    · exact ⟨z, by rw [devices, List.getElem?_set_ne own, hz], .refl z⟩
  · have there : e < w.devices.length := by
      simpa [devices] using (List.getElem?_eq_some_iff.1 hz).1
    exact absurd there (Nat.not_lt.2 (List.getElem?_eq_none_iff.1 none))

/-- Every shift is a course. -/
theorem Shift.course (s : w.Shift w') : w.Course w' := by
  have lines : ∀ {x y : Device}, x.isUp = y.isUp → w.deviceLog = w.deviceLog ++ x.logLines y :=
    fun same => by rw [Device.logLines_of_isUp_eq same.symm, List.append_nil]
  cases s with
  | silent devices log =>
    refine ⟨?_, fun d x hx => ⟨x, by rw [devices, hx], .refl x⟩, fun d y none hy => ?_⟩
    · have none : (List.range w'.devices.length).flatMap (w.linesOf w') = [] := by
        rw [List.flatMap_eq_nil_iff]
        exact fun d _ => linesOf_eq_nil (by rw [devices])
      rw [none, log, List.append_nil]
    · rw [devices, none] at hy
      cases hy
  | @begins x devices simulated opening unreleased there log =>
    refine ⟨?_, fun d y hy => ?_, fun d y none hy => ?_⟩
    · have none : (List.range w'.devices.length).flatMap (w.linesOf w') = [] := by
        rw [List.flatMap_eq_nil_iff]
        intro d _
        by_cases old : d < w.devices.length
        · exact linesOf_eq_nil (by rw [devices, List.getElem?_append_left old])
        · unfold linesOf
          rw [List.getElem?_eq_none_iff.2 (Nat.not_lt.1 old)]
      rw [none, log, List.append_nil]
    · obtain ⟨hd, -⟩ := List.getElem?_eq_some_iff.1 hy
      exact ⟨y, by rw [devices, List.getElem?_append_left hd, hy], .refl y⟩
    · rw [devices, List.getElem?_append_right (List.getElem?_eq_none_iff.1 none)] at hy
      exact List.mem_singleton.1 (List.mem_of_getElem? hy) ▸ opening
  | moves hx xy release up devices log =>
    exact .of_set hx xy devices (log.trans (lines up.symm))
  | @rises d x y hx xy release down up devices log =>
    exact .of_set hx xy devices (by rw [log]; simp [Device.logLines, down, up])
  | @falls d x y hx xy release up down devices log =>
    exact .of_set hx xy devices (by rw [log]; simp [Device.logLines, down, up])

theorem Accounts.isSome_of_getElem? (h : w.Accounts) {d : DeviceId} {x : Device}
    (hx : w.devices[d]? = some x) : (w.camera? x.camera).isSome :=
  h.known x (List.mem_of_getElem? hx)

/-- One device changes, and the counts of its camera with it. -/
theorem Accounts.set (h : w.Accounts) {d : DeviceId} {x y : Device} (hx : w.devices[d]? = some x)
    (xy : x.Advances y) (release : y.ReleaseFits) (devices : w'.devices = w.devices.set d y)
    (known : ∀ c, (w.camera? c).isSome → (w'.camera? c).isSome)
    (up : ∀ c, (w'.counts c).openNow + (if x.isUpFor c then 1 else 0) =
      (w.counts c).openNow + if y.isUpFor c then 1 else 0)
    (books : ∀ c, Camera.Books c w'.deviceLog (w'.counts c)) : w'.Accounts := by
  have mem := List.mem_of_getElem? hx
  have each : ∀ {P : Device → Prop}, (∀ z ∈ w.devices, P z) → P y → ∀ z ∈ w'.devices, P z := by
    intro P old new z hz
    rw [devices] at hz
    rcases List.mem_or_eq_of_mem_set hz with there | rfl
    · exact old z there
    · exact new
  have begun : y.stream.state ≠ .unopened := by
    rcases xy.stream with same | ⟨forward, -⟩
    · rw [same]
      exact h.begun x mem
    · intro back
      rw [back] at forward
      exact absurd forward (Nat.not_lt_zero _)
  refine ⟨each h.simulated (xy.isManual.trans (h.simulated x mem)), each h.begun begun,
    each h.release release, fun z hz => known _ (each h.known ?_ z hz), fun c => ?_, books⟩
  · rw [xy.camera]
    exact h.known x mem
  · have count := countP_set_add (p := (·.isUpFor c)) hx y
    have before := h.up c
    have change := up c
    rw [devices]
    omega

/-- Every shift keeps the accounts. -/
theorem Shift.accounts (s : w.Shift w') (h : w.Accounts) : w'.Accounts := by
  cases s with
  | silent devices log known counts =>
    refine ⟨?_, ?_, ?_, fun x hx => ?_, fun c => ?_, fun c => ?_⟩
    · exact devices ▸ h.simulated
    · exact devices ▸ h.begun
    · exact devices ▸ h.release
    · exact known _ (h.known x (devices ▸ hx))
    · rw [counts, devices]
      exact h.up c
    · rw [counts, log]
      exact h.books c
  | @begins x devices simulated opening unreleased there log cameras =>
    have each : ∀ {P : Device → Prop}, (∀ z ∈ w.devices, P z) → P x → ∀ z ∈ w'.devices, P z := by
      intro P old new z hz
      rw [devices] at hz
      rcases List.mem_append.1 hz with there | here
      · exact old z there
      · exact List.mem_singleton.1 here ▸ new
    refine ⟨each h.simulated simulated, each h.begun (by simp [opening]),
      each h.release fun releases => absurd unreleased releases, fun z hz => ?_, fun c => ?_,
      fun c => ?_⟩
    · rw [camera?_congr cameras]
      exact each h.known there z hz
    · have down : [x].countP (·.isUpFor c) = 0 := by simp [Device.isUpFor, Device.isUp, opening]
      rw [counts_congr cameras, devices, List.countP_append, down]
      exact h.up c
    · rw [counts_congr cameras, log]
      exact h.books c
  | @moves d x y hx xy release up devices log cameras =>
    refine h.set hx xy release devices (fun c => ?_) (fun c => ?_) fun c => ?_
    · rw [camera?_congr cameras]
      exact id
    · rw [counts_congr cameras, Device.isUpFor, Device.isUpFor, up, xy.camera]
    · rw [counts_congr cameras, log]
      exact h.books c
  | @rises d x y hx xy release down up devices log cameras =>
    have known := h.isSome_of_getElem? hx
    have counts : ∀ c, w'.counts c = (w.recordOpen x.camera).counts c :=
      fun c => counts_congr cameras c
    refine h.set hx xy release devices (fun c there => ?_) (fun c => ?_) fun c => ?_
    · rw [camera?_congr cameras, camera?_recordOpen]
      simpa using there
    · rw [counts, counts_recordOpen known]
      by_cases own : c = x.camera
      · simp [Device.isUpFor, down, up, xy.camera, own]
      · simp [Device.isUpFor, xy.camera, own, Ne.symm own]
    · rw [counts, counts_recordOpen known, log]
      by_cases own : c = x.camera
      · rw [if_pos own, own]
        exact (h.books x.camera).opened
      · rw [if_neg own]
        exact (h.books c).other (by simpa using Ne.symm own) (by simp)
  | @falls d x y hx xy release up down devices log cameras =>
    have known := h.isSome_of_getElem? hx
    have counts : ∀ c, w'.counts c = (w.recordRelease x.camera).counts c :=
      fun c => counts_congr cameras c
    -- The device that goes down was counted, so that there is one to take away.
    have counted : 0 < (w.counts x.camera).openNow := by
      rw [h.up]
      exact List.countP_pos_iff.2 ⟨x, List.mem_of_getElem? hx, by simp [Device.isUpFor, up]⟩
    refine h.set hx xy release devices (fun c there => ?_) (fun c => ?_) fun c => ?_
    · rw [camera?_congr cameras, camera?_recordRelease]
      simpa using there
    · rw [counts, counts_recordRelease known]
      by_cases own : c = x.camera
      · subst own
        simp [Device.isUpFor, down, up, xy.camera]
        omega
      · simp [Device.isUpFor, xy.camera, own, Ne.symm own]
    · rw [counts, counts_recordRelease known, log]
      by_cases own : c = x.camera
      · rw [if_pos own, own]
        exact (h.books x.camera).closed counted
      · rw [if_neg own]
        exact (h.books c).other (by simp) (by simpa using Ne.symm own)

end Steps

/-! The operations of the hardware. -/

section Operations
variable {w : Hardware} {d : DeviceId} {x : Device}

/-- A device that has changed already changes once more. -/
theorem devices_onDevice_after {w' : Hardware} {y : Device} (hx : w.devices[d]? = some x)
    (devices : w'.devices = w.devices.set d y) (f : Device → Device) :
    (w'.onDevice d f).devices = w.devices.set d (f y) := by
  obtain ⟨hd, -⟩ := List.getElem?_eq_some_iff.1 hx
  have hy : w'.devices[d]? = some y := by rw [devices, List.getElem?_set_self hd]
  rw [devices_onDevice hy, devices, List.set_set]

theorem deviceLog_emit {e : Event} (quiet : e.deviceLine? = none) (w : Hardware) :
    (w.emit e).deviceLog = w.deviceLog := by
  simp [deviceLog, emit, quiet]

theorem deviceLog_emit_line {e : Event} (line : e.deviceLine?.isSome) (w : Hardware) :
    (w.emit e).deviceLog = w.deviceLog ++ [e] := by
  simp [deviceLog, emit, line]

/-- Only the opens that will find a camera busy change. -/
theorem Shift.of_busy {w' : Hardware} {c : CameraId} {f : Camera → Camera}
    (kept : ∀ k, { f k with busyOpens := 0 } = { k with busyOpens := 0 })
    (devices : w'.devices = w.devices) (log : w'.deviceLog = w.deviceLog)
    (cameras : w'.cameras = (w.onCamera c f).cameras) : w.Shift w' := by
  refine .silent devices log (fun c' known => ?_) fun c' => ?_
  · rw [camera?_congr cameras, camera?_onCamera]
    simpa using known
  · unfold counts
    rw [camera?_congr cameras, camera?_onCamera]
    cases w.camera? c' with
    | none => rfl
    | some k =>
      by_cases own : c' = c
      · simpa [own] using kept k
      · simp [own]

theorem Shift.addCamera (c : CameraId) (w : Hardware) : w.Shift (w.addCamera c) := by
  unfold Hardware.addCamera
  split
  · exact .silent rfl rfl (fun _ => id) fun _ => rfl
  · rename_i unknown
    have unknown : w.camera? c = none := by simpa using unknown
    have camera : ∀ c', ({ w with cameras := w.cameras ++ [(c, {})] } : Hardware).camera? c' =
        (w.camera? c').or (if c' = c then some {} else none) := by
      intro c'
      unfold camera?
      rw [List.lookup_append]
      by_cases own : c' = c
      · simp [own]
      · have other : (c' == c) = false := by simpa using own
        simp [List.lookup_cons, other, own]
    refine .silent rfl rfl (fun c' known => ?_) fun c' => ?_
    · rw [camera]
      obtain ⟨k, hk⟩ := Option.isSome_iff_exists.1 known
      simp [hk]
    · unfold counts
      rw [camera]
      by_cases own : c' = c
      · subst own
        simp [unknown]
      · simp [own]

theorem Shift.failNext (c : CameraId) (n : Nat) (w : Hardware) : w.Shift (w.failNext c n) :=
  .of_busy (f := fun k => { k with busyOpens := n }) (fun _ => rfl) rfl rfl rfl

/-- An attempt is counted, and either the open fails at once or a device begins to open. -/
theorem Shift.beginOpen (c : CameraId) (w : Hardware) : w.Shift (w.beginOpen c).2 := by
  have counted : (w.countAttempt c).devices = w.devices ∧
      (w.countAttempt c).cameras = w.cameras ∧ (w.countAttempt c).deviceLog = w.deviceLog := by
    unfold countAttempt
    split <;> exact ⟨rfl, rfl, rfl⟩
  obtain ⟨devices, cameras, log⟩ := counted
  unfold Hardware.beginOpen
  dsimp only
  cases hk : (w.countAttempt c).camera? c with
  | none =>
    exact .silent devices log (fun c' => by rw [camera?_congr cameras]; exact id)
      fun c' => counts_congr cameras c'
  | some k =>
    dsimp only
    split
    · exact .of_busy (c := c) (f := fun k => { k with busyOpens := k.busyOpens - 1 }) (fun _ => rfl)
        devices log (by simp [onCamera, cameras])
    · refine .begins (x := { camera := c, make := .simulated _, stream := ⟨.opening, 0, true⟩ })
        (by rw [← devices]) rfl rfl rfl ?_ log cameras
      rw [← camera?_congr cameras, hk]
      rfl

theorem begun_of_beginOpen {c : CameraId} {due : Nat}
    (began : (w.beginOpen c).1 = .ok (d, due)) :
    ∃ x, (w.beginOpen c).2.devices[d]? = some x ∧ x.camera = c := by
  unfold Hardware.beginOpen at began ⊢
  dsimp only at began ⊢
  split at began
  · cases began
  · split at began
    · cases began
    · rename_i k hk free
      cases began
      simp [free]

/-- A device that is still opening comes up. Any other cannot be had any more. -/
theorem finishOpen_cases (h : w.Accounts) (hx : w.devices[d]? = some x) :
    x.stream.state = .opening ∧ (w.finishOpen x.camera d).1 = .ok () ∧
      (w.finishOpen x.camera d).2.devices[d]? = some x.opened ∧
      w.Shift (w.finishOpen x.camera d).2 ∨
    x.stream.state ≠ .opening ∧ w.finishOpen x.camera d =
      (.error (.disconnected x.camera "device went away while opening"), w) := by
  have mem := List.mem_of_getElem? hx
  unfold Hardware.finishOpen
  rw [advance?_eq hx]
  by_cases opening : x.stream.state = .opening
  · have forward : x.stream.state.canAdvanceTo .open = true := by rw [opening]; rfl
    rw [if_pos forward]
    refine .inl ⟨opening, rfl, getElem?_onStream hx fun _ => x.stream.publish .open, ?_⟩
    refine .rises (y := x.opened) hx (.publish forward) (fun releases => ?_) ?_ ?_
      (devices_onDevice hx _) ?_ rfl
    · have down := (h.release x mem releases).2
      rw [opening] at down
      cases down
    · simp [Device.isUp, opening]
    · simp [Device.isUp, Device.opened, Stream.publish, h.simulated x mem]
    · rw [deviceLog_emit rfl]
      exact deviceLog_emit_line rfl _
  · have late : ¬x.stream.state.canAdvanceTo .open = true := by
      have begun := h.begun x mem
      cases hs : x.stream.state <;> simp_all [DeviceState.canAdvanceTo, DeviceState.rank]
    rw [if_neg late]
    exact .inr ⟨opening, rfl⟩

/-- A device that was handed out is asked to close. -/
theorem Shift.closeDevice (h : w.Accounts)
    (handed : ∀ x, w.devices[d]? = some x → x.stream.state ≠ .opening) :
    w.Shift (w.closeDevice d).2 := by
  have still : w.Shift w := .silent rfl rfl (fun _ => id) fun _ => rfl
  unfold Hardware.closeDevice
  cases hx : w.devices[d]? with
  | none => exact still
  | some x =>
    have mem := List.mem_of_getElem? hx
    have simulated := h.simulated x mem
    dsimp only
    split
    · rw [advance?_eq hx]
      by_cases forward : x.stream.state.canAdvanceTo .closing = true
      · have isOpen : x.stream.state = .open := by
          have begun := h.begun x mem
          have opened := handed x hx
          cases hs : x.stream.state <;> simp_all [DeviceState.canAdvanceTo, DeviceState.rank]
        rw [if_pos forward]
        refine .moves
          (y := { x with stream := x.stream.publish .closing, release := .starting }) hx
          ⟨rfl, rfl, (Device.Advances.publish forward).stream⟩ (fun _ => ⟨simulated, rfl⟩) ?_ ?_ rfl
          rfl
        · simp [Device.isUp, isOpen, Stream.publish, Device.isManual]
        · exact devices_onDevice_after hx (devices_onDevice hx _) fun x =>
            { x with release := .starting }
      · rw [if_neg forward]
        exact still
    · rename_i onClose manual
      simp [Device.isManual, manual] at simulated

/-- A release ends. The device goes down now, unless it was yanked away before. -/
theorem Shift.finishRelease (h : w.Accounts) (hx : w.devices[d]? = some x)
    (releases : x.release ≠ .none) : w.Shift (w.finishRelease d) := by
  obtain ⟨simulated, down⟩ := h.release x (List.mem_of_getElem? hx) releases
  unfold Hardware.finishRelease
  dsimp only
  rw [advance?_eq hx]
  by_cases forward : x.stream.state.canAdvanceTo .closed = true
  · have closing := DeviceState.eq_closing_of_canAdvanceTo_closed forward down
    rw [if_pos forward]
    refine .falls (y := { x with stream := x.stream.publish .closed, release := .done }) hx
      ⟨rfl, rfl, (Device.Advances.publish forward).stream⟩ (fun _ => ⟨simulated, rfl⟩) ?_ ?_
      (devices_onDevice_after hx (devices_onDevice hx _) _) ?_ rfl
    · simp [Device.isUp, simulated, closing]
    · simp [Device.isUp, Stream.publish]
    · exact (deviceLog_emit rfl _).trans (deviceLog_emit_line rfl _)
  · rw [if_neg forward]
    exact .moves (y := { x with release := .done }) hx ⟨rfl, rfl, .inl rfl⟩
      (fun _ => ⟨simulated, down⟩) rfl (devices_onDevice hx _) rfl rfl

/-- A release goes on or ends. -/
theorem Shift.resumeRelease (h : w.Accounts) (hx : w.devices[d]? = some x)
    (releases : x.release ≠ .none) : w.Shift (w.resumeRelease d) := by
  unfold Hardware.resumeRelease
  split
  · exact .moves (y := { x with release := .running _ }) hx ⟨rfl, rfl, .inl rfl⟩
      (fun _ => h.release x (List.mem_of_getElem? hx) releases) rfl (devices_onDevice hx _) rfl rfl
  · exact .finishRelease h hx releases

/-- A device is yanked away. -/
theorem Shift.yank (h : w.Accounts) (hx : w.devices[d]? = some x) :
    w.Shift (w.yank x.camera d).2 := by
  have mem := List.mem_of_getElem? hx
  have simulated := h.simulated x mem
  unfold Hardware.yank
  rw [hx]
  dsimp only
  by_cases forward : x.stream.state.canAdvanceTo .closing = true
  · have closes : x.stream.state.canAdvanceTo .closed = true := by
      cases hs : x.stream.state <;> simp_all [DeviceState.canAdvanceTo, DeviceState.rank]
    have closed : { x with stream := x.stream.publish .closed }.isUp = false := by
      simp [Device.isUp, Stream.publish]
    have release : { x with stream := x.stream.publish .closed }.ReleaseFits :=
      fun _ => ⟨simulated, rfl⟩
    have devices : (w.onStream d (·.publish .closed)).devices =
        w.devices.set d { x with stream := x.stream.publish .closed } :=
      devices_onDevice (f := fun x => { x with stream := x.stream.publish .closed }) hx
    rw [if_pos forward]
    by_cases isOpen : x.stream.state = .open
    · rw [if_pos isOpen]
      refine .falls hx (.publish closes) release ?_ closed devices ?_ rfl
      · simp [Device.isUp, simulated, isOpen]
      · refine (deviceLog_emit_line rfl _).trans ?_
        exact congrArg (· ++ _) (deviceLog_emit rfl (w.onStream d (·.publish .closed)))
    · rw [if_neg isOpen]
      refine .moves hx (.publish closes) release ?_ devices (deviceLog_emit rfl _) rfl
      rw [closed]
      cases hs : x.stream.state <;>
        simp_all [Device.isUp, DeviceState.canAdvanceTo, DeviceState.rank]
  · rw [if_neg forward]
    exact .silent rfl rfl (fun _ => id) fun _ => rfl

theorem length_yank (c : CameraId) (d : DeviceId) (w : Hardware) :
    (w.yank c d).2.devices.length = w.devices.length := by
  have published : (w.onStream d (·.publish .closed)).devices.length = w.devices.length := by
    simp [onStream, onDevice]
  unfold Hardware.yank
  split
  · rfl
  · split
    · dsimp only
      split <;> exact published
    · rfl

theorem getElem?_yank (c : CameraId) {e : DeviceId} (other : d ≠ e) (w : Hardware) :
    (w.yank c d).2.devices[e]? = w.devices[e]? := by
  have published : (w.onStream d (·.publish .closed)).devices[e]? = w.devices[e]? := by
    simp [onStream, onDevice, other]
  unfold Hardware.yank
  split
  · rfl
  · split
    · dsimp only
      split <;> exact published
    · rfl

structure Yanks (ids : List DeviceId) (w w' : Hardware) : Prop where
  accounts : w'.Accounts
  length : w'.devices.length = w.devices.length
  lines : w'.deviceLog = w.deviceLog ++ ids.flatMap (w.linesOf w')
  others : ∀ d, d ∉ ids → w'.devices[d]? = w.devices[d]?
  forward : ∀ (d : DeviceId) (x : Device), w.devices[d]? = some x →
    ∃ y, w'.devices[d]? = some y ∧ x.Advances y

theorem linesOf_congr {w₁ w₂ w₃ : Hardware} (first : w₁.devices[d]? = w₂.devices[d]?)
    (last : w.devices[d]? = w₃.devices[d]?) : w₁.linesOf w d = w₂.linesOf w₃ d := by
  unfold linesOf
  rw [first, last]

theorem Yanks.cons {c : CameraId} {ids : List DeviceId} {w' : Hardware} (h : w.Accounts)
    (hx : w.devices[d]? = some x) (own : x.camera = c) (new : d ∉ ids)
    (rest : Yanks ids (w.yank c d).2 w') : Yanks (d :: ids) w w' := by
  subst own
  have yanked := Shift.yank h hx
  have kept : w'.devices[d]? = (w.yank x.camera d).2.devices[d]? := rest.others d new
  obtain ⟨hd, -⟩ := List.getElem?_eq_some_iff.1 hx
  obtain ⟨y, hy, xy⟩ := yanked.course.forward d x hx
  obtain ⟨hd', -⟩ := List.getElem?_eq_some_iff.1 hy
  refine ⟨rest.accounts, rest.length.trans (length_yank _ d w), ?_, fun e he => ?_, fun e z hz => ?_⟩
  · have first : (w.yank x.camera d).2.deviceLog = w.deviceLog ++ w.linesOf w' d := by
      rw [yanked.course.lines, flatMap_range_eq hd' fun e he =>
        linesOf_eq_nil (getElem?_yank x.camera (Ne.symm he) w), linesOf_congr rfl kept.symm]
    have later : ids.flatMap ((w.yank x.camera d).2.linesOf w') = ids.flatMap (w.linesOf w') := by
      refine List.flatMap_congr fun e he => linesOf_congr (getElem?_yank x.camera ?_ w) rfl
      rintro rfl
      exact new he
    rw [rest.lines, first, later, List.flatMap_cons, List.append_assoc]
  · obtain ⟨other, he⟩ := not_or.1 (mt List.mem_cons.2 he)
    rw [rest.others e he, getElem?_yank x.camera (Ne.symm other)]
  · by_cases own : d = e
    · subst own
      obtain rfl : x = z := Option.some.inj (hx.symm.trans hz)
      exact ⟨y, kept.trans hy, xy⟩
    · exact rest.forward e z ((getElem?_yank x.camera own w).trans hz)

theorem Yanks.all {c : CameraId} {ids : List DeviceId} (nodup : ids.Nodup) (h : w.Accounts)
    (own : ∀ d ∈ ids, ∃ x, w.devices[d]? = some x ∧ x.camera = c) (any : Bool) :
    Yanks ids w (ids.foldl (fun (any, w) d => let (yanked, w) := yank c w d
      (any || yanked, w)) (any, w)).2 := by
  induction ids generalizing w any with
  | nil =>
    exact ⟨h, rfl, (List.append_nil _).symm, fun _ _ => rfl, fun d x hx => ⟨x, hx, .refl x⟩⟩
  | cons d ids ih =>
    obtain ⟨x, hx, camera⟩ := own d List.mem_cons_self
    obtain ⟨new, nodup⟩ := List.nodup_cons.1 nodup
    refine .cons h hx camera new (ih nodup ?_ (fun e he => ?_) _)
    · exact camera ▸ (Shift.yank h hx).accounts h
    · obtain ⟨z, hz, own⟩ := own e (List.mem_cons_of_mem _ he)
      have other : d ≠ e := fun same => new (same ▸ he)
      exact ⟨z, (getElem?_yank c other w).trans hz, own⟩

theorem flatMap_filter_eq {α : Type} {f : Nat → List α} {p : Nat → Bool} {l : List Nat}
    (others : ∀ i ∈ l, p i = false → f i = []) : (l.filter p).flatMap f = l.flatMap f := by
  induction l with
  | nil => rfl
  | cons i l ih =>
    have rest := ih fun j hj => others j (List.mem_cons_of_mem _ hj)
    cases hi : p i with
    | true => simp [hi, rest]
    | false => simp [hi, rest, others i List.mem_cons_self hi]

theorem unplug_course (h : w.Accounts) (c : CameraId) (held : DeviceId → Bool) :
    (w.unplug c held).2.Accounts ∧ w.Course (w.unplug c held).2 := by
  unfold Hardware.unplug
  split
  · exact ⟨h, (Shift.silent rfl rfl (fun _ => id) fun _ => rfl).course⟩
  · have nodup : (w.devicesOf c held).Nodup := List.nodup_range.filter _
    have all := Yanks.all (c := c) nodup h (fun d hd => ?_) false
    · refine ⟨all.accounts, ?_, all.forward, fun d y none hy => ?_⟩
      · rw [all.lines, all.length]
        refine congrArg _ (flatMap_filter_eq fun d _ out => ?_)
        refine linesOf_eq_nil (all.others d fun mem => ?_)
        cases out.symm.trans (List.mem_filter.1 mem).2
      · have there := (List.getElem?_eq_some_iff.1 hy).1
        exact absurd (all.length ▸ there) (Nat.not_lt.2 (List.getElem?_eq_none_iff.1 none))
    · obtain ⟨x, hx, -, camera⟩ := mem_devicesOf hd
      exact ⟨x, hx, camera⟩

end Operations

end Hardware

end CameraBroker
