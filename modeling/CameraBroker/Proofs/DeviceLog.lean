import CameraBroker.Proofs.Growth

/-! The device log. It has one line more for each device coming up than for devices going down
while a device of the camera is up. -/
namespace CameraBroker

namespace Device

def isUpFor (c : CameraId) (x : Device) : Bool := x.camera = c && x.isUp

/-- A change of a device makes the lines that the change in its standing calls for. -/
theorem count_logLines {x y : Device} (camera : y.camera = x.camera) (c : CameraId) :
    (x.logLines y).count (.logOpened c) + (if x.isUpFor c then 1 else 0) =
      (x.logLines y).count (.logClosed c) + if y.isUpFor c then 1 else 0 := by
  unfold logLines isUpFor
  rw [camera]
  by_cases own : x.camera = c
  · cases x.isUp <;> cases y.isUp <;> simp [own]
  · cases x.isUp <;> cases y.isUp <;> simp [own]

theorem isUp_of_manual {x : Device} (manual : x.isManual = true) : x.isUp = false := by
  simp [isUp, manual]

theorem IsGone.isUp {x : Device} (gone : x.IsGone) : x.isUp = false := by
  rcases gone with closed | ⟨manual, -⟩
  · simp [Device.isUp, closed]
  · exact isUp_of_manual manual

end Device

theorem countP_set_add {α : Type} {p : α → Bool} {l : List α} {d : Nat} {x : α}
    (hx : l[d]? = some x) (y : α) :
    (l.set d y).countP p + (if p x then 1 else 0) = l.countP p + if p y then 1 else 0 := by
  obtain ⟨hd, rfl⟩ := List.getElem?_eq_some_iff.1 hx
  rw [List.countP_set hd]
  cases hp : p l[d] with
  | false => simp
  | true =>
    have pos : 0 < l.countP p := List.countP_pos_iff.2 ⟨_, List.getElem_mem hd, hp⟩
    simp only [if_true]
    omega

namespace View

/-- As many devices of the camera went down as came up, but for those that are up. -/
def Balanced (c : CameraId) (v : View) : Prop :=
  v.deviceLines.count (.logOpened c) =
    v.deviceLines.count (.logClosed c) + v.devices.countP (·.isUpFor c)

section
variable {v w : View} {c : CameraId}

theorem Balanced.of_eq (lines : w.deviceLines = v.deviceLines) (devices : w.devices = v.devices)
    (hv : v.Balanced c) : w.Balanced c := by
  rw [Balanced, lines, devices]
  exact hv

theorem Balanced.background {kept : HandleId → Prop} (h : Background kept v w)
    (hv : v.Balanced c) : w.Balanced c := by
  cases h with
  | @device d x y hx xy =>
    have lines : ∀ e : Event, e.isDeviceLine = true →
        (((x.logLines y ++ v.milestones).filter Event.isDeviceLine).count e) =
          (x.logLines y).count e + v.deviceLines.count e := by
      intro e he
      rw [List.filter_append, List.count_append, List.count_filter he]
      rfl
    have opened := lines (.logOpened c) rfl
    have closed := lines (.logClosed c) rfl
    have change := Device.count_logLines xy.camera c
    have up := countP_set_add (p := (·.isUpFor c)) hx y
    have before : v.deviceLines.count (.logOpened c) =
      v.deviceLines.count (.logClosed c) + v.devices.countP (·.isUpFor c) := hv
    unfold Balanced deviceLines
    rw [opened, closed]
    dsimp only
    omega
  | refusedOpen c => exact hv
  | «open» c share room => exact hv.of_eq (deviceLines_note rfl _) rfl
  | close hi room => exact hv.of_eq (deviceLines_note rfl _) rfl
  | closeAll room => exact hv.of_eq (deviceLines_note rfl _) rfl
  | leave => exact hv
  | beginClose hk hs gone => exact hv
  | endClose hk hc => exact hv

theorem Balanced.concat {x : Device} (down : x.isUp = false)
    (devices : w.devices = v.devices ++ [x])
    (opened : w.deviceLines.count (.logOpened c) = v.deviceLines.count (.logOpened c))
    (closed : w.deviceLines.count (.logClosed c) = v.deviceLines.count (.logClosed c))
    (hv : v.Balanced c) : w.Balanced c := by
  have none : [x].countP (·.isUpFor c) = 0 := by simp [Device.isUpFor, down]
  rw [Balanced, opened, closed, devices, List.countP_append, none]
  exact hv

theorem Balanced.grows (h : v.Grows w) (hv : v.Balanced c) : w.Balanced c := by
  cases h with
  | remains h => exact hv.of_eq h.lines h.devices
  | «begin» asked lost left camera simulated state faces devices lines active acquired =>
    exact hv.concat (by simp [Device.isUp, state]) devices (by rw [lines]) (by rw [lines])
  | @simulated g c' d x asked acquired acquires left up faces devices lines active stage =>
    have before : x.isUpFor c = false := by
      rcases acquires.state with state | state <;> simp [Device.isUpFor, Device.isUp, state]
    have after : x.opened.isUpFor c = decide (c' = c) := by
      have simulated : x.opened.isManual = false := acquires.simulated
      have camera : x.opened.camera = c' := acquires.camera
      have state : x.opened.stream.state = .open := rfl
      simp [Device.isUpFor, Device.isUp, simulated, camera, state]
    have count := countP_set_add (p := (·.isUpFor c)) acquires.there x.opened
    have was : v.deviceLines.count (.logOpened c) =
      v.deviceLines.count (.logClosed c) + v.devices.countP (·.isUpFor c) := hv
    rw [before, after] at count
    rw [Balanced, lines, devices]
    by_cases own : c' = c
    · simp only [own, decide_true, if_true, Bool.false_eq_true, if_false] at count
      simp [own]
      omega
    · simp only [own, decide_false, Bool.false_eq_true, if_false] at count
      simp [own]
      omega
  | manual asked acquired left camera manual faces devices lines active stage =>
    exact hv.concat (Device.isUp_of_manual manual) devices (by simp [lines]) (by simp [lines])

end

end View

namespace Broker
variable {b : Broker}

theorem Reachable.balanced (hr : Reachable b) (c : CameraId) : b.view.Balanced c :=
  hr.view_invariant (P := fun v => v.Balanced c) rfl (fun _ _ _ _ move hv => hv.background move)
    fun _ _ hs turn hv => hv.grows (turn.rule.grows hs)

/-- In the whole history, a camera came up as often as it went down and is up now. -/
theorem Reachable.count_logOpened (hr : Reachable b) (c : CameraId) :
    b.hw.history.count (.logOpened c) =
      b.hw.history.count (.logClosed c) + b.hw.devices.countP (·.isUpFor c) := by
  have lines : ∀ e : Event, e.isMilestone = true → e.isDeviceLine = true →
      b.view.deviceLines.count e = b.hw.history.count e := by
    intro e milestone line
    have same : b.view.deviceLines =
      (b.hw.history.filter Event.isMilestone).filter Event.isDeviceLine := rfl
    rw [same, List.count_filter line, List.count_filter milestone]
  rw [← lines (.logOpened c) rfl rfl, ← lines (.logClosed c) rfl rfl]
  exact hr.balanced c

end Broker

end CameraBroker
