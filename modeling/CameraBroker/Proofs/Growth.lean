import CameraBroker.Proofs.Sound

/-! How devices and sessions come about and go. A turn of the loop opens at most one device, for
the oldest request, and lets go of no session before its device is gone. -/
namespace CameraBroker

def Event.isDeviceLine : Event → Bool
  | .deviceOpened _ _ => true
  | .logOpened _ => true
  | .logClosed _ => true
  | _ => false

inductive Device.Passes (x : Device) : Device → Prop where
  | goesOn {y : Device} (becomes : x.Becomes y) : Passes x y
  | opens (simulated : x.isManual = false) (up : x.stream.state.canAdvanceTo .open = true) :
      Passes x x.opened

namespace View

/-- Latest first. -/
def deviceLines (v : View) : List Event := v.milestones.filter Event.isDeviceLine

structure Asked (v : View) (h : HandleId) (c : CameraId) : Prop where
  camera : v.wanted[h]? = some c
  head : ∃ share rest, v.waiting = .open h share :: rest ∧ (share = false → v.loop.active = [])
  free : ∀ i ∈ v.loop.active, v.cameraOf i ≠ some c

theorem Opening.asked {v : View} {h : HandleId} {c : CameraId} (ho : v.Opening h c) :
    v.Asked h c := by
  obtain ⟨share, rest, pending, alone⟩ := ho.head
  refine ⟨ho.camera, ⟨share, rest ++ v.inbox.buffer, ?_, alone⟩, ho.free⟩
  rw [waiting, pending]
  rfl

/-- Somebody looks after the session: it is active, or the loop waits for it. -/
def Covers (v : View) (i : SessionId) : Prop := i ∈ v.loop.active ∨ i ∈ v.loop.stage.left

/-- No device and no session comes, and no session goes before its device is gone. -/
structure Remains (v w : View) : Prop where
  faces : w.faces = v.faces
  devices : w.devices = v.devices
  lines : w.deviceLines = v.deviceLines
  active : w.loop.active ⊆ v.loop.active
  acquired : w.loop.stage.acquired? = v.loop.stage.acquired? ∨
    w.loop.stage.acquired? = none ∧ v.AcquiredIsLost
  covers : w.loop.stage = .crashed ∨ ∀ i, v.Covers i → w.Covers i ∨ v.IsDown i

inductive Grows (v w : View) : Prop where
  | remains (h : v.Remains w)
  | «begin» {h : HandleId} {c : CameraId} {x : Device} (asked : v.Asked h c)
      (lost : v.AcquiredIsLost) (left : v.loop.stage.left = []) (camera : x.camera = c)
      (simulated : x.isManual = false) (state : x.stream.state = .opening)
      (faces : w.faces = v.faces) (devices : w.devices = v.devices ++ [x])
      (lines : w.deviceLines = v.deviceLines) (active : w.loop.active = v.loop.active)
      (acquired : w.loop.stage.acquired? = some v.devices.length)
  | simulated {h : HandleId} {c : CameraId} {d : DeviceId} {x : Device} (asked : v.Asked h c)
      (acquired : v.loop.stage.acquired? = some d) (acquires : v.Acquires d c x)
      (left : v.loop.stage.left = []) (up : x.stream.state.canAdvanceTo .open = true)
      (faces : w.faces = v.faces ++ [⟨c, d⟩]) (devices : w.devices = v.devices.set d x.opened)
      (lines : w.deviceLines = .deviceOpened c d :: .logOpened c :: v.deviceLines)
      (active : w.loop.active = v.loop.active ++ [v.faces.length])
      (stage : w.loop.stage = .reading)
  | manual {h : HandleId} {c : CameraId} {x : Device} (asked : v.Asked h c)
      (acquired : v.loop.stage.acquired? = none) (left : v.loop.stage.left = [])
      (camera : x.camera = c) (manual : x.isManual = true)
      (faces : w.faces = v.faces ++ [⟨c, v.devices.length⟩])
      (devices : w.devices = v.devices ++ [x])
      (lines : w.deviceLines = .deviceOpened c v.devices.length :: v.deviceLines)
      (active : w.loop.active = v.loop.active ++ [v.faces.length])
      (stage : w.loop.stage = .reading)

section
variable {v w : View}

theorem Remains.refl (v : View) : v.Remains v :=
  ⟨rfl, rfl, rfl, fun _ => id, .inl rfl, .inr fun _ => .inl⟩

theorem deviceLines_note {e : Event} (he : e.isDeviceLine = false) (v : View) :
    (v.note e).deviceLines = v.deviceLines := by
  simp [deviceLines, View.note, he]

theorem deviceLines_service (rs : List Request) (v : View) :
    (v.service rs).deviceLines = v.deviceLines := by
  induction rs generalizing v with
  | nil => rfl
  | cons r rs ih =>
    rw [service_cons, ih, deviceLines_note]
    rfl

/-- The loop reads on, with the same sessions. -/
theorem Remains.read (idle : v.loop.stage.left = []) (lost : v.AcquiredIsLost)
    (faces : w.faces = v.faces) (devices : w.devices = v.devices)
    (lines : w.deviceLines = v.deviceLines) (active : w.loop.active = v.loop.active)
    (acquired : w.loop.stage.acquired? = none) : v.Remains w := by
  refine ⟨faces, devices, lines, fun i hi => active ▸ hi, .inr ⟨acquired, lost⟩, .inr ?_⟩
  rintro i (hi | hi)
  · exact .inl (.inl (active.symm ▸ hi))
  · rw [idle] at hi
    cases hi

/-- The loop closes sessions, and leaves those whose device is not gone yet. -/
theorem Remains.retire {u : View} (stage : v.loop.stage = .reading)
    {sessions active left : List SessionId} {after : AfterClose} (faces : u.faces = v.faces)
    (devices : u.devices = v.devices) (lines : u.deviceLines = v.deviceLines)
    (sub : active ⊆ v.loop.active) (all : ∀ i ∈ v.loop.active, i ∈ active ∨ i ∈ sessions)
    (leaves : v.Leaves sessions left) : v.Remains (u.retire sessions active left after) := by
  have lost : v.AcquiredIsLost := acquiredIsLost_of_none (congrArg LoopStage.acquired? stage)
  have next : (u.retire sessions active left after).loop.stage =
      .afterWait sessions left after := rfl
  refine ⟨faces, devices, lines, sub, .inr ⟨?_, lost⟩, .inr ?_⟩
  · rw [next, LoopStage.acquired?_afterWait]
  · rintro i (hi | hi)
    · rcases all i hi with hi | hi
      · exact .inl (.inl hi)
      · by_cases out : i ∈ left
        · refine .inl (.inr ?_)
          rw [next, LoopStage.left_afterWait]
          exact out
        · exact .inr (leaves.down i hi out)
    · rw [stage] at hi
      cases hi

theorem deviceLines_popHead (v : View) : v.popHead.deviceLines = v.deviceLines := by
  unfold View.popHead
  split
  · rfl
  · rw [deviceLines_note]
    · rfl
    · rfl

theorem Opens.grows {b' : Broker} {h : HandleId} {c : CameraId} (hv : v.Sound)
    (ho : v.Opening h c) (idle : v.loop.stage.left = []) (step : Broker.Opens b' h c v w) :
    v.Grows w := by
  cases step with
  | giveUp lost resolved =>
    refine .remains (.read idle lost ?_ ?_ ?_ ?_ rfl)
    · unfold View.popHead
      split <;> rfl
    · unfold View.popHead
      split <;> rfl
    · exact (deviceLines_popHead _).trans (deviceLines_note rfl v)
    · unfold View.popHead
      split <;> rfl
  | pause lost attempt due => exact .remains (.read idle lost rfl rfl rfl rfl rfl)
  | «begin» lost camera simulated state release attempt due =>
    exact .begin ho.asked lost idle camera simulated state rfl rfl rfl rfl rfl
  | call lost due => exact .remains (.read idle lost rfl rfl rfl rfl rfl)
  | @simulated attempt due d x stage hx up =>
    have acquired : v.loop.stage.acquired? = some d := by
      rw [stage]
      rfl
    have opens : v.loop.stage.opens? = some h := by
      rw [stage]
      rfl
    obtain ⟨y, hy⟩ := hv.acquired d h c acquired opens ho.camera
    obtain rfl : x = y := Option.some.inj (hx.symm.trans hy.there)
    refine .simulated ho.asked acquired hy idle up ?_ rfl rfl rfl rfl
    rw [← hy.camera]
    rfl
  | manual stage camera manual release =>
    refine .manual ho.asked ?_ idle camera manual rfl rfl rfl rfl rfl
    rw [stage]
    rfl
  | crash stage =>
    refine .remains ⟨rfl, rfl, rfl, List.nil_subset _, .inr ⟨rfl, fun d x hd => ?_⟩, .inl rfl⟩
    rw [stage] at hd
    cases hd

/-- What the loop does once it has asked the opener, it does altogether. -/
theorem Grows.of_asked {rs : List Request} (hw : v.waiting = rs) {h : HandleId} {c : CameraId}
    (grows : ((v.take rs).ask h c).Grows w) : v.Grows w := by
  have lines : ((v.take rs).ask h c).deviceLines = v.deviceLines := by
    unfold View.ask
    rw [deviceLines_note rfl, deviceLines_note rfl]
    rfl
  have asked : ∀ {g c'}, ((v.take rs).ask h c).Asked g c' → v.Asked g c' := by
    intro g c' ha
    obtain ⟨share, rest, head, alone⟩ := ha.head
    refine ⟨ha.camera, ⟨share, rest, ?_, alone⟩, ha.free⟩
    rw [hw, ← head]
    simp [waiting, View.take, View.ask, View.note, View.setPending, View.setLoop]
  cases grows with
  | remains h =>
    exact .remains ⟨h.faces, h.devices, lines ▸ h.lines, h.active, h.acquired, h.covers⟩
  | «begin» ha lost left camera simulated state faces devices same active acquired =>
    exact .begin (asked ha) lost left camera simulated state faces devices (lines ▸ same) active
      acquired
  | simulated ha acquired acquires left up faces devices same active stage =>
    exact .simulated (asked ha) acquired
      ⟨acquires.there, acquires.camera, acquires.simulated, acquires.state, acquires.fresh⟩ left up
      faces devices (lines ▸ same) active stage
  | manual ha acquired left camera manual faces devices same active stage =>
    exact .manual (asked ha) acquired left camera manual faces devices (lines ▸ same) active stage

/-! Beside the loop. -/

/-- What no move beside the loop does. -/
structure Aside (v w : View) : Prop where
  loop : w.loop = v.loop
  faces : w.faces = v.faces
  length : w.devices.length = v.devices.length
  devices : ∀ (d : DeviceId) (x : Device), v.devices[d]? = some x →
    ∃ y, w.devices[d]? = some y ∧ x.Becomes y
  waiting : v.waiting <+: w.waiting
  lines : ∃ new, w.deviceLines = new ++ v.deviceLines ∧ ∀ c d, .deviceOpened c d ∉ new

namespace Aside

/-- Nothing but what neither the loop nor the devices show. -/
theorem of_eq (loop : w.loop = v.loop) (faces : w.faces = v.faces) (devices : w.devices = v.devices)
    (waiting : v.waiting <+: w.waiting) (lines : w.deviceLines = v.deviceLines) : v.Aside w :=
  ⟨loop, faces, by rw [devices], fun d x hx => ⟨x, devices ▸ hx, .refl x⟩, waiting,
    ⟨[], lines, fun _ _ => List.not_mem_nil⟩⟩

theorem refl (v : View) : v.Aside v := .of_eq rfl rfl rfl (List.prefix_refl _) rfl

theorem trans {u v w : View} (h : u.Aside v) (k : v.Aside w) : u.Aside w := by
  refine ⟨k.loop.trans h.loop, k.faces.trans h.faces, k.length.trans h.length, fun d x hx => ?_,
    h.waiting.trans k.waiting, ?_⟩
  · obtain ⟨y, hy, xy⟩ := h.devices d x hx
    obtain ⟨z, hz, yz⟩ := k.devices d y hy
    exact ⟨z, hz, xy.trans yz⟩
  · obtain ⟨new, hnew, none⟩ := h.lines
    obtain ⟨more, hmore, none'⟩ := k.lines
    refine ⟨more ++ new, by rw [hmore, hnew, List.append_assoc], fun c d hd => ?_⟩
    rcases List.mem_append.1 hd with hd | hd
    · exact none' c d hd
    · exact none c d hd

theorem arrive (r : Request) (v : View) : v.Aside (v.arrive r) := by
  refine .of_eq rfl rfl rfl ⟨[r], ?_⟩ (deviceLines_note rfl _)
  simp [View.waiting, View.arrive, View.note]

theorem of_background {kept : HandleId → Prop} (h : Background kept v w) : v.Aside w := by
  cases h with
  | @device d x y hx xy =>
    refine ⟨rfl, rfl, by simp, fun e z hz => getElem?_set_becomes hx xy hz, List.prefix_refl _,
      ⟨(x.logLines y).filter Event.isDeviceLine, by simp [deviceLines], fun c e he => ?_⟩⟩
    rcases Device.eq_of_mem_logLines (List.mem_filter.1 he).1 with h | h <;> cases h
  | refusedOpen c => exact .of_eq rfl rfl rfl (List.prefix_refl _) rfl
  | «open» c share room =>
    have added : v.Aside (v.addHandle c) := .of_eq rfl rfl rfl (List.prefix_refl _) rfl
    exact added.trans (arrive _ _)
  | close hi room => exact arrive _ v
  | closeAll room => exact arrive _ v
  | leave => exact .of_eq rfl rfl rfl (List.prefix_refl _) rfl
  | beginClose hk hs gone => exact .of_eq rfl rfl rfl (List.prefix_refl _) rfl
  | endClose hk hc => exact .of_eq rfl rfl rfl (List.prefix_refl _) rfl

theorem of_meanwhile {kept : HandleId → Prop} (h : Meanwhile kept v w) : v.Aside w := by
  induction h with
  | refl => exact .refl v
  | tail _ move ih => exact ih.trans (of_background move)

end Aside

end

end View

namespace Broker
variable {b b' : Broker} {w : View}

theorem Rule.grows (hv : b.view.Sound) (rule : Rule b b' w) : b.view.Grows w := by
  cases rule with
  | idle => exact .remains (.refl _)
  | start stage =>
    have lost : b.view.AcquiredIsLost :=
      View.acquiredIsLost_of_none (congrArg LoopStage.acquired? stage)
    exact .remains (.read (congrArg LoopStage.left stage) lost rfl rfl rfl rfl rfl)
  | finish stage done noClient leaves =>
    exact .remains (.retire stage rfl rfl rfl (List.nil_subset _) (fun i => .inr) leaves)
  | @close stage i rest first left leaves =>
    refine .remains (.retire stage rfl rfl ?_ List.filter_sublist.subset
      (fun j hj => mem_filter_ne_or hj i) leaves)
    exact View.deviceLines_note rfl _
  | closeAll stage noClose last resolved leaves =>
    refine .remains (.retire stage rfl rfl ?_ (List.nil_subset _) (fun i => .inr) leaves)
    exact View.deviceLines_service _ _
  | @serve stage h share rest head c camera w serves =>
    have idle : b.view.loop.stage.left = [] := congrArg LoopStage.left stage
    have lost : b.view.AcquiredIsLost :=
      View.acquiredIsLost_of_none (congrArg LoopStage.acquired? stage)
    cases serves with
    | stale answered =>
      refine .remains (.read idle lost rfl rfl ?_ rfl rfl)
      exact (View.deviceLines_note rfl _).trans (View.deviceLines_note rfl _)
    | makeRoom waits exclusive conflict some leaves =>
      rw [conflicting_eq] at conflict
      cases conflict
      exact .remains (.retire stage rfl rfl rfl List.filter_sublist.subset
        (fun i hi => mem_filter_not_or hi _) leaves)
    | @replace waits i left active leaves =>
      exact .remains (.retire stage rfl rfl rfl List.filter_sublist.subset
        (fun j hj => mem_filter_ne_or hj i) leaves)
    | attach waits active ht resolved kept =>
      refine .remains (.read idle lost rfl rfl ?_ rfl rfl)
      exact (View.deviceLines_note rfl _).trans (View.deviceLines_note rfl _)
    | deny waits resolved =>
      refine .remains (.read idle lost rfl rfl ?_ rfl rfl)
      exact (View.deviceLines_note rfl _).trans (View.deviceLines_note rfl _)
    | ask waits alone none opens =>
      obtain ⟨asked, opening⟩ := opening_ask hv stage head camera alone none
      exact .of_asked head (View.Opens.grows asked opening idle opens)
  | opener stage camera opens =>
    have ho := opening_of_stage hv stage camera
    exact View.Opens.grows hv ho (congrArg LoopStage.left stage) opens
  | @await sessions left left' after stage sub down =>
    have waits : b.view.loop.stage.left = left := congrArg LoopStage.left stage
    have next : (b.view.await sessions left' after).loop.stage =
        .afterWait sessions left' after := rfl
    refine .remains ⟨rfl, rfl, rfl, fun _ => id, .inr ⟨?_, ?_⟩, .inr ?_⟩
    · rw [next, LoopStage.acquired?_afterWait]
    · exact View.acquiredIsLost_of_none (congrArg LoopStage.acquired? stage)
    · rintro i (hi | hi)
      · exact .inl (.inl hi)
      · rw [waits] at hi
        by_cases out : i ∈ left'
        · refine .inl (.inr ?_)
          rw [next, LoopStage.left_afterWait]
          exact out
        · exact .inr (down i hi (hv.left sessions left after stage hi) out)

/-- A step leaves devices and sessions alone, or does what a turn of the loop does. -/
theorem Reachable.aside_or_grows (hr : Reachable b) (a : Action) :
    b.view.Aside (b.step a).view ∨
      b.loop.stage ≠ .crashed ∧ b.view.Grows (b.step a).view := by
  rcases hr.step_cases a with beside | turn
  · exact .inl (.of_meanwhile beside.view)
  · by_cases crashed : b.loop.stage = .crashed
    · exact .inl (turn.rule.eq_of_halted (.inr crashed) ▸ .refl _)
    · exact .inr ⟨crashed, turn.rule.grows hr.sound⟩

theorem Reachable.device_step (hr : Reachable b) {d : DeviceId} {x : Device}
    (hx : b.hw.devices[d]? = some x) (a : Action) :
    ∃ y, (b.step a).hw.devices[d]? = some y ∧ x.Passes y := by
  obtain ⟨there, -⟩ := List.getElem?_eq_some_iff.1 hx
  have kept : ∀ more : List Device, (b.step a).hw.devices = b.hw.devices ++ more →
      ∃ y, (b.step a).hw.devices[d]? = some y ∧ x.Passes y := by
    intro more devices
    exact ⟨x, by rw [devices, List.getElem?_append_left there, hx], .goesOn (.refl x)⟩
  rcases hr.aside_or_grows a with aside | ⟨-, grows⟩
  · obtain ⟨y, hy, xy⟩ := aside.devices d x hx
    exact ⟨y, hy, .goesOn xy⟩
  · cases grows with
    | remains h => exact kept [] (h.devices.trans (List.append_nil _).symm)
    | «begin» asked lost left camera simulated state faces devices lines active acquired =>
      exact kept _ devices
    | @simulated h c e z asked acquired acquires left up faces devices lines active stage =>
      have devices : (b.step a).hw.devices = b.hw.devices.set e z.opened := devices
      rw [devices]
      by_cases hde : e = d
      · subst hde
        obtain rfl : x = z := Option.some.inj (hx.symm.trans acquires.there)
        exact ⟨x.opened, List.getElem?_set_self there, .opens acquires.simulated up⟩
      · exact ⟨x, by rw [List.getElem?_set_ne hde, hx], .goesOn (.refl x)⟩
    | manual asked acquired left camera manual faces devices lines active stage =>
      exact kept _ devices

/-- A step adds at most one session, whose device no other session has and is not open yet. -/
theorem Reachable.faces_cases (hr : Reachable b) (a : Action) :
    (b.step a).view.faces = b.view.faces ∨
      ∃ c d, (b.step a).view.faces = b.view.faces ++ [⟨c, d⟩] ∧
        (∀ f ∈ b.view.faces, f.device ≠ d) ∧
        ∀ x, b.view.devices[d]? = some x →
          x.stream.state = .opening ∨ x.stream.state = .closed := by
  rcases hr.aside_or_grows a with aside | ⟨-, grows⟩
  · exact .inl aside.faces
  · cases grows with
    | remains h => exact .inl h.faces
    | «begin» asked lost left camera simulated state faces devices lines active acquired =>
      exact .inl faces
    | simulated asked acquired acquires left up faces devices lines active stage =>
      refine .inr ⟨_, _, faces, acquires.fresh, fun x hx => ?_⟩
      obtain rfl := Option.some.inj (acquires.there.symm.trans hx)
      exact acquires.state
    | manual asked acquired left camera manual faces devices lines active stage =>
      refine .inr ⟨_, _, faces, fun f hf same => ?_, fun x hx => ?_⟩
      · obtain ⟨x, hx, -⟩ := hr.sound.faces f hf
        rw [same, List.getElem?_eq_none (Nat.le_refl _)] at hx
        cases hx
      · rw [List.getElem?_eq_none (Nat.le_refl _)] at hx
        cases hx

end Broker

end CameraBroker
