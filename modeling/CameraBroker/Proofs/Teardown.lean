import CameraBroker.Proofs.Fates

/-! Teardown comes before a conflicting open. Every device that is not gone is looked after: the
loop is about to get it, or its session is active or waited for. -/
namespace CameraBroker

/-- A device that is gone stays gone, if one that is driven by hand stays closed. -/
theorem Device.IsGone.becomes {x y : Device} (h : x.IsGone) (xy : x.Becomes y)
    (keeps : x.isManual = true → x.stream.state = .closed → y.stream.state = .closed) :
    y.IsGone := by
  rcases h with closed | ⟨manual, dropped⟩
  · left
    cases hm : x.isManual with
    | true => exact keeps hm closed
    | false =>
      rcases xy.state hm with same | ⟨opened, -⟩ | gone
      · rw [same, closed]
      · rw [closed] at opened
        cases opened
      · exact gone
  · right
    refine ⟨xy.isManual.trans manual, ?_⟩
    cases hl : y.stream.live with
    | true => exact absurd (xy.live hl) (by simp [dropped])
    | false => rfl

namespace View

/-- The loop is about to get the device, or its session is active or waited for. -/
def Minds (v : View) (d : DeviceId) : Prop :=
  v.loop.stage.acquired? = some d ∨
    ∃ (i : SessionId) (f : Face), v.Covers i ∧ v.faces[i]? = some f ∧ f.device = d

/-- Every device that is not gone is looked after, unless a crash has ended the loop. -/
def Tended (v : View) : Prop :=
  v.loop.stage = .crashed ∨
    ∀ (d : DeviceId) (x : Device), v.devices[d]? = some x → x.IsGone ∨ v.Minds d

/-- Of two devices whose cameras are at odds one is gone. -/
def Apart (odds : CameraId → CameraId → Prop) (v : View) : Prop :=
  ∀ (d e : DeviceId) (x y : Device), v.devices[d]? = some x → v.devices[e]? = some y → d ≠ e →
    odds x.camera y.camera → x.IsGone ∨ y.IsGone

def KeepsClosed (v w : View) : Prop :=
  ∀ (d : DeviceId) (x y : Device), v.devices[d]? = some x → w.devices[d]? = some y →
    x.isManual = true → x.stream.state = .closed → y.stream.state = .closed

/-- Every device that the opener returned has a session. -/
def Returned (v : View) : Prop := ∀ c d, .deviceOpened c d ∈ v.deviceLines → ⟨c, d⟩ ∈ v.faces

section
variable {v w : View} {odds : CameraId → CameraId → Prop}

/-- Beside the loop each device goes on from where it was, and what is gone stays gone. -/
theorem Aside.device (h : v.Aside w) (keeps : v.KeepsClosed w) {d : DeviceId} {y : Device}
    (hy : w.devices[d]? = some y) :
    ∃ x, v.devices[d]? = some x ∧ y.camera = x.camera ∧ (x.IsGone → y.IsGone) := by
  obtain ⟨hd, -⟩ := List.getElem?_eq_some_iff.1 hy
  rw [h.length] at hd
  obtain ⟨x, hx⟩ : ∃ x, v.devices[d]? = some x := ⟨_, List.getElem?_eq_getElem hd⟩
  obtain ⟨z, hz, xz⟩ := h.devices d x hx
  obtain rfl : y = z := Option.some.inj (hy.symm.trans hz)
  exact ⟨x, hx, xz.camera, fun gone => gone.becomes xz (keeps d x y hx hy)⟩

theorem Tended.aside (h : v.Aside w) (keeps : v.KeepsClosed w) (hv : v.Tended) : w.Tended := by
  refine hv.imp (fun crashed => h.loop ▸ crashed) fun all d y hy => ?_
  obtain ⟨x, hx, -, gone⟩ := h.device keeps hy
  refine (all d x hx).imp gone fun minds => ?_
  simpa only [Minds, Covers, h.loop, h.faces] using minds

theorem Apart.start : ({} : View).Apart odds := by
  intro d e x y hx
  cases (List.getElem?_nil.symm.trans hx : none = some x)

theorem Apart.aside (h : v.Aside w) (keeps : v.KeepsClosed w) (hv : v.Apart odds) :
    w.Apart odds := by
  intro d e x y hx hy hde cameras
  obtain ⟨x₀, hx₀, same, gone⟩ := h.device keeps hx
  obtain ⟨y₀, hy₀, same', gone'⟩ := h.device keeps hy
  rw [same, same'] at cameras
  exact (hv d e x₀ y₀ hx₀ hy₀ hde cameras).imp gone gone'

/-- A device that the loop could not get is gone. -/
theorem gone_of_lost (hs : v.Sound) (lost : v.AcquiredIsLost) {d : DeviceId} {x : Device}
    (hd : v.loop.stage.acquired? = some d) (hx : v.devices[d]? = some x) : x.IsGone := by
  obtain ⟨h, hh⟩ : ∃ h, v.loop.stage.opens? = some h := by
    cases stage : v.loop.stage with
    | opening h call => exact ⟨h, rfl⟩
    | _ =>
      rw [stage] at hd
      cases hd
  obtain ⟨c, ho⟩ := hs.opening h hh
  obtain ⟨y, hy⟩ := hs.acquired d h c hd hh ho.camera
  obtain rfl : x = y := Option.some.inj (hx.symm.trans hy.there)
  have stuck := lost d x hd hx
  rcases hy.state with hs | hs
  · rw [hs] at stuck
    cases stuck
  · exact .inl hs

/-- While an open waits, the loop has not crashed. -/
theorem Tended.all (hs : v.Sound) (hv : v.Tended) {r : Request} {rest : List Request}
    (head : v.waiting = r :: rest) {d : DeviceId} {x : Device} (hx : v.devices[d]? = some x) :
    x.IsGone ∨ v.Minds d := by
  rcases hv with crashed | all
  · have ending : v.loop.stage.isEnding = true := by
      rw [crashed]
      rfl
    have none := (hs.ending ending).2.1
    rw [head] at none
    cases none
  · exact all d x hx

/-- When the opener is asked, every device that is not gone is that of an active session, for
another camera, and there is none if the open is exclusive. -/
theorem Asked.gone (hs : v.Sound) (hv : v.Tended) (lost : v.AcquiredIsLost)
    (left : v.loop.stage.left = []) {h : HandleId} {c : CameraId} (asked : v.Asked h c)
    {share : Bool} {rest : List Request} (head : v.waiting = .open h share :: rest)
    {d : DeviceId} {x : Device} (hx : v.devices[d]? = some x) :
    x.IsGone ∨ share = true ∧ x.camera ≠ c ∧
      ∃ i ∈ v.loop.active, v.faces[i]? = some ⟨x.camera, d⟩ := by
  rcases hv.all hs head hx with gone | acquired | ⟨i, f, covers, hf, rfl⟩
  · exact .inl gone
  · exact .inl (gone_of_lost hs lost acquired hx)
  · rcases covers with active | waited
    · right
      obtain ⟨y, hy, same, -⟩ := hs.faces f (List.mem_of_getElem? hf)
      obtain rfl : x = y := Option.some.inj (hx.symm.trans hy)
      refine ⟨?_, fun camera => ?_, i, active, by rw [hf, same]⟩
      · obtain ⟨share', rest', head', alone⟩ := asked.head
        rw [head] at head'
        cases head'
        cases share with
        | true => rfl
        | false =>
          rw [alone rfl] at active
          cases active
      · refine asked.free i active ?_
        simp [cameraOf, hf, ← same, camera]
    · rw [left] at waited
      cases waited

theorem of_getElem?_concat {α : Type} {l : List α} {d : Nat} {x y : α}
    (hy : (l ++ [x])[d]? = some y) : l[d]? = some y ∨ d = l.length ∧ y = x := by
  rcases Nat.lt_trichotomy d l.length with hd | rfl | hd
  · rw [List.getElem?_append_left hd] at hy
    exact .inl hy
  · rw [List.getElem?_concat_length] at hy
    exact .inr ⟨rfl, (Option.some.inj hy).symm⟩
  · rw [List.getElem?_eq_none (by simpa [Nat.succ_le_iff] using hd)] at hy
    cases hy

theorem of_getElem?_set {α : Type} {l : List α} {d e : Nat} {x y : α}
    (hy : (l.set d x)[e]? = some y) : l[e]? = some y ∨ e = d ∧ y = x := by
  by_cases hde : d = e
  · subst hde
    obtain ⟨-, rfl⟩ := List.getElem?_eq_some_iff.1 hy
    exact .inr ⟨rfl, by simp⟩
  · rw [List.getElem?_set_ne hde] at hy
    exact .inl hy

/-- When a session for a device becomes active, the loop minds this device as well. -/
theorem Minds.join (hs : v.Sound) {c : CameraId} {d e : DeviceId}
    (faces : w.faces = v.faces ++ [⟨c, d⟩])
    (active : w.loop.active = v.loop.active ++ [v.faces.length]) (left : v.loop.stage.left = [])
    (acquired : v.loop.stage.acquired? = some e → e = d) (he : v.Minds e ∨ e = d) :
    w.Minds e := by
  have new : w.Minds d := by
    refine .inr ⟨v.faces.length, ⟨c, d⟩, .inl ?_, ?_, rfl⟩
    · rw [active]
      exact List.mem_append_right _ List.mem_cons_self
    · rw [faces, List.getElem?_concat_length]
  rcases he with (same | ⟨i, f, hi | hi, hf, hd⟩) | rfl
  · rw [acquired same]
    exact new
  · refine .inr ⟨i, f, .inl ?_, ?_, hd⟩
    · rw [active]
      exact List.mem_append_left _ hi
    · rw [faces, List.getElem?_append_left (hs.active i hi)]
      exact hf
  · rw [left] at hi
    cases hi
  · exact new

theorem Tended.grows (hs : v.Sound) (alive : v.loop.stage ≠ .crashed) (h : v.Grows w)
    (hv : v.Tended) : w.Tended := by
  have all := hv.resolve_left alive
  cases h with
  | remains h =>
    refine h.covers.imp id fun covers d x hx => ?_
    rw [h.devices] at hx
    rcases all d x hx with gone | acquired | ⟨i, f, hi, hf, rfl⟩
    · exact .inl gone
    · rcases h.acquired with same | ⟨-, lost⟩
      · exact .inr (.inl (same.trans acquired))
      · exact .inl (gone_of_lost hs lost acquired hx)
    · rcases covers i hi with still | down
      · exact .inr (.inr ⟨i, f, still, h.faces ▸ hf, rfl⟩)
      · exact .inl (down f x hf hx)
  | «begin» asked lost left camera simulated state faces devices lines active acquired =>
    right
    intro d x hx
    rw [devices] at hx
    rcases of_getElem?_concat hx with hx | ⟨rfl, rfl⟩
    · obtain ⟨share, rest, head, -⟩ := asked.head
      rcases asked.gone hs hv lost left head hx with gone | ⟨-, -, i, hi, hf⟩
      · exact .inl gone
      · exact .inr (.inr ⟨i, _, .inl (active ▸ hi), faces ▸ hf, rfl⟩)
    · exact .inr (.inl acquired)
  | @simulated g c d z asked acquired acquires left up faces devices lines active stage =>
    right
    intro e x hx
    rw [devices] at hx
    have only : v.loop.stage.acquired? = some e → e = d := fun same =>
      Option.some.inj (same.symm.trans acquired)
    rcases of_getElem?_set hx with hx | ⟨rfl, rfl⟩
    · exact (all e x hx).imp id fun minds => .join hs faces active left only (.inl minds)
    · exact .inr (.join hs faces active left only (.inr rfl))
  | manual asked acquired left camera manual faces devices lines active stage =>
    right
    intro d x hx
    rw [devices] at hx
    have only : v.loop.stage.acquired? = some d → d = v.devices.length := fun same =>
      nomatch same.symm.trans acquired
    rcases of_getElem?_concat hx with hx | ⟨rfl, rfl⟩
    · exact (all d x hx).imp id fun minds => .join hs faces active left only (.inl minds)
    · exact .inr (.join hs faces active left only (.inr rfl))

/-- When the opener is asked for a camera, the devices at odds with it are gone. -/
def Clears (odds : CameraId → CameraId → Prop) (v : View) : Prop :=
  ∀ h c, v.Asked h c → v.AcquiredIsLost → v.loop.stage.left = [] →
    ∀ (d : DeviceId) (x : Device), v.devices[d]? = some x → odds x.camera c → x.IsGone

/-- An open that shares is at odds only with its own camera. -/
theorem Tended.clears (hs : v.Sound) (hv : v.Tended)
    (own : ∀ h rest, v.waiting = .open h true :: rest → ∀ c c', odds c c' → c = c') :
    v.Clears odds := by
  intro h c asked lost left d x hx cameras
  obtain ⟨share, rest, head, -⟩ := asked.head
  rcases asked.gone hs hv lost left head hx with gone | ⟨rfl, other, -⟩
  · exact gone
  · exact absurd (own h rest head _ _ cameras) other

theorem Apart.concat (symm : ∀ c c', odds c c' → odds c' c) {x : Device}
    (devices : w.devices = v.devices ++ [x])
    (clear : ∀ (d : DeviceId) (y : Device), v.devices[d]? = some y → odds y.camera x.camera →
      y.IsGone) (hv : v.Apart odds) : w.Apart odds := by
  intro d e y z hy hz hde cameras
  rw [devices] at hy hz
  rcases of_getElem?_concat hy with oldY | ⟨rfl, rfl⟩
  · rcases of_getElem?_concat hz with oldZ | ⟨rfl, rfl⟩
    · exact hv d e y z oldY oldZ hde cameras
    · exact .inl (clear d y oldY cameras)
  · rcases of_getElem?_concat hz with oldZ | ⟨rfl, rfl⟩
    · exact .inr (clear e z oldZ (symm _ _ cameras))
    · exact absurd rfl hde

theorem Apart.grows (symm : ∀ c c', odds c c' → odds c' c) (clear : v.Clears odds)
    (h : v.Grows w) (hv : v.Apart odds) : w.Apart odds := by
  cases h with
  | remains h =>
    unfold Apart
    rw [h.devices]
    exact hv
  | «begin» asked lost left camera simulated state faces devices lines active acquired =>
    exact hv.concat symm devices fun d y hy cameras =>
      clear _ _ asked lost left d y hy (camera ▸ cameras)
  | @simulated g c d x asked acquired acquires left up faces devices lines active stage =>
    -- The device is not gone while it can be opened, so those at odds with it are.
    have here : ¬x.IsGone := by
      rintro (closed | ⟨manual, -⟩)
      · rw [closed] at up
        cases up
      · rw [acquires.simulated] at manual
        cases manual
    intro e e' y z hy hz hne cameras
    rw [devices] at hy hz
    rcases of_getElem?_set hy with oldY | ⟨rfl, rfl⟩
    · rcases of_getElem?_set hz with oldZ | ⟨rfl, rfl⟩
      · exact hv e e' y z oldY oldZ hne cameras
      · exact .inl ((hv e e' y x oldY acquires.there hne cameras).resolve_right here)
    · rcases of_getElem?_set hz with oldZ | ⟨rfl, rfl⟩
      · exact .inr ((hv e e' x z acquires.there oldZ hne cameras).resolve_left here)
      · exact absurd rfl hne
  | manual asked acquired left camera manual faces devices lines active stage =>
    refine hv.concat symm devices fun d y hy cameras =>
      clear _ _ asked (fun e x he => ?_) left d y hy (camera ▸ cameras)
    cases he.symm.trans acquired

theorem Returned.aside (h : v.Aside w) (hv : v.Returned) : w.Returned := by
  intro c d opened
  obtain ⟨new, lines, none⟩ := h.lines
  rw [lines] at opened
  rw [h.faces]
  exact hv c d ((List.mem_append.1 opened).resolve_left (none c d))

theorem Returned.grows (h : v.Grows w) (hv : v.Returned) : w.Returned := by
  have joined : ∀ {c d} {lines : List Event}, w.faces = v.faces ++ [⟨c, d⟩] →
      w.deviceLines = .deviceOpened c d :: lines →
      (∀ c' e, .deviceOpened c' e ∈ lines → ⟨c', e⟩ ∈ v.faces) → w.Returned := by
    intro c d more faces lines old c' e opened
    rw [lines] at opened
    rw [faces]
    rcases List.mem_cons.1 opened with same | opened
    · cases same
      exact List.mem_append_right _ List.mem_cons_self
    · exact List.mem_append_left _ (old c' e opened)
  cases h with
  | remains h =>
    intro c d opened
    exact h.faces ▸ hv c d (h.lines ▸ opened)
  | «begin» asked lost left camera simulated state faces devices lines active acquired =>
    intro c d opened
    exact faces ▸ hv c d (lines ▸ opened)
  | simulated asked acquired acquires left up faces devices lines active stage =>
    refine joined faces lines fun c' e opened => hv c' e ?_
    exact (List.mem_cons.1 opened).resolve_left nofun
  | manual asked acquired left camera manual faces devices lines active stage =>
    exact joined faces lines hv

end

end View

namespace Broker
variable {b : Broker}

theorem KeepsClosed.view {a : Action} (keeps : KeepsClosed b a) :
    b.view.KeepsClosed (b.step a).view := by
  intro d x y hx hy manual
  have both : (x, y) ∈ b.hw.devices.zip (b.step a).hw.devices :=
    List.mem_of_getElem? (i := d) (List.getElem?_zip_eq_some.2 ⟨hx, hy⟩)
  exact keeps (x, y) both manual

theorem ReachableBy.tended (hr : ReachableBy KeepsClosed b) : b.view.Tended := by
  refine hr.invariant (P := fun b => b.view.Tended) (fun s => ?_) fun b a hb keeps hv => ?_
  · rw [view_start]
    exact .inr nofun
  · rcases hb.reachable.aside_or_grows a with aside | ⟨alive, grows⟩
    · exact hv.aside aside keeps.view
    · exact hv.grows hb.reachable.sound alive grows

/-- No camera has two devices that are not gone. -/
theorem ReachableBy.apart (hr : ReachableBy KeepsClosed b) :
    b.view.Apart fun c c' => c = c' := by
  refine hr.invariant (P := fun b => b.view.Apart fun c c' => c = c') (fun s => ?_)
    fun b a hb keeps hv => ?_
  · rw [view_start]
    exact .start
  · rcases hb.reachable.aside_or_grows a with aside | ⟨-, grows⟩
    · exact hv.aside aside keeps.view
    · refine hv.grows (fun _ _ => Eq.symm) (hb.tended.clears hb.reachable.sound ?_) grows
      exact fun _ _ _ _ _ => id

def IsExclusive (b : Broker) : Prop := ∀ h share, .open h share ∈ b.acceptedRequests → share = false

theorem Reachable.acceptedRequests_step (hr : Reachable b) (a : Action) :
    b.acceptedRequests <+: (b.step a).acceptedRequests := by
  obtain ⟨new, same, -⟩ := hr.news a
  have same : (b.step a).view.milestones = new ++ b.view.milestones := same
  rw [← view_accepted, ← view_accepted, View.accepted, View.accepted, same,
    List.filterMap_append, List.reverse_append]
  exact List.prefix_append _ _

/-- If every open is exclusive there are no two devices that are not gone. -/
theorem ReachableBy.alone (hr : ReachableBy KeepsClosed b) (exclusive : b.IsExclusive) :
    b.view.Apart fun _ _ => True := by
  revert exclusive
  refine hr.invariant (P := fun b => b.IsExclusive → b.view.Apart fun _ _ => True) (fun s _ => ?_)
    fun b a hb keeps hv exclusive => ?_
  · rw [view_start]
    exact .start
  · have before : b.IsExclusive := fun h share accepted =>
      exclusive h share ((hb.reachable.acceptedRequests_step a).subset accepted)
    rcases hb.reachable.aside_or_grows a with aside | ⟨-, grows⟩
    · exact (hv before).aside aside keeps.view
    · refine (hv before).grows (fun _ _ => id) (hb.tended.clears hb.reachable.sound ?_) grows
      intro h rest head
      obtain ⟨⟨lost, -, perm⟩, -⟩ := hb.reachable.perm_accepted
      have waits : .open h true ∈ b.waiting := by
        rw [← view_waiting, head]
        exact List.mem_cons_self
      have accepted : .open h true ∈ b.acceptedRequests :=
        perm.mem_iff.1 (List.mem_append_left _ (List.mem_append_right _ waits))
      cases before h true accepted

theorem Reachable.returned (hr : Reachable b) : b.view.Returned := by
  refine hr.invariant (P := fun b => b.view.Returned) (fun s => ?_) fun b a hb hv => ?_
  · rw [view_start]
    exact nofun
  · rcases hb.aside_or_grows a with aside | ⟨-, grows⟩
    · exact hv.aside aside
    · exact hv.grows grows

theorem Reachable.device_of_opened (hr : Reachable b) {c : CameraId} {d : DeviceId}
    (opened : .deviceOpened c d ∈ b.hw.history) : ∃ x, b.hw.devices[d]? = some x := by
  have line : .deviceOpened c d ∈ b.view.deviceLines := by
    simp [View.deviceLines, view, Hardware.milestones, opened, Event.isMilestone,
      Event.isDeviceLine]
  obtain ⟨x, hx, -⟩ := hr.sound.faces _ (hr.returned c d line)
  exact ⟨x, hx⟩

/-- Every device that the opener returned is gone, or it is that of an active session, for another
camera, and the open shares. -/
def MakesWay (b : Broker) (c : CameraId) (share : Bool) : Prop :=
  ∀ c' d, .deviceOpened c' d ∈ b.hw.history → ∃ x, b.hw.devices[d]? = some x ∧
    (x.IsGone ∨ share = true ∧ x.camera ≠ c ∧ ∃ i ∈ b.loop.active, ∃ s, b.sessions[i]? = some s ∧
      s.device = d ∧ s.camera = x.camera)

theorem ReachableBy.makesWay (hr : ReachableBy KeepsClosed b) {h : HandleId} {c : CameraId}
    (stage : b.loop.stage = .reading) (asked : b.view.Asked h c) {share : Bool}
    {rest : List Request} (head : b.waiting = .open h share :: rest) : b.MakesWay c share := by
  intro c' d opened
  have hs := hr.reachable.sound
  obtain ⟨x, hx⟩ := hr.reachable.device_of_opened opened
  refine ⟨x, hx, ?_⟩
  have left : b.view.loop.stage.left = [] := congrArg LoopStage.left stage
  have lost : b.view.AcquiredIsLost :=
    View.acquiredIsLost_of_none (congrArg LoopStage.acquired? stage)
  rcases asked.gone hs hr.tended lost left head hx with gone | ⟨shares, other, i, active, hf⟩
  · exact .inl gone
  · obtain ⟨s, hi, face⟩ : ∃ s, b.sessions[i]? = some s ∧ s.face = ⟨x.camera, d⟩ := by
      simpa [view] using hf
    exact .inr ⟨shares, other, i, active, s, hi, congrArg Face.device face,
      congrArg Face.camera face⟩

/-- Whenever the loop asks the opener for a camera, it does so for its oldest request, and every
device has made way for it. No camera has two devices that are not gone, and if every open is
exclusive there are no two such devices at all. -/
theorem teardown_before_open (hr : ReachableBy KeepsClosed b) :
    (∀ a, ∃ new, (b.step a).hw.milestones = new ++ b.hw.milestones ∧
      ∀ c h, .openerAsked c h ∈ new → ∃ share rest, b.waiting = .open h share :: rest ∧
        (∃ x, b.handles[h]? = some x ∧ x.camera = c) ∧ b.MakesWay c share) ∧
    (∀ (d e : DeviceId) (x y : Device), b.hw.devices[d]? = some x → b.hw.devices[e]? = some y →
      d ≠ e → x.camera = y.camera → x.IsGone ∨ y.IsGone) ∧
    (b.IsExclusive → ∀ (d e : DeviceId) (x y : Device), b.hw.devices[d]? = some x →
      b.hw.devices[e]? = some y → d ≠ e → x.IsGone ∨ y.IsGone) := by
  refine ⟨fun a => ?_, hr.apart, fun exclusive d e x y hx hy hde => ?_⟩
  · obtain ⟨new, same, news⟩ := hr.reachable.news a
    refine ⟨new, same, fun c h told => ?_⟩
    obtain ⟨stage, asked⟩ := news.opener c h told
    obtain ⟨share, rest, head, -⟩ := asked.head
    refine ⟨share, rest, head, ?_, hr.makesWay stage asked head⟩
    simpa [view] using asked.camera
  · exact hr.alone exclusive d e x y hx hy hde trivial

def nextOpen : Broker :=
  byHand ([.turn .loop, .open front true, .open back true] ++ List.replicate 3 (.turn .loop))

theorem teardown_before_open_next :
    .openerAsked back 1 ∈ (nextOpen.step (.turn .loop)).hw.milestones ∧
      nextOpen.MakesWay back true := by
  have hr : ReachableBy KeepsClosed nextOpen := ⟨_, _, by decide, rfl⟩
  have told : .openerAsked back 1 ∈ (nextOpen.step (.turn .loop)).hw.milestones := by decide
  obtain ⟨asked, -⟩ := teardown_before_open hr
  obtain ⟨new, same, way⟩ := asked (.turn .loop)
  have old : .openerAsked back 1 ∉ nextOpen.hw.milestones := by decide
  rw [same] at told
  have fresh := (List.mem_append.1 told).resolve_right old
  obtain ⟨share, rest, head, -, makes⟩ := way back 1 fresh
  have next : nextOpen.waiting = [.open 1 true] := by decide
  rw [next] at head
  cases head
  exact ⟨same ▸ told, makes⟩

end Broker

end CameraBroker
