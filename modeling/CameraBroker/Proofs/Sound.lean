import CameraBroker.Proofs.Background
import CameraBroker.Proofs.LoopTurn

/-! What is true of the loop and its sessions in every reachable state, whatever the devices do:
names are names of something, no two active sessions have the same camera, and an open under way
is the oldest request and finds no session of its camera. -/
namespace CameraBroker.View

def Names (v : View) : Request → Prop
  | .open h _ => h < v.wanted.length
  | .close i => i < v.faces.length
  | .closeAll => True

/-- The opener is asked for a camera. The open is the oldest request, the camera has no active
session, and no camera has one if the open is exclusive. -/
structure Opening (v : View) (h : HandleId) (c : CameraId) : Prop where
  camera : v.wanted[h]? = some c
  head : ∃ share rest, v.loop.pending = .open h share :: rest ∧
    (share = false → v.loop.active = [])
  free : ∀ i ∈ v.loop.active, v.cameraOf i ≠ some c

structure Acquires (v : View) (d : DeviceId) (c : CameraId) (x : Device) : Prop where
  there : v.devices[d]? = some x
  camera : x.camera = c
  simulated : x.isManual = false
  state : x.stream.state = .opening ∨ x.stream.state = .closed
  fresh : ∀ f ∈ v.faces, f.device ≠ d

structure Sound (v : View) : Prop where
  named : ∀ r ∈ v.waiting, v.Names r
  ties : v.ties.length = v.faces.length
  active : ∀ i ∈ v.loop.active, i < v.faces.length
  distinct : v.loop.active.Pairwise fun i j => v.cameraOf i ≠ v.cameraOf j
  closes : ∀ c ∈ v.closes, c.session < v.faces.length ∧ c.session ∉ v.loop.active
  faces : ∀ f ∈ v.faces, ∃ x, v.devices[f.device]? = some x ∧ x.camera = f.camera ∧
    (x.isManual = false → DeviceState.open.rank ≤ x.stream.state.rank)
  release : ∀ x ∈ v.devices, x.ReleaseFits
  opening : ∀ h, v.loop.stage.opens? = some h → ∃ c, v.Opening h c
  acquired : ∀ d h c, v.loop.stage.acquired? = some d → v.loop.stage.opens? = some h →
    v.wanted[h]? = some c → ∃ x, v.Acquires d c x
  left : ∀ sessions left after, v.loop.stage = .closing sessions left after → left ⊆ sessions
  ending : v.loop.stage.isEnding = true → v.loop.active = [] ∧ v.waiting = [] ∧
    (v.inbox.reader ≠ .open ∨ v.inbox.producers = 0)
  halted : v.loop.stage = .stopped ∨ v.loop.stage = .crashed → v.inbox.reader = .gone

theorem Sound.devicesFit {v : View} (hv : v.Sound) : v.DevicesFit := by
  refine ⟨hv.release, fun f hf x hx hm => ?_⟩
  obtain ⟨y, hy, -, opened⟩ := hv.faces f hf
  obtain rfl : x = y := Option.some.inj (hx.symm.trans hy)
  exact opened hm

section Moves
variable {v w : View}

theorem Sound.opening_of (hv : v.Sound) (loop : w.loop = v.loop) (wanted : w.wanted = v.wanted)
    (faces : w.faces = v.faces) (h : HandleId) (hh : w.loop.stage.opens? = some h) :
    ∃ c, w.Opening h c := by
  obtain ⟨c, ho⟩ := hv.opening h (loop ▸ hh)
  refine ⟨c, wanted ▸ ho.camera, loop ▸ ho.head, fun i hi => ?_⟩
  rw [cameraOf_of_faces faces]
  exact ho.free i (loop ▸ hi)

theorem Sound.acquired_of (hv : v.Sound) (loop : w.loop = v.loop) (wanted : w.wanted = v.wanted)
    (faces : w.faces = v.faces) (devices : w.devices = v.devices) (d : DeviceId) (h : HandleId)
    (c : CameraId) (hd : w.loop.stage.acquired? = some d) (hh : w.loop.stage.opens? = some h)
    (hc : w.wanted[h]? = some c) : ∃ x, w.Acquires d c x := by
  obtain ⟨x, hx⟩ := hv.acquired d h c (loop ▸ hd) (loop ▸ hh) (wanted ▸ hc)
  exact ⟨x, devices ▸ hx.there, hx.camera, hx.simulated, hx.state, faces ▸ hx.fresh⟩

theorem lt_of_opening {h : HandleId} {c : CameraId} (ho : v.Opening h c) : h < v.wanted.length :=
  (List.getElem?_eq_some_iff.1 ho.camera).1

theorem Names.addHandle {r : Request} (h : v.Names r) (c : CameraId) : (v.addHandle c).Names r := by
  cases r with
  | «open» g share =>
    have h : g < v.wanted.length := h
    simp [Names, View.addHandle, Nat.lt_succ_of_lt h]
  | close i => exact h
  | closeAll => trivial

theorem Opening.addHandle {h : HandleId} {c : CameraId} (ho : v.Opening h c) (c' : CameraId) :
    (v.addHandle c').Opening h c := by
  refine ⟨?_, ho.head, ho.free⟩
  have hlt := lt_of_opening ho
  simpa [View.addHandle, List.getElem?_append_left hlt] using ho.camera

theorem Sound.addHandle (hv : v.Sound) (c : CameraId) : (v.addHandle c).Sound := by
  refine { hv with
    named := fun r hr => (hv.named r hr).addHandle c
    opening := fun h hh => ?_
    acquired := fun d h c' hd hh hc => ?_ }
  · obtain ⟨c', ho⟩ := hv.opening h hh
    exact ⟨c', ho.addHandle c⟩
  · obtain ⟨c₀, ho⟩ := hv.opening h hh
    obtain rfl : c₀ = c' := Option.some.inj ((ho.addHandle c).camera.symm.trans hc)
    obtain ⟨x, hx⟩ := hv.acquired d h c₀ hd hh ho.camera
    exact ⟨x, hx.there, hx.camera, hx.simulated, hx.state, hx.fresh⟩

theorem Sound.arrive (hv : v.Sound) {r : Request} (room : v.HasRoom) (hr : v.Names r) :
    (v.arrive r).Sound := by
  refine { hv with
    named := fun q hq => ?_
    opening := hv.opening_of rfl rfl rfl
    acquired := hv.acquired_of rfl rfl rfl rfl
    ending := fun he => ?_ }
  · have same : (v.arrive r).waiting = v.waiting ++ [r] := by
      simp [waiting, View.arrive, note]
    rw [same, List.mem_append, List.mem_singleton] at hq
    rcases hq with hq | rfl
    · exact hv.named q hq
    · exact hr
  · obtain ⟨-, -, closed⟩ := hv.ending he
    rcases closed with closed | left
    · exact absurd room.1 closed
    · exact absurd left room.2.1

/-- Where a device has changed, the new one is a later state of the old one. -/
theorem getElem?_set_becomes {devices : List Device} {d e : DeviceId} {x y z : Device}
    (hx : devices[d]? = some x) (xy : x.Becomes y) (hz : devices[e]? = some z) :
    ∃ z', (devices.set d y)[e]? = some z' ∧ z.Becomes z' := by
  by_cases hde : d = e
  · subst hde
    obtain rfl : x = z := Option.some.inj (hx.symm.trans hz)
    obtain ⟨hd, -⟩ := List.getElem?_eq_some_iff.1 hx
    exact ⟨y, by simp [hd], xy⟩
  · exact ⟨z, by rw [List.getElem?_set_ne hde, hz], .refl z⟩

theorem Acquires.becomes {d : DeviceId} {c : CameraId} {x y : Device} (h : v.Acquires d c x)
    (xy : x.Becomes y) (hy : w.devices[d]? = some y) (faces : w.faces = v.faces) :
    w.Acquires d c y := by
  refine ⟨hy, xy.camera.trans h.camera, xy.isManual.trans h.simulated, ?_, faces ▸ h.fresh⟩
  rcases xy.state h.simulated with same | ⟨opened, -⟩ | closed
  · rw [same]
    exact h.state
  · rcases h.state with hs | hs
    · rw [hs] at opened
      cases opened
    · rw [hs] at opened
      cases opened
  · exact .inr closed

theorem Sound.device (hv : v.Sound) {d : DeviceId} {x y : Device} (hx : v.devices[d]? = some x)
    (xy : x.Becomes y) (milestones : List Event) :
    Sound { v with devices := v.devices.set d y, milestones } := by
  refine { hv with
    faces := fun f hf => ?_
    release := fun z hz => ?_
    opening := hv.opening_of rfl rfl rfl
    acquired := fun e h c hd hh hc => ?_ }
  · obtain ⟨z, hz, camera, opened⟩ := hv.faces f hf
    obtain ⟨z', hz', zz'⟩ := getElem?_set_becomes hx xy hz
    refine ⟨z', hz', zz'.camera.trans camera, fun hm => ?_⟩
    have hm : z.isManual = false := zz'.isManual.symm.trans hm
    exact Nat.le_trans (opened hm) (zz'.forward hm)
  · rcases List.mem_or_eq_of_mem_set hz with hz | rfl
    · exact hv.release z hz
    · exact xy.release (hv.release x (List.mem_of_getElem? hx))
  · obtain ⟨z, hz⟩ := hv.acquired e h c hd hh hc
    obtain ⟨z', hz', zz'⟩ := getElem?_set_becomes hx xy hz.there
    exact ⟨z', hz.becomes zz' hz' rfl⟩

theorem Sound.shut (hv : v.Sound) (i : SessionId) : (v.shut i).Sound :=
  { hv with
    ties := by simpa [View.shut] using hv.ties
    opening := hv.opening_of rfl rfl rfl
    acquired := hv.acquired_of rfl rfl rfl rfl }

theorem session_of_mem_modify {closes : List SessionClose} {k : Nat} {stage : CloseStage}
    {c : SessionClose} (h : c ∈ closes.modify k fun c => { c with stage }) :
    ∃ c' ∈ closes, c'.session = c.session := by
  obtain ⟨j, hj⟩ := List.mem_iff_getElem?.1 h
  by_cases hkj : k = j
  · obtain ⟨c', hc', rfl⟩ : ∃ c', closes[j]? = some c' ∧ { c' with stage } = c := by
      simpa [hkj] using hj
    exact ⟨c', List.mem_of_getElem? hc', rfl⟩
  · exact ⟨c, List.mem_of_getElem? (by simpa [hkj] using hj), rfl⟩

theorem Sound.setCloseStage (hv : v.Sound) (k : Nat) (stage : CloseStage) :
    (v.setCloseStage k stage).Sound := by
  refine { hv with
    closes := fun c hc => ?_
    opening := hv.opening_of rfl rfl rfl
    acquired := hv.acquired_of rfl rfl rfl rfl }
  · obtain ⟨c', hc', same⟩ := session_of_mem_modify hc
    exact same ▸ hv.closes c' hc'

theorem Sound.leave (hv : v.Sound) : Sound { v with inbox := v.inbox.dropProducer } := by
  refine { hv with
    opening := hv.opening_of rfl rfl rfl
    acquired := hv.acquired_of rfl rfl rfl rfl
    ending := fun he => ?_ }
  · obtain ⟨active, waiting, closed⟩ := hv.ending he
    exact ⟨active, waiting, closed.imp id fun h => by simp [Inbox.dropProducer, h]⟩

theorem Sound.background {kept : HandleId → Prop} (hv : v.Sound) (h : Background kept v w) :
    w.Sound := by
  cases h with
  | device hx xy => exact hv.device hx xy _
  | refusedOpen c => exact hv.addHandle c
  | «open» c share room =>
    have names : (v.addHandle c).Names (.open v.wanted.length share) := by
      simp [Names, View.addHandle]
    exact (hv.addHandle c).arrive room names
  | close hi room => exact hv.arrive room hi
  | closeAll room => exact hv.arrive room trivial
  | leave => exact hv.leave
  | beginClose hk hs gone => exact (hv.shut _).setCloseStage _ _
  | endClose hk hc => exact hv.setCloseStage _ _

end Moves

/-! A turn of the loop. -/

section Turns
variable {v w : View}

theorem Sound.note (hv : v.Sound) (e : Event) : (v.note e).Sound :=
  { hv with
    opening := hv.opening_of rfl rfl rfl
    acquired := hv.acquired_of rfl rfl rfl rfl }

theorem Sound.service (hv : v.Sound) (rs : List Request) : (v.service rs).Sound := by
  induction rs generalizing v with
  | nil => exact hv
  | cons r rs ih =>
    rw [service_cons]
    exact ih (hv.note _)

/-- The loop reads on. -/
theorem Sound.read (hv : v.Sound) : (v.setStage .reading).Sound :=
  { hv with
    opening := nofun
    acquired := nofun
    left := nofun
    ending := nofun
    halted := by rintro (h | h) <;> cases h }

/-- The loop has emptied its inbox and keeps some of the requests. -/
theorem Sound.take (hv : v.Sound) (stage : v.loop.stage = .reading) {rest : List Request}
    (sub : rest ⊆ v.waiting) : (v.take rest).Sound := by
  have reading : (v.take rest).loop.stage = .reading := stage
  refine { hv with
    named := fun r hr => ?_
    opening := fun h hh => ?_
    acquired := fun d h c hd hh hc => ?_
    ending := fun he => ?_ }
  · have hr : r ∈ rest := by simpa [waiting, View.take, View.setPending, View.setLoop] using hr
    exact hv.named r (sub hr)
  · rw [reading] at hh
    cases hh
  · rw [reading] at hd
    cases hd
  · rw [reading] at he
    cases he

theorem Sound.popHead (hv : v.Sound) : (v.popHead.setStage .reading).Sound := by
  unfold View.popHead
  split
  · exact hv.read
  · rename_i r rest pending
    refine { hv with
      named := fun q hq => ?_
      opening := nofun
      acquired := nofun
      left := nofun
      ending := nofun
      halted := by rintro (h | h) <;> cases h }
    have mem : q ∈ v.waiting := by
      simp only [waiting, pending]
      exact List.mem_cons_of_mem _ hq
    exact hv.named q mem

theorem Sound.bind (hv : v.Sound) (i : SessionId) (h : HandleId) : (v.bind i h).Sound :=
  { hv with
    ties := by simpa [View.bind] using hv.ties
    opening := hv.opening_of rfl rfl rfl
    acquired := hv.acquired_of rfl rfl rfl rfl }

theorem Sound.setActive (hv : v.Sound) (idle : v.loop.stage.opens? = none)
    {active : List SessionId} (sub : active.Sublist v.loop.active) :
    (v.setActive active).Sound := by
  have none : (v.setActive active).loop.stage.opens? = none := idle
  refine { hv with
    active := fun i hi => hv.active i (sub.subset hi)
    distinct := hv.distinct.sublist sub
    closes := fun c hc => ⟨(hv.closes c hc).1, fun hi => (hv.closes c hc).2 (sub.subset hi)⟩
    opening := fun h hh => ?_
    acquired := fun d h c hd hh hc => ?_
    ending := fun he => ?_ }
  · rw [none] at hh
    cases hh
  · rw [none] at hh
    cases hh
  · obtain ⟨empty, rest⟩ := hv.ending he
    rw [empty] at sub
    exact ⟨List.sublist_nil.1 sub, rest⟩

theorem Sound.startCloses (hv : v.Sound) {sessions : List SessionId}
    (old : ∀ i ∈ sessions, i < v.faces.length ∧ i ∉ v.loop.active) :
    (v.startCloses sessions).Sound := by
  refine { hv with
    closes := fun c hc => ?_
    opening := hv.opening_of rfl rfl rfl
    acquired := hv.acquired_of rfl rfl rfl rfl }
  simp only [View.startCloses, List.mem_append, List.mem_map] at hc
  rcases hc with hc | ⟨i, hi, rfl⟩
  · exact hv.closes c hc
  · exact old i hi

/-- The loop waits for sessions, or goes on at once. -/
theorem Sound.await (hv : v.Sound) {sessions left : List SessionId} {after : AfterClose}
    (sub : left ⊆ sessions) (stop : after = .stop → v.loop.active = [] ∧ v.waiting = [] ∧
      (v.inbox.reader ≠ .open ∨ v.inbox.producers = 0)) :
    (v.await sessions left after).Sound := by
  have stage : (v.await sessions left after).loop.stage = .afterWait sessions left after := rfl
  have waits : (v.await sessions left after).waiting ⊆ v.waiting := by
    intro r hr
    simp only [waiting, View.await, View.setStage, View.setLoop, List.mem_append] at hr ⊢
    refine hr.imp id fun hr => ?_
    split at hr
    · cases hr
    · exact hr
  refine { hv with
    named := fun r hr => hv.named r (waits hr)
    opening := fun h hh => ?_
    acquired := fun d h c hd hh hc => ?_
    left := fun a b c h => ?_
    ending := fun he => ?_
    halted := fun h => ?_ }
  · rw [stage, LoopStage.opens?_afterWait] at hh
    cases hh
  · rw [stage, LoopStage.opens?_afterWait] at hh
    cases hh
  · rw [stage] at h
    obtain ⟨rfl, rfl⟩ := LoopStage.of_afterWait_eq_closing h
    exact sub
  · rw [stage, LoopStage.isEnding_afterWait] at he
    obtain ⟨active, waiting, closed⟩ := stop (of_decide_eq_true he)
    refine ⟨active, List.eq_nil_iff_forall_not_mem.2 fun r hr => ?_, ?_⟩
    · have hr := waits hr
      rw [waiting] at hr
      cases hr
    · by_cases h : left = [] ∧ after = .stop
      · exact .inl (by simp [View.await, View.setStage, View.setLoop, h, Inbox.dropReader])
      · simpa [View.await, View.setStage, View.setLoop, h] using closed
  · rw [stage] at h
    rcases h with h | h
    · have h := LoopStage.of_afterWait_eq_stopped h
      simp [View.await, View.setStage, View.setLoop, h, Inbox.dropReader]
    · exact absurd h (LoopStage.afterWait_ne_crashed _ _ _)

/-- A loop that reads closes sessions that are no longer active. -/
theorem Sound.retire (hv : v.Sound) (stage : v.loop.stage = .reading)
    {sessions active left : List SessionId} {after : AfterClose}
    (sub : active.Sublist v.loop.active)
    (old : ∀ i ∈ sessions, i < v.faces.length ∧ i ∉ active) (leaves : left ⊆ sessions)
    (stop : after = .stop → active = [] ∧ v.waiting = [] ∧ v.inbox.producers = 0) :
    (v.retire sessions active left after).Sound := by
  have idle : v.loop.stage.opens? = none := by
    rw [stage]
    rfl
  have closing : ((v.setActive active).startCloses sessions).Sound :=
    (hv.setActive idle sub).startCloses old
  refine closing.await leaves fun h => ?_
  obtain ⟨active, waiting, noClient⟩ := stop h
  exact ⟨active, waiting, .inr noClient⟩

theorem Sound.addDevice (hv : v.Sound) {x : Device} (release : x.release = .none) :
    (v.setDevices (v.devices ++ [x])).Sound := by
  have old : ∀ (d : DeviceId) (y : Device), v.devices[d]? = some y →
      (v.devices ++ [x])[d]? = some y := by
    intro d y hy
    obtain ⟨hd, -⟩ := List.getElem?_eq_some_iff.1 hy
    rw [List.getElem?_append_left hd, hy]
  refine { hv with
    faces := fun f hf => ?_
    release := fun y hy => ?_
    opening := hv.opening_of rfl rfl rfl
    acquired := fun d h c hd hh hc => ?_ }
  · obtain ⟨y, hy, camera, opened⟩ := hv.faces f hf
    exact ⟨y, old _ y hy, camera, opened⟩
  · rcases List.mem_append.1 hy with hy | hy
    · exact hv.release y hy
    · obtain rfl := List.mem_singleton.1 hy
      exact fun h => absurd release h
  · obtain ⟨y, hy⟩ := hv.acquired d h c hd hh hc
    exact ⟨y, old d y hy.there, hy.camera, hy.simulated, hy.state, hy.fresh⟩

/-- The device of an open that nobody waits for any more opens. -/
theorem Sound.openDevice (hv : v.Sound) (idle : v.loop.stage.opens? = none) {d : DeviceId}
    {x : Device} (hx : v.devices[d]? = some x) (up : x.stream.state.canAdvanceTo .open = true) :
    (v.setDevices (v.devices.set d x.opened)).Sound := by
  have none : (v.setDevices (v.devices.set d x.opened)).loop.stage.opens? = none := idle
  obtain ⟨hd, -⟩ := List.getElem?_eq_some_iff.1 hx
  refine { hv with
    faces := fun f hf => ?_
    release := fun y hy => ?_
    opening := hv.opening_of rfl rfl rfl
    acquired := fun e h c hd hh hc => ?_ }
  · obtain ⟨y, hy, camera, opened⟩ := hv.faces f hf
    by_cases hdf : d = f.device
    · subst hdf
      obtain rfl : x = y := Option.some.inj (hx.symm.trans hy)
      exact ⟨x.opened, by simp [View.setDevices, hd], camera, fun _ => Nat.le_refl _⟩
    · exact ⟨y, by simp [View.setDevices, List.getElem?_set_ne hdf, hy], camera, opened⟩
  · rcases List.mem_or_eq_of_mem_set hy with hy | rfl
    · exact hv.release y hy
    · intro hne
      have down := (hv.release x (List.mem_of_getElem? hx) hne).2
      cases hs : x.stream.state <;>
        simp [hs, DeviceState.isTearingDown, DeviceState.canAdvanceTo, DeviceState.rank] at down up
  · rw [none] at hh
    cases hh

/-- A session for a device joins the active ones, none of which has its camera. -/
theorem Sound.join (hv : v.Sound) (asked : CameraId) {c : CameraId} {d : DeviceId} {x : Device}
    (free : ∀ i ∈ v.loop.active, v.cameraOf i ≠ some c) (hx : v.devices[d]? = some x)
    (camera : x.camera = c)
    (opened : x.isManual = false → DeviceState.open.rank ≤ x.stream.state.rank) :
    (v.join asked c d).Sound := by
  have length : (v.join asked c d).faces.length = v.faces.length + 1 := by
    simp [View.join]
  have old : ∀ i, i < v.faces.length → (v.join asked c d).cameraOf i = v.cameraOf i := by
    intro i hi
    simp [cameraOf, View.join, List.getElem?_append_left hi]
  have new : (v.join asked c d).cameraOf v.faces.length = some c := by
    simp [cameraOf, View.join]
  refine { hv with
    named := fun r hr => ?_
    ties := by simp [View.join, hv.ties]
    active := fun i hi => ?_
    distinct := ?_
    closes := fun k hk => ?_
    faces := fun f hf => ?_
    opening := fun h hh => by cases hh
    acquired := fun e h c' he => by cases he
    left := fun _ _ _ h => by cases h
    ending := fun h => by cases h
    halted := by rintro (h | h) <;> cases h }
  · have names := hv.named r hr
    cases r with
    | «open» h share => exact names
    | close i =>
      have hi : i < v.faces.length + 1 := Nat.lt_succ_of_lt names
      exact Nat.lt_of_lt_of_eq hi length.symm
    | closeAll => trivial
  · rw [length]
    rcases List.mem_append.1 hi with hi | hi
    · exact Nat.lt_succ_of_lt (hv.active i hi)
    · exact List.mem_singleton.1 hi ▸ Nat.lt_succ_self _
  · refine List.pairwise_append.2 ⟨?_, List.pairwise_singleton _ _, fun i hi j hj => ?_⟩
    · refine hv.distinct.imp_of_mem fun hi hj hij => ?_
      rwa [old _ (hv.active _ hi), old _ (hv.active _ hj)]
    · rw [List.mem_singleton.1 hj, old i (hv.active i hi)]
      exact fun h => free i hi (h.trans new)
  · obtain ⟨hlt, hout⟩ := hv.closes k hk
    refine ⟨length ▸ Nat.lt_succ_of_lt hlt, fun hi => ?_⟩
    rcases List.mem_append.1 hi with hi | hi
    · exact hout hi
    · exact absurd (List.mem_singleton.1 hi) (Nat.ne_of_lt hlt)
  · rcases List.mem_append.1 hf with hf | hf
    · exact hv.faces f hf
    · obtain rfl := List.mem_singleton.1 hf
      exact ⟨x, hx, camera, opened⟩

/-- The opener goes to work. -/
theorem Sound.setOpening (hv : v.Sound) {h : HandleId} {c : CameraId} (ho : v.Opening h c)
    {call : OpenerCall}
    (acquires : ∀ d, (LoopStage.opening h call).acquired? = some d → ∃ x, v.Acquires d c x) :
    (v.setStage (.opening h call)).Sound := by
  refine { hv with
    opening := fun g hg => ?_
    acquired := fun d g c' hd hg hc => ?_
    left := nofun
    ending := nofun
    halted := by rintro (h | h) <;> cases h }
  · obtain rfl : h = g := Option.some.inj hg
    exact ⟨c, ho.camera, ho.head, ho.free⟩
  · obtain rfl : h = g := Option.some.inj hg
    obtain rfl : c = c' := Option.some.inj (ho.camera.symm.trans hc)
    obtain ⟨x, hx⟩ := acquires d hd
    exact ⟨x, hx.there, hx.camera, hx.simulated, hx.state, hx.fresh⟩

theorem Sound.crash (hv : v.Sound) : v.crash.Sound :=
  { hv with
    named := nofun
    active := nofun
    distinct := .nil
    closes := fun c hc => ⟨(hv.closes c hc).1, nofun⟩
    opening := nofun
    acquired := nofun
    left := nofun
    ending := fun _ => ⟨rfl, rfl, .inl nofun⟩
    halted := fun _ => rfl }

theorem Opening.setDevices {h : HandleId} {c : CameraId} (ho : v.Opening h c)
    (devices : List Device) : (v.setDevices devices).Opening h c :=
  ⟨ho.camera, ho.head, ho.free⟩

theorem Sound.opens {b' : Broker} {h : HandleId} {c : CameraId} (hv : v.Sound)
    (ho : v.Opening h c) (step : Broker.Opens b' h c v w) : w.Sound := by
  cases step with
  | giveUp lost resolved => exact (hv.note _).popHead
  | pause lost attempt due => exact hv.setOpening ho fun d hd => by cases hd
  | @«begin» lost x camera simulated state release attempt due =>
    refine (hv.addDevice release).setOpening (ho.setDevices _) fun d hd => ?_
    obtain rfl : v.devices.length = d := Option.some.inj hd
    refine ⟨x, by simp [View.setDevices], camera, simulated, .inl state, fun f hf => ?_⟩
    obtain ⟨y, hy, -⟩ := hv.faces f hf
    exact Nat.ne_of_lt (List.getElem?_eq_some_iff.1 hy).1
  | call lost due => exact hv.setOpening ho fun d hd => by cases hd
  | @simulated attempt due d x stage hx up =>
    have acquired : v.loop.stage.acquired? = some d := by
      rw [stage]
      rfl
    have opens : v.loop.stage.opens? = some h := by
      rw [stage]
      rfl
    obtain ⟨y, hy⟩ := hv.acquired d h c acquired opens ho.camera
    obtain rfl : x = y := Option.some.inj (hx.symm.trans hy.there)
    have there : (v.devices.set d x.opened)[d]? = some x.opened := by
      obtain ⟨hd, -⟩ := List.getElem?_eq_some_iff.1 hx
      simp [hd]
    have ready := (hv.read.openDevice rfl hx up).note (.logOpened c)
    exact ready.join c (c := x.camera) (hy.camera ▸ ho.free) there rfl
      fun _ => Nat.le_refl _
  | @manual due stage x camera manual release =>
    have there : (v.devices ++ [x])[v.devices.length]? = some x := by simp
    refine (hv.read.addDevice release).join c ho.free there camera fun hm => ?_
    rw [manual] at hm
    cases hm
  | crash stage => exact hv.crash

end Turns

end CameraBroker.View

namespace CameraBroker.Broker
variable {b b' : Broker} {c : CameraId}

theorem free_of_activeFor? (h : b.activeFor? c = none) :
    ∀ i ∈ b.loop.active, b.view.cameraOf i ≠ some c := by
  intro i hi hc
  have other := List.find?_eq_none.1 h i hi
  obtain ⟨s, hs, camera⟩ : ∃ s, b.sessions[i]? = some s ∧ s.camera = c := by
    simpa [View.cameraOf, view, Session.face] using hc
  simp [hs, camera] at other

theorem conflicting_eq (b : Broker) (c : CameraId) :
    b.conflicting c =
      (b.loop.active.filter fun i => (b.sessions[i]?).any fun s => s.camera ≠ c,
        b.loop.active.filter fun i => !(b.sessions[i]?).any fun s => s.camera ≠ c) := by
  rw [conflicting, List.partition_eq_filter_filter]
  rfl

/-- Without a session of the camera and of any other, there is none. -/
theorem active_eq_nil (hv : b.view.Sound) (none : b.activeFor? c = none)
    (alone : (b.conflicting c).1 = []) : b.loop.active = [] := by
  refine List.eq_nil_iff_forall_not_mem.2 fun i hi => ?_
  have there : i < b.sessions.length := by simpa [view] using hv.active i hi
  have own := List.find?_eq_none.1 none i hi
  rw [conflicting_eq] at alone
  have other := List.filter_eq_nil_iff.1 alone i hi
  simp [there] at own other
  exact own other

theorem opening_of_stage (hv : b.view.Sound) {h : HandleId} {call : OpenerCall}
    (stage : b.loop.stage = .opening h call) (camera : b.view.wanted[h]? = some c) :
    b.view.Opening h c := by
  obtain ⟨c', ho⟩ := hv.opening h (congrArg LoopStage.opens? stage)
  obtain rfl : c' = c := Option.some.inj (ho.camera.symm.trans camera)
  exact ho

/-- An open finds no session of its camera when the opener is asked for it. -/
theorem opening_ask (hv : b.view.Sound) (stage : b.loop.stage = .reading) {h : HandleId}
    {share : Bool} {rest : List Request} (head : b.waiting = .open h share :: rest)
    (camera : b.view.wanted[h]? = some c) (alone : share = false → (b.conflicting c).1 = [])
    (none : b.activeFor? c = none) :
    ((b.view.take (.open h share :: rest)).ask h c).Sound ∧
      ((b.view.take (.open h share :: rest)).ask h c).Opening h c := by
  have all : .open h share :: rest ⊆ b.view.waiting := by
    rw [view_waiting, head]
    exact List.Subset.refl _
  refine ⟨((hv.take stage all).note _).note _, camera, ⟨share, rest, rfl, fun hs => ?_⟩,
    free_of_activeFor? none⟩
  exact active_eq_nil hv none (alone hs)

theorem not_mem_filter_ne (i : SessionId) (active : List SessionId) :
    i ∉ active.filter (· ≠ i) := by simp

theorem mem_filter_ne_or {active : List SessionId} {j : SessionId} (hj : j ∈ active)
    (i : SessionId) : j ∈ active.filter (· ≠ i) ∨ j ∈ [i] := by
  by_cases hij : j = i
  · exact .inr (by simp [hij])
  · exact .inl (List.mem_filter.2 ⟨hj, by simp [hij]⟩)

theorem mem_filter_not_or {active : List SessionId} {i : SessionId} (hi : i ∈ active)
    (p : SessionId → Bool) : i ∈ active.filter (fun i => !p i) ∨ i ∈ active.filter p := by
  cases hp : p i with
  | true => exact .inr (List.mem_filter.2 ⟨hi, hp⟩)
  | false => exact .inl (List.mem_filter.2 ⟨hi, by rw [hp]; rfl⟩)

/-- A turn of the loop keeps what is true in every reachable state. -/
theorem Rule.sound {w : View} (hv : b.view.Sound) (rule : Rule b b' w) : w.Sound := by
  have idle : b.loop.stage = .reading → b.view.loop.stage = .reading := id
  cases rule with
  | idle => exact hv
  | start stage => exact hv.read
  | finish stage done noClient leaves =>
    exact hv.retire stage (List.nil_sublist _) (fun i hi => ⟨hv.active i hi, nofun⟩) leaves.sub
      fun _ => ⟨rfl, done, noClient⟩
  | @close stage i rest first left leaves =>
    obtain ⟨before, after, waiting, rfl, -⟩ := firstClose?_eq_some first
    have sub : before ++ after ⊆ b.view.waiting := by
      rw [view_waiting, waiting]
      exact List.append_subset.2 ⟨List.subset_append_left _ _,
        List.subset_append_of_subset_right _ (List.subset_cons_self _ _)⟩
    have asked : .close i ∈ b.view.waiting := by
      rw [view_waiting, waiting]
      simp
    refine ((hv.take stage sub).note _).retire stage List.filter_sublist (fun j hj => ?_)
      leaves.sub nofun
    obtain rfl := List.mem_singleton.1 hj
    exact ⟨hv.named (.close j) asked, not_mem_filter_ne j _⟩
  | @closeAll stage noClose before after last resolved left leaves =>
    have sub : after ⊆ b.view.waiting := by
      rw [view_waiting, (lastCloseAll?_eq_some last).1]
      exact List.subset_append_right _ _
    exact ((hv.take stage sub).service before).retire stage (List.nil_sublist _)
      (fun i hi => ⟨hv.active i hi, nofun⟩) leaves.sub nofun
  | @serve stage h share rest head c camera w serves =>
    have sub : rest ⊆ b.view.waiting := by
      rw [view_waiting, head]
      exact List.subset_cons_self _ _
    have all : .open h share :: rest ⊆ b.view.waiting := by
      rw [view_waiting, head]
      exact List.Subset.refl _
    cases serves with
    | stale answered => exact (((hv.take stage sub).note _).note _).read
    | makeRoom waits exclusive conflict some leaves =>
      rw [conflicting_eq] at conflict
      cases conflict
      refine (hv.take stage all).retire stage List.filter_sublist (fun i hi => ?_) leaves.sub nofun
      have hi := List.mem_filter.1 hi
      refine ⟨hv.active i hi.1, fun out => ?_⟩
      have own := (List.mem_filter.1 out).2
      rw [hi.2] at own
      cases own
    | @replace waits i left active leaves =>
      refine (hv.take stage all).retire stage List.filter_sublist (fun j hj => ?_) leaves.sub nofun
      obtain rfl := List.mem_singleton.1 hj
      exact ⟨hv.active j (session_of_activeFor? active).1, not_mem_filter_ne j _⟩
    | attach waits active ht resolved kept =>
      exact ((((hv.take stage sub).note _).bind _ _).note _).read
    | deny waits resolved => exact (((hv.take stage sub).note _).note _).read
    | ask waits alone none opens =>
      obtain ⟨asked, opening⟩ := opening_ask hv stage head camera alone none
      exact asked.opens opening opens
  | opener stage camera opens => exact hv.opens (opening_of_stage hv stage camera) opens
  | @await sessions left left' after stage sub down =>
    have all := hv.left sessions left after stage
    refine hv.await (List.Subset.trans sub all) fun stop => hv.ending ?_
    have same : b.view.loop.stage = b.loop.stage := rfl
    rw [same, stage]
    exact decide_eq_true stop

/-! Reachable states. -/

theorem view_start (s : Setup) : s.broker.view = {} := by
  have added : ∀ (cs : List CameraId) (w : Hardware), w.devices = [] → w.history = [] →
      (cs.foldl (fun w c => w.addCamera c) w).devices = [] ∧
        (cs.foldl (fun w c => w.addCamera c) w).history = [] := by
    intro cs
    induction cs with
    | nil => exact fun w devices history => ⟨devices, history⟩
    | cons c cs ih =>
      intro w devices history
      refine ih (w.addCamera c) ?_ ?_
      · unfold Hardware.addCamera
        split <;> exact devices
      · unfold Hardware.addCamera
        split <;> exact history
  obtain ⟨devices, history⟩ := added (s.cameras.filterMap CameraId.parse?)
    { openLatency := s.openLatency, closeLatency := s.closeLatency } rfl rfl
  have devices : s.broker.hw.devices = [] := devices
  have history : s.broker.hw.history = [] := history
  simp only [view, Hardware.milestones, devices, history]
  rfl

theorem sound_start : View.Sound {} where
  named := nofun
  ties := rfl
  active := nofun
  distinct := .nil
  closes := nofun
  faces := nofun
  release := nofun
  opening := nofun
  acquired := nofun
  left := nofun
  ending := nofun
  halted := by rintro (h | h) <;> cases h

theorem step_loop (ready : b.loopReady = true) : b.step (.turn .loop) = b.resumeLoop := by
  have mem : Task.loop ∈ b.readyTasks := by simp [readyTasks, ready]
  exact step_of_ready mem

theorem step_loop_idle (idle : b.loopReady = false) : b.step (.turn .loop) = b := by
  have none : Task.loop ∉ b.readyTasks := by simp [readyTasks, idle]
  exact step_of_unready none

/-- A loop that reads can go on when requests wait. -/
theorem loopReady_of_waiting (reading : b.loop.stage = .reading) (some : b.waiting ≠ []) :
    b.loopReady = true := by
  unfold waiting at some
  simp only [loopReady, reading]
  cases pending : b.loop.pending <;> cases buffer : b.inbox.buffer <;> simp_all

/-- The handle of an open that waits is there. -/
theorem lt_of_waiting (hv : b.view.Sound) {h : HandleId} {share : Bool}
    (waits : .open h share ∈ b.waiting) : h < b.handles.length := by
  have named : h < b.view.wanted.length := hv.named (.open h share) waits
  simpa [view] using named

/-- The loop takes its turn if it can. -/
theorem loop_turn (hv : b.view.Sound) :
    b.step (.turn .loop) = b ∨ b.step (.turn .loop) = b.resumeLoop ∧ b.Turn b.resumeLoop := by
  cases ready : b.loopReady with
  | true => exact .inr ⟨step_loop ready, turn_resumeLoop fun h share => lt_of_waiting hv⟩
  | false => exact .inl (step_loop_idle ready)

/-- A step is a turn of the loop, or made of moves beside the loop. -/
theorem step_cases (hv : b.view.Sound) (a : Action) : b.Beside (b.step a) ∨ b.Turn (b.step a) := by
  by_cases ha : a = .turn .loop
  · subst ha
    rcases loop_turn hv with stays | ⟨turns, turn⟩
    · exact .inl (stays.symm ▸ .refl b)
    · exact .inr (turns.symm ▸ turn)
  · exact .inl (beside_step hv.devicesFit ha)

theorem sound_step (hv : b.view.Sound) (a : Action) : (b.step a).view.Sound := by
  rcases step_cases hv a with beside | turn
  · exact beside.view.invariant (fun _ _ move hv => hv.background move) hv
  · exact turn.rule.sound hv

theorem Reachable.sound (hr : Reachable b) : b.view.Sound :=
  hr.invariant (P := fun b => b.view.Sound) (fun s => view_start s ▸ sound_start)
    fun _ a _ hv => sound_step hv a

theorem Reachable.step_cases (hr : Reachable b) (a : Action) :
    b.Beside (b.step a) ∨ b.Turn (b.step a) :=
  Broker.step_cases hr.sound a

theorem Reachable.view_step {P : View → Prop}
    (move : ∀ kept v w, View.Sound v → View.Background kept v w → P v → P w)
    (turn : ∀ b b', View.Sound (view b) → Turn b b' → P b.view → P b'.view) (hr : Reachable b)
    (hp : P b.view) (a : Action) : P (b.step a).view := by
  rcases hr.step_cases a with beside | turns
  · have moved : ∀ v w, View.Background (b.step a).Connected v w → v.Sound ∧ P v → w.Sound ∧ P w :=
      fun v w m ⟨hv, hp⟩ => ⟨hv.background m, move _ v w hv m hp⟩
    exact (beside.view.invariant moved ⟨hr.sound, hp⟩).2
  · exact turn b _ hr.sound turns hp

/-- What the moves beside the loop and the turns of the loop preserve stays true in every run. -/
theorem Reachable.view_run {P : View → Prop}
    (move : ∀ kept v w, View.Sound v → View.Background kept v w → P v → P w)
    (turn : ∀ b b', View.Sound (view b) → Turn b b' → P b.view → P b'.view) (hr : Reachable b)
    (hp : P b.view) (actions : List Action) : P (b.run actions).view := by
  induction actions generalizing b with
  | nil => exact hp
  | cons a actions ih => exact ih (hr.step a) (hr.view_step move turn hp a)

/-- What is true at the start as well is true of every reachable state. -/
theorem Reachable.view_invariant {P : View → Prop} (start : P {})
    (move : ∀ kept v w, View.Sound v → View.Background kept v w → P v → P w)
    (turn : ∀ b b', View.Sound (view b) → Turn b b' → P b.view → P b'.view) (hr : Reachable b) :
    P b.view :=
  hr.invariant (P := fun b => P b.view) (fun s => view_start s ▸ start)
    fun _ a hb hp => hb.view_step move turn hp a

end CameraBroker.Broker
