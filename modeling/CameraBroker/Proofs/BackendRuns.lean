import CameraBroker.Hardware.Bench
import CameraBroker.Proofs.CameraCounts

/-! Runs of the simulated cameras. Opens and closes are begun, given up and go on in any order,
cameras are unplugged, added and made busy, and the latencies change. The device log and the counts
tell what became of every device. -/
namespace CameraBroker

/-- What a device has written into the log, oldest line first: nothing before it was open, one line
when it came up, and one more when it closed. One that was yanked away before never writes a line. -/
inductive Device.Story (x : Device) : List Event → Prop where
  | opening (state : x.stream.state = .opening) : Story x []
  | up (state : x.stream.state = .open ∨ x.stream.state = .closing) : Story x [.logOpened x.camera]
  | closed (state : x.stream.state = .closed) : Story x [.logOpened x.camera, .logClosed x.camera]
  | yanked (state : x.stream.state = .closed) : Story x []

namespace Device

theorem Story.eq_nil_of_opening {x : Device} {lines : List Event} (story : x.Story lines)
    (opening : x.stream.state = .opening) : lines = [] := by
  cases story with
  | opening state => rfl
  | up state => simp [opening] at state
  | closed state => simp [opening] at state
  | yanked state => rfl

/-- A device goes on, and its story with it. -/
theorem Story.advances {x y : Device} {lines : List Event} (story : x.Story lines)
    (simulated : x.isManual = false) (xy : x.Advances y) : y.Story (lines ++ x.logLines y) := by
  have simulated' : y.isManual = false := xy.isManual.trans simulated
  rcases xy.stream with same | ⟨forward, -⟩
  · have quiet : x.logLines y = [] :=
      logLines_of_isUp_eq (by rw [isUp, isUp, same, xy.isManual])
    have state : y.stream.state = x.stream.state := by rw [same]
    rw [quiet, List.append_nil]
    cases story with
    | opening opening => exact .opening (state.trans opening)
    | up up => exact xy.camera ▸ .up (state.symm ▸ up)
    | closed closed => exact xy.camera ▸ .closed (state.trans closed)
    | yanked closed => exact .yanked (state.trans closed)
  · have upOf : ∀ {z : Device}, z.isManual = false →
        z.stream.state = .open ∨ z.stream.state = .closing → z.isUp = true :=
      fun simulated up => by simp [isUp, simulated, up]
    cases story with
    | opening opening =>
      have down : x.isUp = false := by simp [isUp, opening]
      by_cases closed : y.stream.state = .closed
      · have quiet : x.logLines y = [] := logLines_of_isUp_eq (by simp [isUp, opening, closed])
        rw [quiet]
        exact .yanked closed
      · have up : y.stream.state = .open ∨ y.stream.state = .closing := by
          cases hs : y.stream.state <;> simp_all [DeviceState.rank]
        have line : x.logLines y = [.logOpened y.camera] := by
          simp [logLines, down, upOf simulated' up, xy.camera]
        rw [line]
        exact .up up
    | up up =>
      by_cases closed : y.stream.state = .closed
      · have down : y.isUp = false := by simp [isUp, closed]
        have line : x.logLines y = [.logClosed y.camera] := by
          simp [logLines, upOf simulated up, down, xy.camera]
        rw [line, ← xy.camera]
        exact .closed closed
      · have still : y.stream.state = .open ∨ y.stream.state = .closing := by
          cases hs : y.stream.state <;> rcases up with up | up <;> simp_all [DeviceState.rank]
        have quiet : x.logLines y = [] :=
          logLines_of_isUp_eq ((upOf simulated' still).trans (upOf simulated up).symm)
        rw [quiet, ← xy.camera]
        exact .up still
    | closed closed =>
      rw [closed] at forward
      cases hs : y.stream.state <;> simp [hs, DeviceState.rank] at forward
    | yanked closed =>
      rw [closed] at forward
      cases hs : y.stream.state <;> simp [hs, DeviceState.rank] at forward

end Device

namespace HardwareBench

inductive Act where
  | startOpen (camera : CameraId)
  | abortOpen (call : Nat)
  | forget (call : Nat)
  | startClose (device : DeviceId)
  | abortClose (call : Nat)
  | unplug (camera : CameraId)
  | addCamera (camera : CameraId)
  | failNext (camera : CameraId) (count : Nat)
  | setLatency (openLatency closeLatency : Nat)
  | turn (task : Task)
  | elapse (ms : Nat)
deriving DecidableEq

/-- The client has a device only once it is no longer opening. -/
def mayClose (d : DeviceId) (b : HardwareBench) : Bool :=
  (b.hw.devices[d]?).any fun x => x.stream.state ≠ .opening

def hasDevice (n : Nat) (b : HardwareBench) : Bool :=
  (b.opens[n]?).any fun c => match c.stage with
    | .open _ => true
    | _ => false

/-- What is not possible just then changes nothing. -/
def act (b : HardwareBench) : Act → HardwareBench
  | .startOpen c => b.startOpen c
  | .abortOpen n => b.abortOpen n
  | .forget n => if b.hasDevice n then b.forget n else b
  | .startClose d => if b.mayClose d then b.startClose d else b
  | .abortClose n => b.abortClose n
  | .unplug c => (b.unplug c).2
  | .addCamera c => b.onHardware (·.addCamera c)
  | .failNext c n => b.onHardware (·.failNext c n)
  | .setLatency o c => b.onHardware (·.setLatency o c)
  | .turn t => if t ∈ Machine.ready b then Machine.resume t b else b
  | .elapse ms => b.onHardware fun hw => { hw with now := hw.now + ms }

def run (acts : List Act) (b : HardwareBench) : HardwareBench := acts.foldl act b

theorem run_append (b : HardwareBench) (acts more : List Act) :
    b.run (acts ++ more) = (b.run acts).run more := List.foldl_append

def story (d : DeviceId) : List Act → HardwareBench → List Event
  | [], _ => []
  | a :: acts, b => b.hw.linesOf (b.act a).hw d ++ story d acts (b.act a)

/-- The device of an open is one of its camera, and only devices that were handed out are closed. -/
structure Sound (b : HardwareBench) : Prop where
  accounts : b.hw.Accounts
  opens : ∀ (n : Nat) (call : OpenCall) (d : DeviceId) (due : Nat), b.opens[n]? = some call →
    call.stage = .opening d due → ∃ x, b.hw.devices[d]? = some x ∧ x.camera = call.camera
  closes : ∀ call ∈ b.closes, ∃ x, b.hw.devices[call.device]? = some x ∧
    x.stream.state ≠ .opening

inductive Goes (b b' : HardwareBench) (call : OpenCall) : OpenCall → Prop where
  | same : Goes b b' call call
  | abort : Goes b b' call { call with aborted := true }
  | forget {d : DeviceId} (stage : call.stage = .open d) : Goes b b' call { call with stage := .over }
  | leave (aborted : call.aborted = true) : Goes b b' call { call with stage := .over }
  | start (stage : OpenStage) (fresh : call.stage = .fresh) : Goes b b' call { call with stage }
  | finish {d : DeviceId} {due : Nat} {x : Device} (stage : call.stage = .opening d due)
      (hx : b.hw.devices[d]? = some x) (opening : x.stream.state = .opening)
      (opened : b'.hw.devices[d]? = some x.opened) : Goes b b' call { call with stage := .open d }
  | fail {d : DeviceId} {due : Nat} {x : Device} (stage : call.stage = .opening d due)
      (hx : b.hw.devices[d]? = some x) (late : x.stream.state ≠ .opening) : Goes b b' call { call with
        stage := .failed (.disconnected call.camera "device went away while opening") }

section Steps
variable {b b' : HardwareBench}

/-- Devices that were handed out go on, and the opens and closes keep to theirs. -/
theorem Sound.goOn (h : b.Sound) (accounts : b'.hw.Accounts) (course : b.hw.Course b'.hw)
    (opens : ∀ (n : Nat) (call' : OpenCall) (d : DeviceId) (due : Nat),
      b'.opens[n]? = some call' → call'.stage = .opening d due →
        (∃ call, b.opens[n]? = some call ∧ call.stage = .opening d due ∧
          call.camera = call'.camera) ∨
        ∃ x, b'.hw.devices[d]? = some x ∧ x.camera = call'.camera)
    (closes : ∀ call' ∈ b'.closes, (∃ call ∈ b.closes, call.device = call'.device) ∨
      ∃ x, b'.hw.devices[call'.device]? = some x ∧ x.stream.state ≠ .opening) : b'.Sound := by
  refine ⟨accounts, fun n call' d due hn stage => ?_, fun call' mem => ?_⟩
  · rcases opens n call' d due hn stage with ⟨call, hc, old, camera⟩ | new
    · obtain ⟨x, hx, own⟩ := h.opens n call d due hc old
      obtain ⟨y, hy, xy⟩ := course.forward d x hx
      exact ⟨y, hy, xy.camera.trans (own.trans camera)⟩
    · exact new
  · rcases closes call' mem with ⟨call, old, device⟩ | new
    · obtain ⟨x, hx, handed⟩ := h.closes call old
      obtain ⟨y, hy, xy⟩ := course.forward _ x hx
      refine ⟨y, device ▸ hy, fun opening => ?_⟩
      rcases xy.stream with same | ⟨forward, -⟩
      · exact handed (same ▸ opening)
      · -- Only a device that has not begun comes before one that is opening.
        have begun := h.accounts.begun x (List.mem_of_getElem? hx)
        rw [opening] at forward
        cases hs : x.stream.state <;> simp_all [DeviceState.rank]
    · exact new

/-- What changes nothing but the hardware, and not what a device is. -/
theorem Sound.onHardware (h : b.Sound) {f : Hardware → Hardware} (shift : b.hw.Shift (f b.hw)) :
    (b.onHardware f).Sound ∧ b.hw.Course (f b.hw) :=
  ⟨h.goOn (shift.accounts h.accounts) shift.course
    (fun _ call _ _ hn stage => .inl ⟨call, hn, stage, rfl⟩)
    fun call mem => .inl ⟨call, mem, rfl⟩, shift.course⟩

theorem still (w : Hardware) : w.Shift w := .silent rfl rfl (fun _ => id) fun _ => rfl

/-- One open changes. If it gets a device, that is one of its camera. -/
theorem Sound.onOpen (h : b.Sound) (n : Nat) {f : OpenCall → OpenCall}
    (camera : ∀ call, (f call).camera = call.camera)
    (stage : ∀ call d due, b.opens[n]? = some call → (f call).stage = .opening d due →
      call.stage = .opening d due ∨ ∃ x, b.hw.devices[d]? = some x ∧ x.camera = call.camera) :
    Sound { b with opens := b.opens.modify n f } := by
  refine h.goOn h.accounts (still b.hw).course (fun m call' d due hm opening => ?_)
    fun call mem => .inl ⟨call, mem, rfl⟩
  rw [List.getElem?_modify] at hm
  obtain ⟨call, hc, rfl⟩ := Option.map_eq_some_iff.1 hm
  by_cases own : n = m
  · subst own
    rw [if_pos rfl] at opening ⊢
    rw [camera]
    exact (stage call d due hc opening).imp (fun old => ⟨call, hc, old, rfl⟩) id
  · rw [if_neg own] at opening ⊢
    exact .inl ⟨call, hc, opening, rfl⟩

theorem Sound.setStage (h : b.Sound) (n : Nat) {stage : OpenStage}
    (quiet : ∀ d due, stage ≠ .opening d due) : (b.setStage n stage).Sound :=
  h.onOpen n (fun _ => rfl) fun _ d due _ opening => absurd opening (quiet d due)

theorem ready_open {n : Nat} {call : OpenCall} (hc : b.opens[n]? = some call)
    (ready : b.openReady call = true) : .open n ∈ Machine.ready b := by
  obtain ⟨hn, -⟩ := List.getElem?_eq_some_iff.1 hc
  have mem : n ∈ (List.range b.opens.length).filter fun n => (b.opens[n]?).any b.openReady :=
    List.mem_filter.2 ⟨List.mem_range.2 hn, by simp [hc, ready]⟩
  simpa [Machine.ready] using mem

theorem mem_ready_release {d : DeviceId} (ready : .release d ∈ Machine.ready b) :
    ∃ x, b.hw.devices[d]? = some x ∧ x.release ≠ .none := by
  have mem : d ∈ b.hw.readyReleases := by simpa [Machine.ready] using ready
  have begun := (List.mem_filter.1 mem).2
  cases hx : b.hw.devices[d]? with
  | none => simp [hx] at begun
  | some x =>
    refine ⟨x, rfl, fun none => ?_⟩
    obtain ⟨camera, make, stream, release⟩ := x
    subst none
    simp [hx] at begun

/-- An open goes on, and the device that it gets is one of its camera. -/
theorem Sound.resumeOpen (h : b.Sound) (n : Nat) :
    (b.resumeOpen n).Sound ∧ b.hw.Course (b.resumeOpen n).hw := by
  unfold HardwareBench.resumeOpen
  cases hc : b.opens[n]? with
  | none => exact ⟨h, (still b.hw).course⟩
  | some call =>
    dsimp only
    split
    · exact ⟨h.setStage n nofun, (still b.hw).course⟩
    · split
      · have shift := Hardware.Shift.beginOpen call.camera b.hw
        obtain ⟨sound, course⟩ := h.onHardware (f := fun w => (w.beginOpen call.camera).2) shift
        cases began : b.hw.beginOpen call.camera with
        | mk result hw =>
          have begins : (b.onHardware fun w => (w.beginOpen call.camera).2) = { b with hw } := by
            simp [HardwareBench.onHardware, began]
          rw [begins] at sound
          rw [began] at course
          cases result with
          | error e => exact ⟨sound.setStage n nofun, course⟩
          | ok r =>
            have device := Hardware.begun_of_beginOpen (congrArg Prod.fst began)
            rw [began] at device
            refine ⟨sound.onOpen n (fun _ => rfl) fun call' d due hc' opening => .inr ?_, course⟩
            cases opening
            obtain rfl : call = call' := Option.some.inj (hc.symm.trans hc')
            exact device
      · rename_i d due stage
        obtain ⟨x, hx, own⟩ := h.opens n call d due hc stage
        unfold HardwareBench.endOpen
        rw [← own]
        rcases Hardware.finishOpen_cases h.accounts hx with ⟨-, done, -, shift⟩ | ⟨-, lost⟩
        · obtain ⟨sound, course⟩ := h.onHardware (f := fun w => (w.finishOpen x.camera d).2) shift
          cases finished : b.hw.finishOpen x.camera d with
          | mk result hw =>
            rw [finished] at done course
            have finishes : (b.onHardware fun w => (w.finishOpen x.camera d).2) = { b with hw } := by
              simp [HardwareBench.onHardware, finished]
            rw [finishes] at sound
            cases done
            exact ⟨sound.setStage n nofun, course⟩
        · rw [lost]
          exact ⟨h.setStage n nofun, (still b.hw).course⟩
      · exact ⟨h, (still b.hw).course⟩

/-- One close changes but keeps to its device. -/
theorem Sound.onClose (h : b.Sound) (n : Nat) {f : CloseCall → CloseCall} {hw : Hardware}
    (device : ∀ call, (f call).device = call.device) (shift : b.hw.Shift hw) :
    Sound { b with hw, closes := b.closes.modify n f } ∧ b.hw.Course hw := by
  refine ⟨h.goOn (shift.accounts h.accounts) shift.course
    (fun _ call _ _ hc stage => .inl ⟨call, hc, stage, rfl⟩) fun call mem => .inl ?_, shift.course⟩
  obtain ⟨m, hm⟩ := List.mem_iff_getElem?.1 mem
  rw [List.getElem?_modify] at hm
  obtain ⟨old, ho, rfl⟩ := Option.map_eq_some_iff.1 hm
  refine ⟨old, List.mem_of_getElem? ho, ?_⟩
  split
  · exact (device old).symm
  · rfl

/-- A close asks its device, which was handed out. -/
theorem Sound.resumeClose (h : b.Sound) (n : Nat) :
    (b.resumeClose n).Sound ∧ b.hw.Course (b.resumeClose n).hw := by
  unfold HardwareBench.resumeClose
  cases hc : b.closes[n]? with
  | none => exact ⟨h, (still b.hw).course⟩
  | some call =>
    obtain ⟨x, hx, handed⟩ := h.closes call (List.mem_of_getElem? hc)
    dsimp only
    split
    · exact h.onClose n (fun _ => rfl) (still b.hw)
    · split
      · have shift := Hardware.Shift.closeDevice (d := call.device) h.accounts fun y hy => by
          obtain rfl : x = y := Option.some.inj (hx.symm.trans hy)
          exact handed
        cases asked : b.hw.closeDevice call.device with
        | mk started hw =>
          rw [asked] at shift
          cases started <;> exact h.onClose n (fun _ => rfl) shift
      · exact h.onClose n (fun _ => rfl) (still b.hw)

/-- Whatever happens, the devices go their course. -/
theorem Sound.act (h : b.Sound) (a : Act) : (b.act a).Sound ∧ b.hw.Course (b.act a).hw := by
  have same : b.Sound ∧ b.hw.Course b.hw := ⟨h, (still b.hw).course⟩
  cases a with
  | startOpen c =>
    refine ⟨h.goOn h.accounts (still b.hw).course (fun n call d due hn stage => .inl ?_)
      fun call mem => .inl ⟨call, mem, rfl⟩, (still b.hw).course⟩
    by_cases old : n < b.opens.length
    · exact ⟨call, (List.getElem?_append_left old).symm.trans hn, stage, rfl⟩
    · have new := (List.getElem?_append_right (Nat.not_lt.1 old)).symm.trans hn
      obtain rfl := List.mem_singleton.1 (List.mem_of_getElem? new)
      cases stage
  | abortOpen n =>
    refine ⟨h.onOpen n (fun call => ?_) fun call d due _ opening => .inl ?_, (still b.hw).course⟩
    · split <;> rfl
    · split at opening <;> exact opening
  | forget n =>
    simp only [HardwareBench.act]
    split
    · exact ⟨h.setStage n nofun, (still b.hw).course⟩
    · exact same
  | startClose d =>
    simp only [HardwareBench.act]
    split
    · rename_i handed
      refine ⟨h.goOn h.accounts (still b.hw).course
        (fun _ call _ _ hn stage => .inl ⟨call, hn, stage, rfl⟩) fun call mem => ?_,
        (still b.hw).course⟩
      rcases List.mem_append.1 mem with old | new
      · exact .inl ⟨call, old, rfl⟩
      · obtain rfl := List.mem_singleton.1 new
        obtain ⟨x, hx, handed⟩ := (Option.any_eq_true _ _).1 handed
        exact .inr ⟨x, hx, by simpa using handed⟩
    · exact same
  | abortClose n => exact h.onClose n (fun _ => rfl) (still b.hw)
  | unplug c =>
    obtain ⟨accounts, course⟩ := Hardware.unplug_course h.accounts c b.holds
    exact ⟨h.goOn accounts course (fun _ call _ _ hn stage => .inl ⟨call, hn, stage, rfl⟩)
      fun call mem => .inl ⟨call, mem, rfl⟩, course⟩
  | addCamera c => exact h.onHardware (.addCamera c b.hw)
  | failNext c n => exact h.onHardware (.failNext c n b.hw)
  | setLatency o c =>
    exact h.onHardware (f := (·.setLatency o c)) (.silent rfl rfl (fun _ => id) fun _ => rfl)
  | turn t =>
    simp only [HardwareBench.act]
    split
    · rename_i ready
      cases t with
      | «open» n => exact h.resumeOpen n
      | close n => exact h.resumeClose n
      | release d =>
        obtain ⟨x, hx, begun⟩ := mem_ready_release ready
        exact h.onHardware (.resumeRelease h.accounts hx begun)
    · exact same
  | elapse ms =>
    exact h.onHardware (f := fun hw => { hw with now := hw.now + ms })
      (.silent rfl rfl (fun _ => id) fun _ => rfl)

theorem getElem?_setStage_ne {n m : Nat} (other : m ≠ n) (hw : Hardware) (stage : OpenStage) :
    ({ b with hw }.setStage m stage).opens[n]? = b.opens[n]? := by
  simp [HardwareBench.setStage, other]

theorem getElem?_resumeOpen_ne {n m : Nat} (other : m ≠ n) (b : HardwareBench) :
    (b.resumeOpen m).opens[n]? = b.opens[n]? := by
  unfold HardwareBench.resumeOpen
  split
  · rfl
  · split
    · exact getElem?_setStage_ne other b.hw _
    · split
      · split <;> exact getElem?_setStage_ne other _ _
      · unfold HardwareBench.endOpen
        split <;> exact getElem?_setStage_ne other _ _
      · rfl

/-- What becomes of an open when it goes on. -/
theorem goes_resumeOpen (h : b.Sound) {n : Nat} {call : OpenCall} (hc : b.opens[n]? = some call) :
    ∃ call', (b.resumeOpen n).opens[n]? = some call' ∧ b.Goes (b.resumeOpen n) call call' := by
  have set : ∀ (hw : Hardware) (stage : OpenStage),
      ({ b with hw }.setStage n stage).opens[n]? = some { call with stage } := by
    intro hw stage
    simp [HardwareBench.setStage, hc]
  unfold HardwareBench.resumeOpen
  rw [hc]
  dsimp only
  by_cases aborted : call.aborted = true
  · rw [if_pos aborted]
    exact ⟨_, set b.hw .over, .leave aborted⟩
  · rw [if_neg aborted]
    cases stage : call.stage with
    | fresh =>
      dsimp only
      split
      · exact ⟨_, set _ _, .start _ stage⟩
      · exact ⟨_, set _ _, .start _ stage⟩
    | opening d due =>
      obtain ⟨x, hx, camera⟩ := h.opens n call d due hc stage
      have finish := Hardware.finishOpen_cases h.accounts hx
      rw [camera] at finish
      dsimp only
      unfold HardwareBench.endOpen
      rcases finish with ⟨opening, done, opened, -⟩ | ⟨late, lost⟩
      · cases finished : b.hw.finishOpen call.camera d with
        | mk result hw =>
          rw [finished] at done opened
          cases done
          exact ⟨_, set _ _, .finish stage hx opening opened⟩
      · rw [lost]
        exact ⟨_, set _ _, .fail stage hx late⟩
    | _ => exact ⟨call, hc, .same⟩

theorem goes_act (h : b.Sound) {n : Nat} {call : OpenCall} (hc : b.opens[n]? = some call) (a : Act) :
    ∃ call', (b.act a).opens[n]? = some call' ∧ b.Goes (b.act a) call call' := by
  cases a with
  | startOpen c =>
    obtain ⟨hn, -⟩ := List.getElem?_eq_some_iff.1 hc
    exact ⟨call, (List.getElem?_append_left hn).trans hc, .same⟩
  | abortOpen m =>
    by_cases own : m = n
    · subst own
      by_cases pending : isPending call = true
      · exact ⟨_, by simp [HardwareBench.act, HardwareBench.abortOpen, hc, pending], .abort⟩
      · exact ⟨call, by simp [HardwareBench.act, HardwareBench.abortOpen, hc, pending], .same⟩
    · exact ⟨call, by simp [HardwareBench.act, HardwareBench.abortOpen, own, hc], .same⟩
  | forget m =>
    simp only [HardwareBench.act]
    split
    · rename_i has
      by_cases own : m = n
      · subst own
        simp only [hasDevice, hc, Option.any_some] at has
        split at has
        · rename_i d stage
          exact ⟨_, by simp [HardwareBench.forget, HardwareBench.setStage, hc], .forget stage⟩
        · cases has
      · exact ⟨call, (getElem?_setStage_ne own b.hw _).trans hc, .same⟩
    · exact ⟨call, hc, .same⟩
  | startClose d =>
    simp only [HardwareBench.act]
    split <;> exact ⟨call, hc, .same⟩
  | abortClose m => exact ⟨call, hc, .same⟩
  | unplug c => exact ⟨call, hc, .same⟩
  | addCamera c => exact ⟨call, hc, .same⟩
  | failNext c count => exact ⟨call, hc, .same⟩
  | setLatency o c => exact ⟨call, hc, .same⟩
  | turn t =>
    simp only [HardwareBench.act]
    split
    · cases t with
      | «open» m =>
        by_cases own : m = n
        · subst own
          exact goes_resumeOpen h hc
        · exact ⟨call, (getElem?_resumeOpen_ne own b).trans hc, .same⟩
      | close m =>
        refine ⟨call, ?_, .same⟩
        simp only [Machine.resume, HardwareBench.resumeClose]
        split <;> exact hc
      | release d => exact ⟨call, hc, .same⟩
    · exact ⟨call, hc, .same⟩
  | elapse ms => exact ⟨call, hc, .same⟩

end Steps

/-! Whole runs. -/

section Runs
variable {b : HardwareBench}

theorem Sound.run (h : b.Sound) (acts : List Act) : (b.run acts).Sound := by
  induction acts generalizing b with
  | nil => exact h
  | cons a acts ih => exact ih (h.act a).1

theorem sound_start (names : List String) (openLatency closeLatency : Nat) :
    ({ hw := .simulated names openLatency closeLatency } : HardwareBench).Sound := by
  refine ⟨?_, nofun, nofun⟩
  have empty : ({ openLatency, closeLatency } : Hardware).Accounts :=
    ⟨nofun, nofun, nofun, nofun, fun c => rfl, fun c => .nil c⟩
  exact List.foldlRecOn (motive := Hardware.Accounts) _ _ empty fun w h c _ =>
    (Hardware.Shift.addCamera c w).accounts h

theorem devices_simulated (names : List String) (openLatency closeLatency : Nat) :
    (Hardware.simulated names openLatency closeLatency).devices = [] := by
  refine List.foldlRecOn (motive := fun w : Hardware => w.devices = []) _ _ rfl fun w none c _ => ?_
  unfold Hardware.addCamera
  split <;> exact none

theorem story_append (d : DeviceId) (acts more : List Act) (b : HardwareBench) :
    story d (acts ++ more) b = story d acts b ++ story d more (b.run acts) := by
  induction acts generalizing b with
  | nil => rfl
  | cons a acts ih =>
    rw [List.cons_append, story, ih, story, List.append_assoc]
    rfl

theorem Sound.story_of_linesOf (h : b.Sound) (d : DeviceId) {lines : List Event}
    (there : ∀ x, b.hw.devices[d]? = some x → x.Story lines)
    (new : b.hw.devices[d]? = none → lines = []) (acts : List Act) {y : Device}
    (hy : (b.run acts).hw.devices[d]? = some y) : y.Story (lines ++ story d acts b) := by
  induction acts generalizing b lines with
  | nil => exact (List.append_nil lines).symm ▸ there y hy
  | cons a acts ih =>
    obtain ⟨sound, course⟩ := h.act a
    have split : lines ++ story d (a :: acts) b =
        (lines ++ b.hw.linesOf (b.act a).hw d) ++ story d acts (b.act a) :=
      (List.append_assoc _ _ _).symm
    rw [split]
    cases hx : b.hw.devices[d]? with
    | none =>
      have none : lines ++ b.hw.linesOf (b.act a).hw d = [] := by simp [new hx, Hardware.linesOf, hx]
      rw [none]
      exact ih sound (fun z hz => .opening (course.fresh d z hx hz)) (fun _ => rfl) hy
    | some x =>
      obtain ⟨z, hz, xz⟩ := course.forward d x hx
      have told : b.hw.linesOf (b.act a).hw d = x.logLines z := by simp [Hardware.linesOf, hx, hz]
      have story := (there x hx).advances (h.accounts.simulated x (List.mem_of_getElem? hx)) xz
      rw [told]
      refine ih sound (fun z' hz' => ?_) (fun none => ?_) hy
      · obtain rfl : z = z' := Option.some.inj (hz.symm.trans hz')
        exact story
      · cases hz.symm.trans none

/-- A closed device stays closed, and its story is told. -/
theorem story_of_closed (h : b.Sound) {d : DeviceId} {x : Device}
    (hx : b.hw.devices[d]? = some x) (closed : x.stream.state = .closed) (acts : List Act) :
    story d acts b = [] ∧ ∃ y, (b.run acts).hw.devices[d]? = some y ∧ y.stream.state = .closed := by
  induction acts generalizing b x with
  | nil => exact ⟨rfl, x, hx, closed⟩
  | cons a acts ih =>
    obtain ⟨sound, course⟩ := h.act a
    obtain ⟨y, hy, xy⟩ := course.forward d x hx
    have closed' : y.stream.state = .closed := by
      rcases xy.stream with same | ⟨forward, -⟩
      · rw [same, closed]
      · rw [closed] at forward
        cases hs : y.stream.state <;> simp [hs, DeviceState.rank] at forward
    have quiet : b.hw.linesOf (b.act a).hw d = [] := by
      simp [Hardware.linesOf, hx, hy, Device.logLines_of_isUp_eq, Device.isUp, closed, closed']
    obtain ⟨none, last⟩ := ih sound hy closed'
    exact ⟨by rw [story, quiet, none]; rfl, last⟩

/-- The open is given up, has failed because its device went away, or still waits to find out. -/
def Misses (d : DeviceId) (due : Nat) (call : OpenCall) : Prop :=
  call.aborted = true ∨
  call.stage = .failed (.disconnected call.camera "device went away while opening") ∨
  call.stage = .opening d due

/-- An open whose device is closed never gets it. -/
theorem misses_act (h : b.Sound) {n d due : Nat} {call : OpenCall} {x : Device}
    (hc : b.opens[n]? = some call) (misses : Misses d due call)
    (hx : b.hw.devices[d]? = some x) (closed : x.stream.state = .closed) (a : Act) :
    ∃ call', (b.act a).opens[n]? = some call' ∧ call'.camera = call.camera ∧
      Misses d due call' := by
  obtain ⟨call', hc', goes⟩ := goes_act h hc a
  refine ⟨call', hc', ?_⟩
  cases goes with
  | same => exact ⟨rfl, misses⟩
  | abort => exact ⟨rfl, .inl rfl⟩
  | forget stage => exact ⟨rfl, .inl (by simpa [Misses, stage] using misses)⟩
  | leave aborted => exact ⟨rfl, .inl aborted⟩
  | start stage fresh => exact ⟨rfl, .inl (by simpa [Misses, fresh] using misses)⟩
  | @finish e due' y stage hy opening opened =>
    refine ⟨rfl, .inl ?_⟩
    rcases misses with aborted | failed | waits
    · exact aborted
    · cases stage.symm.trans failed
    · cases stage.symm.trans waits
      obtain rfl : x = y := Option.some.inj (hx.symm.trans hy)
      cases closed.symm.trans opening
  | fail stage hy late => exact ⟨rfl, .inr (.inl rfl)⟩

theorem misses_run (h : b.Sound) {n d due : Nat} {call : OpenCall} {x : Device}
    (hc : b.opens[n]? = some call) (misses : Misses d due call)
    (hx : b.hw.devices[d]? = some x) (closed : x.stream.state = .closed) (acts : List Act) :
    ∃ call', (b.run acts).opens[n]? = some call' ∧ call'.camera = call.camera ∧
      Misses d due call' := by
  induction acts generalizing b call x with
  | nil => exact ⟨call, hc, rfl, misses⟩
  | cons a acts ih =>
    obtain ⟨call', hc', camera, misses'⟩ := misses_act h hc misses hx closed a
    obtain ⟨-, y, hy, closed'⟩ := story_of_closed h hx closed [a]
    obtain ⟨last, hl, camera', missed⟩ := ih (h.act a).1 hc' misses' hy closed'
    exact ⟨last, hl, camera'.trans camera, missed⟩

/-- An open whose device is yanked away just now does not have it yet. -/
theorem misses_of_yanked (h : b.Sound) {n d due : Nat} {call : OpenCall} {a : Act} {y : Device}
    (hc : b.opens[n]? = some call) (stage : call.stage = .opening d due)
    (hy : (b.act a).hw.devices[d]? = some y) (closed : y.stream.state = .closed) :
    ∃ call', (b.act a).opens[n]? = some call' ∧ call'.camera = call.camera ∧
      Misses d due call' := by
  obtain ⟨call', hc', goes⟩ := goes_act h hc a
  refine ⟨call', hc', ?_⟩
  cases goes with
  | same => exact ⟨rfl, .inr (.inr stage)⟩
  | abort => exact ⟨rfl, .inl rfl⟩
  | forget other => cases stage.symm.trans other
  | leave aborted => exact ⟨rfl, .inl aborted⟩
  | start _ fresh => cases stage.symm.trans fresh
  | @finish e due' z other hz waits opened =>
    cases stage.symm.trans other
    obtain rfl : y = z.opened := Option.some.inj (hy.symm.trans opened)
    cases closed
  | fail _ hz late => exact ⟨rfl, .inr (.inl rfl)⟩

/-- Once its time has come, an open whose device is gone fails at its turn. -/
theorem act_turn_of_closed (h : b.Sound) {n d due : Nat} {call : OpenCall} {x : Device}
    (hc : b.opens[n]? = some call) (stage : call.stage = .opening d due)
    (kept : call.aborted = false) (hx : b.hw.devices[d]? = some x)
    (closed : x.stream.state = .closed) (time : due ≤ b.hw.now) :
    (b.act (.turn (.open n))).opens[n]? = some { call with
      stage := .failed (.disconnected call.camera "device went away while opening") } := by
  have ready : .open n ∈ Machine.ready b := ready_open hc (by simp [openReady, stage, time])
  have turns : b.act (.turn (.open n)) = b.resumeOpen n := if_pos ready
  obtain ⟨y, hy, camera⟩ := h.opens n call d due hc stage
  obtain rfl : x = y := Option.some.inj (hx.symm.trans hy)
  rcases Hardware.finishOpen_cases h.accounts hx with ⟨opening, -⟩ | ⟨-, lost⟩
  · cases closed.symm.trans opening
  · rw [turns, HardwareBench.resumeOpen, hc]
    dsimp only
    rw [if_neg (by simp [kept]), stage]
    dsimp only
    rw [HardwareBench.endOpen, ← camera, lost]
    simp [HardwareBench.setStage, hc, camera]

end Runs

/-- The simulated cameras after a run, and what anything that happens then makes of them. -/
structure Accounted (start : HardwareBench) (acts : List Act) : Prop where
  /-- What a device publishes is a move forward. -/
  forward : ∀ (a : Act) (d : DeviceId) (x : Device), (start.run acts).hw.devices[d]? = some x →
    ∃ y, ((start.run acts).act a).hw.devices[d]? = some y ∧ (y.stream = x.stream ∨
      x.stream.state.rank < y.stream.state.rank ∧ y.stream.version = x.stream.version + 1)
  /-- Every line of the device log is the line of a device that came up or went down just then. -/
  lines : ∀ a : Act, ((start.run acts).act a).hw.deviceLog = (start.run acts).hw.deviceLog ++
    (List.range ((start.run acts).act a).hw.devices.length).flatMap
      ((start.run acts).hw.linesOf ((start.run acts).act a).hw)
  /-- A device makes one line when it comes up and one when it closes after that. -/
  story : ∀ (d : DeviceId) (x : Device), (start.run acts).hw.devices[d]? = some x →
    x.Story (start.story d acts)
  /-- A device that is yanked away while it opens makes no line, and its open fails unless it is given
  up before. -/
  yanked : ∀ (before : List Act) (a : Act) (after : List Act) (d : DeviceId) (x y : Device),
    acts = before ++ a :: after →
    (start.run before).hw.devices[d]? = some x → x.stream.state = .opening →
    (start.run (before ++ [a])).hw.devices[d]? = some y → y.stream.state = .closed →
    start.story d acts = [] ∧ ∀ (n : Nat) (call : OpenCall) (due : Nat),
      (start.run before).opens[n]? = some call → call.stage = .opening d due →
      ∃ call', (start.run acts).opens[n]? = some call' ∧ (call'.aborted = true ∨
        call'.stage = .failed (.disconnected call.camera "device went away while opening") ∨
        call'.stage = .opening d due ∧ (due ≤ (start.run acts).hw.now →
          (((start.run acts).act (.turn (.open n))).opens[n]?).map (·.stage) =
            some (.failed (.disconnected call.camera "device went away while opening"))))
  /-- The counts of every camera fit the device log. -/
  books : ∀ c : CameraId, Camera.Books c (start.run acts).hw.deviceLog
    (((start.run acts).hw.camera? c).getD {})

/-- A device that is yanked away while it opens, and the open that was about to get it. -/
theorem Sound.yanked {start : HardwareBench} (h : start.Sound) {before : List Act} {a : Act}
    {d : DeviceId} {x y : Device} (hx : (start.run before).hw.devices[d]? = some x)
    (opening : x.stream.state = .opening) (story : x.Story (start.story d before))
    (hy : (start.run (before ++ [a])).hw.devices[d]? = some y) (closed : y.stream.state = .closed)
    (after : List Act) : start.story d (before ++ a :: after) = [] ∧
      ∀ (n : Nat) (call : OpenCall) (due : Nat),
      (start.run before).opens[n]? = some call → call.stage = .opening d due →
      ∃ call' z, (start.run (before ++ a :: after)).opens[n]? = some call' ∧
        call'.camera = call.camera ∧ Misses d due call' ∧
        (start.run (before ++ a :: after)).hw.devices[d]? = some z ∧ z.stream.state = .closed := by
  have sound := h.run before
  have hy : ((start.run before).act a).hw.devices[d]? = some y := by
    rw [run_append] at hy
    exact hy
  have last : start.run (before ++ a :: after) = ((start.run before).act a).run after :=
    run_append _ _ _
  have down : x.isUp = false ∧ y.isUp = false := by simp [Device.isUp, opening, closed]
  have quiet : (start.run before).hw.linesOf ((start.run before).act a).hw d = [] := by
    simp [Hardware.linesOf, hx, hy, Device.logLines_of_isUp_eq, down]
  obtain ⟨silent, z, hz, gone⟩ := story_of_closed (sound.act a).1 hy closed after
  refine ⟨?_, fun n call due hc stage => ?_⟩
  · rw [story_append, story.eq_nil_of_opening opening, HardwareBench.story, quiet, silent]
    rfl
  · obtain ⟨call', hc', camera, misses⟩ := misses_of_yanked sound hc stage hy closed
    obtain ⟨call'', hc'', camera', missed⟩ :=
      misses_run (sound.act a).1 hc' misses hy closed after
    exact ⟨call'', z, last ▸ hc'', camera'.trans camera, missed, last ▸ hz, gone⟩

/-- Whatever opens, closes, disconnects and failures come together, with whatever latencies: the
devices, the log and the counts of the simulated cameras fit each other. -/
theorem backend_accounts (names : List String) (openLatency closeLatency : Nat) (acts : List Act) :
    Accounted { hw := .simulated names openLatency closeLatency } acts := by
  have fresh := sound_start names openLatency closeLatency
  have sound := fresh.run acts
  have stories : ∀ (acts : List Act) (d : DeviceId) (x : Device), (run acts
      { hw := .simulated names openLatency closeLatency }).hw.devices[d]? = some x →
      x.Story (story d acts { hw := .simulated names openLatency closeLatency }) := by
    intro acts d x hx
    have none := devices_simulated names openLatency closeLatency
    exact fresh.story_of_linesOf d (fun y hy => by simp [none] at hy) (fun _ => rfl) acts hx
  refine ⟨fun a d x hx => ?_, fun a => (sound.act a).2.lines, stories acts, ?_, fun c => ?_⟩
  · obtain ⟨y, hy, xy⟩ := (sound.act a).2.forward d x hx
    exact ⟨y, hy, xy.stream⟩
  · rintro before a after d x y rfl hx opening hy closed
    obtain ⟨silent, calls⟩ :=
      fresh.yanked hx opening (stories before d x hx) hy closed after
    refine ⟨silent, fun n call due hc stage => ?_⟩
    obtain ⟨call', z, hc', camera, misses, hz, gone⟩ := calls n call due hc stage
    refine ⟨call', hc', ?_⟩
    rcases misses with aborted | failed | waits
    · exact .inl aborted
    · exact .inr (.inl (camera ▸ failed))
    · by_cases aborted : call'.aborted = true
      · exact .inl aborted
      · refine .inr (.inr ⟨waits, fun time => ?_⟩)
        rw [act_turn_of_closed sound hc' waits (by simpa using aborted) hz gone time, camera]
        rfl
  · obtain ⟨balance, releases, covered, attained⟩ := sound.accounts.books c
    exact ⟨balance, releases, covered, attained⟩

/-- Two devices of one camera. The first is closed while the camera is unplugged, the second is yanked
away while it opens. -/
def unpluggedTwice : HardwareBench :=
  run [.startOpen Broker.front, .turn (.open 0), .turn (.open 0), .setLatency 5 5,
    .startOpen Broker.front, .turn (.open 1), .startClose 0, .turn (.close 0), .unplug Broker.front,
    .elapse 5, .turn (.release 0), .turn (.open 1)] { hw := .simulated ["front"] 0 0 }

example : unpluggedTwice.hw.deviceLog = [.logOpened Broker.front, .logClosed Broker.front] ∧
    unpluggedTwice.opens.map (·.stage) = [.open 0,
      .failed (.disconnected Broker.front "device went away while opening")] := by
  decide

end HardwareBench

end CameraBroker
