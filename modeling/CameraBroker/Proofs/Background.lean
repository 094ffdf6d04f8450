import CameraBroker.Proofs.DeviceMoves
import CameraBroker.Proofs.Fading

/-! What goes on beside the loop: requests arrive, devices change, and tasks close the sessions
that the loop has given up. Every action but a turn of the loop is made of such moves. -/
namespace CameraBroker

namespace View

def HasRoom (v : View) : Prop :=
  v.inbox.reader = .open ∧ v.inbox.producers ≠ 0 ∧ v.inbox.buffer.length < inboxDepth

def arrive (r : Request) (v : View) : View :=
  { v with inbox := { v.inbox with buffer := v.inbox.buffer ++ [r] } }.note (.accepted r)

def addHandle (c : CameraId) (v : View) : View := { v with wanted := v.wanted ++ [c] }

def setCloseStage (k : Nat) (stage : CloseStage) (v : View) : View :=
  { v with closes := v.closes.modify k fun c => { c with stage } }

def shut (i : SessionId) (v : View) : View :=
  { v with ties := v.ties.modify i fun _ => { closing := true } }

/-- One move beside the loop. A close lets go of no handle that is to be kept. -/
inductive Background (kept : HandleId → Prop) (v : View) : View → Prop where
  | device {d : DeviceId} {x y : Device} (hx : v.devices[d]? = some x) (xy : x.Becomes y) :
      Background kept v { v with
        devices := v.devices.set d y, milestones := x.logLines y ++ v.milestones }
  | refusedOpen (c : CameraId) : Background kept v (v.addHandle c)
  | «open» (c : CameraId) (share : Bool) (room : v.HasRoom) :
      Background kept v ((v.addHandle c).arrive (.open v.wanted.length share))
  | close {i : SessionId} (hi : i < v.faces.length) (room : v.HasRoom) :
      Background kept v (v.arrive (.close i))
  | closeAll (room : v.HasRoom) : Background kept v (v.arrive .closeAll)
  | leave : Background kept v { v with inbox := v.inbox.dropProducer }
  | beginClose {k : Nat} {i : SessionId} (hk : v.closes[k]? = some ⟨i, .fresh⟩)
      {stage : CloseStage} (hs : stage ≠ .fresh)
      (gone : ∀ (t : Tie) (h : HandleId), v.ties[i]? = some t → t.current = some h → ¬kept h) :
      Background kept v ((v.shut i).setCloseStage k stage)
  | endClose {k : Nat} {c : SessionClose} (hk : v.closes[k]? = some c) (hc : c.stage ≠ .fresh) :
      Background kept v (v.setCloseStage k .done)

abbrev Meanwhile (kept : HandleId → Prop) : View → View → Prop :=
  Relation.ReflTransGen (Background kept)

theorem Meanwhile.of_eq {kept : HandleId → Prop} {v w : View} (h : w = v) : Meanwhile kept v w :=
  h ▸ .refl

/-- What every move preserves is still true later. -/
theorem Meanwhile.invariant {kept : HandleId → Prop} {P : View → Prop}
    (move : ∀ v w, Background kept v w → P v → P w) {v w : View} (h : Meanwhile kept v w)
    (hv : P v) : P w := by
  induction h with
  | refl => exact hv
  | tail _ m ih => exact move _ _ m ih

structure DevicesFit (v : View) : Prop where
  release : ∀ x ∈ v.devices, x.ReleaseFits
  opened : ∀ f ∈ v.faces, ∀ x : Device, v.devices[f.device]? = some x → x.isManual = false →
    DeviceState.open.rank ≤ x.stream.state.rank

end View

namespace Broker
variable {b b' : Broker} {kept : HandleId → Prop}

/-- The hardware moves under an otherwise unchanged broker. -/
theorem meanwhile_of_moves {w : Hardware} (h : b.hw.Moves w) :
    View.Meanwhile kept b.view { b with hw := w }.view := by
  induction h with
  | refl => exact .refl
  | @tail u w _ move ih =>
    cases move with
    | silent devices milestones =>
      have same : { b with hw := w }.view = { b with hw := u }.view := by
        simp [view, devices, milestones]
      exact same ▸ ih
    | @device d x y hx xy devices milestones =>
      have next : { b with hw := w }.view = { { b with hw := u }.view with
          devices := u.devices.set d y, milestones := x.logLines y ++ u.milestones } := by
        simp [view, devices, milestones]
      exact ih.tail (next ▸ .device hx xy)

theorem offer_ok {r : Request} (h : b.offer r = .ok b') :
    b.inbox.reader = .open ∧ b.inbox.buffer.length < inboxDepth ∧
      b'.view = b.view.arrive r ∧ b'.handles = b.handles := by
  unfold offer at h
  cases taken : b.inbox.offer r with
  | error e =>
    rw [taken] at h
    cases h
  | ok inbox =>
    rw [taken] at h
    cases h
    obtain ⟨reader, room, rfl⟩ := Inbox.offer_eq_ok.1 taken
    exact ⟨reader, room, rfl, rfl⟩

/-- A session asks for its close at most. -/
theorem meanwhile_requestClose (i : SessionId) (b : Broker) :
    View.Meanwhile kept b.view (b.requestClose i).2.view ∧
      (b.requestClose i).2.handles = b.handles := by
  unfold requestClose
  split
  · exact ⟨.refl, rfl⟩
  · rename_i s hs
    split
    · exact ⟨.refl, rfl⟩
    · rename_i hc
      have hi : i < b.view.faces.length := by
        obtain ⟨hi, -⟩ := List.getElem?_eq_some_iff.1 hs
        simpa [view] using hi
      split
      · rename_i b' hb
        obtain ⟨reader, room, hv, hh⟩ := offer_ok hb
        have arrived : View.Background kept b.view (b.view.arrive (.close i)) :=
          .close hi ⟨reader, by simp_all [view], room⟩
        exact ⟨.single (by rw [view_emit, hv]; exact arrived), hh⟩
      · exact ⟨by rw [view_emit]; exact .refl, rfl⟩
      · exact ⟨.refl, rfl⟩

theorem meanwhile_notify (i : SessionId) (b : Broker) :
    View.Meanwhile kept b.view (b.notify i).view ∧ (b.notify i).handles = b.handles := by
  obtain ⟨hv, hh⟩ := meanwhile_requestClose i b
  exact ⟨by simpa [notify] using hv, hh⟩

theorem meanwhile_expire (i : SessionId) (b : Broker) :
    View.Meanwhile kept b.view (b.expire i).2.view ∧ (b.expire i).2.handles = b.handles := by
  unfold expire
  split
  · exact ⟨.refl, rfl⟩
  · rename_i t ht
    obtain ⟨hv, hh⟩ := meanwhile_notify i (b.onTimer i fun _ => t)
    exact ⟨by simpa using hv, hh⟩

theorem meanwhile_wakeCountdown (i : SessionId) (generation : Nat) (b : Broker) :
    View.Meanwhile kept b.view (b.wakeCountdown i generation).view ∧
      (b.wakeCountdown i generation).handles = b.handles := by
  unfold wakeCountdown
  split
  · exact ⟨.refl, rfl⟩
  · dsimp only
    split
    · exact ⟨.of_eq (b.view_onTimer _ _), rfl⟩
    · rename_i u hu
      obtain ⟨hv, hh⟩ := meanwhile_notify i (b.onTimer i fun _ => u)
      exact ⟨by simpa using hv, hh⟩

theorem meanwhile_listen (i : SessionId) (b : Broker) :
    View.Meanwhile kept b.view (b.listen i).view ∧ (b.listen i).handles = b.handles := by
  have same : ∀ l, (b.onSession i fun x => { x with listener := l }).view = b.view := fun l =>
    b.view_onSession_id (f := fun x => { x with listener := l }) (fun _ => rfl) (fun _ => rfl) i
  unfold listen
  split
  · split
    · dsimp only
      split
      · exact ⟨.of_eq ((view_onTimer _ _ _).trans (same _)), rfl⟩
      · obtain ⟨hv, hh⟩ := meanwhile_expire i (b.onSession i fun x => { x with listener := .done })
        rw [same] at hv
        split
        · exact ⟨by rw [view_emit]; exact hv, hh⟩
        · exact ⟨hv, hh⟩
    · exact ⟨.of_eq (same _), rfl⟩
  · exact ⟨.refl, rfl⟩

theorem view_shut (i : SessionId) (f : IdleTimer → IdleTimer) (b : Broker) :
    (b.onSession i fun x => { x with closing := true, timer := f x.timer, current := none }).view =
      b.view.shut i := by
  refine b.view_onSession (g := fun _ => { closing := true }) ?_ ?_ i
  · intro s
    rfl
  · intro s
    rfl

/-- The part of a close before the device is asked. -/
theorem beginClose_eq {i : SessionId} {s : Session} (hs : b.sessions[i]? = some s) :
    ∃ c : Broker, c.view = b.view.shut i ∧ b.Fades c ∧
      (∀ h, s.current = some h → ¬c.Connected h) ∧
      b.beginClose i = ((c.hw.closeDevice s.device).1,
        { c with hw := (c.hw.closeDevice s.device).2 }) := by
  let told := if s.closing then b else b.emit (.sessionClosing s.camera i)
  let shut := told.onSession i fun x =>
    { x with closing := true, timer := x.timer.release.2, current := none }
  have hv : shut.view = b.view.shut i := by
    have same : told.view = b.view := by
      unfold told
      split
      · rfl
      · rw [view_emit]
        rfl
    rw [← same]
    exact view_shut i (·.release.2) told
  have hh : shut.handles = b.handles := by
    unfold shut told
    split <;> rfl
  cases hc : s.current with
  | none =>
    refine ⟨shut, hv, .of_eq hh, by simp, ?_⟩
    simp only [beginClose, hs, hc]
    rfl
  | some h =>
    refine ⟨shut.disconnect h, by rw [view_disconnect, hv], ?_, ?_, ?_⟩
    · exact (Fades.of_eq hh).trans (shut.fades_disconnect h)
    · intro g hg
      cases hg
      rintro ⟨y, hy, hs⟩
      exact disconnect_ne_connected hy hs
    · simp only [beginClose, hs, hc]
      rfl

/-- A task that closes a session takes its turn. -/
theorem meanwhile_resumeClose (fit : b.view.DevicesFit) (k : Nat) :
    View.Meanwhile (b.resumeClose k).Connected b.view (b.resumeClose k).view ∧
      b.Fades (b.resumeClose k) := by
  unfold resumeClose
  split
  · exact ⟨.refl, .refl b⟩
  · rename_i c hk
    obtain ⟨i, stage⟩ := c
    cases stage with
    | fresh =>
      cases hs : b.sessions[i]? with
      | none =>
        have absent : b.view.shut i = b.view := by
          have h : b.view.ties.length ≤ i := by
            simpa [view] using List.getElem?_eq_none_iff.1 hs
          simp only [View.shut, List.modify_eq_self h]
        have nothing : b.beginClose i = (false, b) := by simp [beginClose, hs]
        rw [nothing]
        refine ⟨.single ?_, .of_eq rfl⟩
        have gone : ∀ (t : Tie) (h : HandleId), b.view.ties[i]? = some t →
            t.current = some h → ¬b.Connected h := by simp [view, hs]
        have move : View.Background b.Connected b.view
            ((b.view.shut i).setCloseStage k .done) := .beginClose hk (by decide) gone
        rwa [absent] at move
      | some s =>
        obtain ⟨c, hv, fades, gone, he⟩ := beginClose_eq hs
        have devices : c.hw.devices = b.hw.devices := congrArg View.devices hv
        have moves : c.hw.Moves (c.hw.closeDevice s.device).2 := by
          apply Hardware.Moves.closeDevice
          intro x hx hm
          have hf : s.face ∈ b.view.faces := List.mem_map_of_mem (List.mem_of_getElem? hs)
          rw [devices] at hx
          exact fit.opened s.face hf x hx hm
        have turn : ∀ stage : CloseStage, stage ≠ .fresh →
            View.Meanwhile c.Connected b.view { c with
              hw := (c.hw.closeDevice s.device).2
              closes := c.closes.modify k fun c => { c with stage } }.view := by
          intro stage hstage
          have first : View.Background c.Connected b.view
              { c with closes := c.closes.modify k fun c => { c with stage } }.view := by
            have same : { c with closes := c.closes.modify k fun c => { c with stage } }.view =
                c.view.setCloseStage k stage := rfl
            rw [same, hv]
            refine .beginClose hk hstage fun t h ht hh => ?_
            obtain rfl : s.tie = t := by simpa [view, hs] using ht
            exact gone h hh
          exact (Relation.ReflTransGen.single first).trans (meanwhile_of_moves moves)
        rw [he]
        cases (c.hw.closeDevice s.device).1 with
        | true => exact ⟨turn .awaiting (by decide), fades.trans (.of_eq rfl)⟩
        | false => exact ⟨turn .done (by decide), fades.trans (.of_eq rfl)⟩
    | awaiting => exact ⟨.single (.endClose hk (by simp)), .of_eq rfl⟩
    | done => exact ⟨.single (.endClose hk (by simp)), .of_eq rfl⟩

/-- What an action other than a turn of the loop does. -/
structure Beside (b b' : Broker) : Prop where
  view : View.Meanwhile b'.Connected b.view b'.view
  fades : ∀ (h : HandleId) (x : Handle), b.handles[h]? = some x →
    ∃ y, b'.handles[h]? = some y ∧ x.Fades y
  created : ∀ (h : HandleId) (y : Handle), b'.handles[h]? = some y → b.handles.length ≤ h →
    y.state ≠ .connected ∧ (y.state = .unopened → ∃ share, .open h share ∈ b'.waiting)

namespace Beside

theorem of_fades (view : View.Meanwhile b'.Connected b.view b'.view) (fades : b.Fades b') :
    b.Beside b' := by
  refine ⟨view, fades.2, fun h y hy hle => ?_⟩
  obtain ⟨hlt, -⟩ := List.getElem?_eq_some_iff.1 hy
  exact absurd (fades.1 ▸ hlt) (Nat.not_lt.2 hle)

theorem of_handles_eq (view : View.Meanwhile b'.Connected b.view b'.view)
    (handles : b'.handles = b.handles) : b.Beside b' :=
  .of_fades view (.of_eq handles)

theorem refl (b : Broker) : b.Beside b := .of_fades .refl (.refl b)

theorem of_moves {w : Hardware} (h : b.hw.Moves w) : b.Beside { b with hw := w } :=
  .of_handles_eq (meanwhile_of_moves h) rfl

/-- Only what the view leaves out changes. -/
theorem silent (view : b'.view = b.view) (handles : b'.handles = b.handles) : b.Beside b' :=
  .of_handles_eq (.of_eq view) handles

theorem requestOpen {c : CameraId} {share : Bool} (client : b.inbox.producers ≠ 0)
    (h : b.requestOpen c share = .ok b') : b.Beside b' := by
  have view : (b.createHandle c).view = b.view.addHandle c := by
    simp [Broker.view, createHandle, View.addHandle]
  have length : b.view.wanted.length = b.handles.length := by simp [Broker.view]
  have old : ∀ (g : HandleId) (x : Handle), b.handles[g]? = some x →
      (b.createHandle c).handles[g]? = some x := by
    intro g x hx
    obtain ⟨hlt, -⟩ := List.getElem?_eq_some_iff.1 hx
    simp [createHandle, List.getElem?_append_left hlt, hx]
  have new : ∀ (g : HandleId) (x : Handle), (b.createHandle c).handles[g]? = some x →
      b.handles.length ≤ g → g = b.handles.length ∧ x = { camera := c } := by
    intro g x hx hle
    obtain ⟨hlt, -⟩ := List.getElem?_eq_some_iff.1 hx
    have hlt : g < b.handles.length + 1 := by simpa [createHandle] using hlt
    obtain rfl : g = b.handles.length := Nat.le_antisymm (Nat.lt_succ_iff.1 hlt) hle
    exact ⟨rfl, by simpa [createHandle] using hx.symm⟩
  unfold Broker.requestOpen at h
  dsimp only at h
  split at h
  · rename_i b₁ ho
    cases h
    obtain ⟨reader, room, hv, hh⟩ := offer_ok ho
    rw [view] at hv
    refine ⟨.single ?_, fun g x hx => ⟨x, hh ▸ old g x hx, .refl x⟩, fun g y hy hle => ?_⟩
    · rw [hv, ← length]
      exact .open c share ⟨reader, client, room⟩
    · obtain ⟨rfl, rfl⟩ := new g y (hh ▸ hy) hle
      refine ⟨by simp, fun _ => ⟨share, ?_⟩⟩
      rw [← view_waiting, hv]
      simp [View.waiting, View.arrive, View.note]
  · cases h
  · rename_i ho
    cases h
    let told := (b.createHandle c).emit .requestDropped
    have fades := told.fades_failHandle b.handles.length .brokerStopped
    refine ⟨.single ?_, fun g x hx => fades.2 g x (old g x hx), fun g y hy hle => ?_⟩
    · rw [view_failHandle, view_emit]
      exact view ▸ .refusedOpen c
    · obtain ⟨x, hx, xy⟩ := fades.before hy
      obtain ⟨rfl, rfl⟩ := new g x hx hle
      refine ⟨fun hc => ?_, fun hu => ?_⟩
      · cases xy.connected hc
      · have there : b.handles.length < told.handles.length := by
          simp [told, createHandle, emit]
        obtain ⟨z, hz, hne⟩ := resolves_failHandle there .brokerStopped
        obtain rfl : y = z := Option.some.inj (hy.symm.trans hz)
        exact absurd hu hne

theorem offerCloseAll (client : b.inbox.producers ≠ 0) (h : b.offer .closeAll = .ok b') :
    b.Beside b' := by
  obtain ⟨reader, room, hv, hh⟩ := offer_ok h
  have arrived : View.Background b'.Connected b.view b'.view :=
    hv ▸ .closeAll ⟨reader, client, room⟩
  exact .of_handles_eq (.single arrived) hh

theorem requestCloseAll (client : b.inbox.producers ≠ 0) (h : b.requestCloseAll = .ok b') :
    b.Beside b' := by
  unfold Broker.requestCloseAll at h
  split at h
  · rename_i b₁ ho
    cases h
    exact .offerCloseAll client ho
  · cases h
  · cases h
    exact .silent (by rw [view_emit]; rfl) rfl

theorem beginShutdown (client : b.inbox.producers ≠ 0) : b.Beside b.beginShutdown := by
  have left : ∀ c : Broker, View.Background c.leave.Connected c.view c.leave.view := fun c => .leave
  unfold Broker.beginShutdown offerOrLeave
  cases ho : b.offer .closeAll with
  | ok c =>
    obtain ⟨reader, room, hv, hh⟩ := offer_ok ho
    have arrived : View.Background c.leave.Connected b.view c.view :=
      hv ▸ .closeAll ⟨reader, client, room⟩
    exact .of_handles_eq (.tail (.single arrived) (left c)) hh
  | error e => exact .of_handles_eq (.single (left b)) rfl

theorem onManual (d : DeviceId) {f : Stream → Stream}
    (hf : ∀ s, (f s).live = true → s.live = true) : b.Beside (b.onManual d f) := by
  unfold Broker.onManual
  split
  · split
    · rename_i camera onClose stream release hx hl
      exact .of_moves (.single (.onManual hx rfl (hf _)))
    · exact .refl b
  · exact .refl b

theorem forget (h : HandleId) (b : Broker) : b.Beside (b.forget h) := by
  have states : ∀ (g : HandleId) (x : Handle), b.handles[g]? = some x →
      ∃ y, (b.forget h).handles[g]? = some y ∧ x.Fades y := by
    intro g x hx
    by_cases hg : h = g
    · subst hg
      exact ⟨{ x with clients := x.clients - 1 }, by simp [Broker.forget, hx],
        rfl, Nat.le_refl _, id⟩
    · exact ⟨x, by simp [Broker.forget, hg, hx], .refl x⟩
  refine .of_fades (.of_eq ?_) ⟨by simp [Broker.forget], states⟩
  have cameras : (b.forget h).handles.map (·.camera) = b.handles.map (·.camera) := by
    apply List.ext_getElem?
    intro g
    by_cases hg : h = g <;> simp [Broker.forget, hg, Function.comp_def]
  simp only [Broker.view, cameras]
  rfl

theorem rescript (delay : Nat) (onClose : OnClose) (outcomes : List ScriptedOpen) (b : Broker) :
    b.Beside (b.rescript delay onClose outcomes) := by
  unfold Broker.rescript
  split
  · exact .silent rfl rfl
  · exact .refl b

theorem release {d : DeviceId} (fit : b.view.DevicesFit) (ready : d ∈ b.hw.readyReleases) :
    b.Beside (b.onHardware (·.resumeRelease d)) := by
  simp only [Hardware.readyReleases, List.mem_filter] at ready
  obtain ⟨-, ready⟩ := ready
  cases hx : b.hw.devices[d]? with
  | none => simp [hx] at ready
  | some x =>
    have hr : x.ReleaseFits := fit.release x (List.mem_of_getElem? hx)
    refine .of_moves (.resumeRelease hx hr fun hne => ?_)
    obtain ⟨camera, make, stream, release⟩ := x
    cases hne
    simp [hx] at ready

end Beside

/-- Every action but a turn of the loop is made of moves beside the loop. -/
theorem beside_step (fit : b.view.DevicesFit) {a : Action} (ha : a ≠ .turn .loop) :
    b.Beside (b.step a) := by
  cases a with
  | turn t =>
    simp only [step]
    split
    · rename_i ready
      cases t with
      | release d => exact .release fit (by simpa [readyTasks] using ready)
      | observe h => exact .of_fades (.of_eq (b.view_observe h)) (b.fades_observe h)
      | listen i =>
        obtain ⟨hv, hh⟩ := meanwhile_listen i b
        exact .of_handles_eq hv hh
      | close k =>
        obtain ⟨hv, hf⟩ := meanwhile_resumeClose fit k
        exact .of_fades hv hf
      | countdown i g =>
        obtain ⟨hv, hh⟩ := meanwhile_wakeCountdown i g b
        exact .of_handles_eq hv hh
      | loop => exact absurd rfl ha
    · exact .refl b
  | «open» c share =>
    simp only [step, orUnchanged]
    split
    · rename_i client
      split
      · rename_i b' h
        exact .requestOpen (by simpa [hasClient] using client) h
      · exact .refl b
    · exact .refl b
  | closeAll =>
    simp only [step, orUnchanged]
    split
    · rename_i client
      split
      · rename_i b' h
        exact .requestCloseAll (by simpa [hasClient] using client) h
      · exact .refl b
    · exact .refl b
  | shutdown =>
    simp only [step]
    split
    · rename_i client
      exact .beginShutdown (by simpa [hasClient] using client)
    · exact .refl b
  | leave =>
    simp only [step]
    split
    · exact .of_handles_eq (.single .leave) rfl
    · exact .refl b
  | join =>
    simp only [step, endShutdown]
    split
    · split
      · exact .silent (by rw [view_emit]; rfl) rfl
      · exact .refl b
    · exact .refl b
  | disconnect h => exact .of_fades (.of_eq (b.view_disconnect h)) (b.fades_disconnect h)
  | forget h => exact .forget h b
  | grant =>
    simp only [step, Broker.grant]
    split
    · exact .refl b
    · exact .silent (by rw [view_emit]; rfl) rfl
  | revoke =>
    simp only [step, Broker.revoke]
    split
    · exact .silent (by rw [view_emit]; rfl) rfl
    · exact .refl b
  | unplug c => exact .of_moves (.unplug c _ _)
  | addCamera c =>
    refine .of_moves (.single ?_)
    dsimp only
    unfold Hardware.addCamera
    split
    · exact .silent rfl rfl
    · exact .silent rfl rfl
  | failNext c n => exact .of_moves (.single (.silent rfl rfl))
  | setLatency o c => exact .of_moves (.single (.silent rfl rfl))
  | publish d state => exact .onManual d fun _ => id
  | dropPublisher d => exact .onManual d nofun
  | script delay onClose outcomes => exact .rescript delay onClose outcomes b
  | elapse ms => exact .silent rfl rfl

end Broker

end CameraBroker
