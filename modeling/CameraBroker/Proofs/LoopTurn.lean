import CameraBroker.Proofs.LoopRules
import CameraBroker.Proofs.Requests

/-! A turn of the request loop follows the rules. Each function of the loop acts on the view
like the operation of the same meaning there, and the case analysis of the loop is done once,
here. -/
namespace CameraBroker.Broker
variable {b : Broker}

section Views
variable (b)

@[simp] theorem view_setStage (stage : LoopStage) :
    (b.setStage stage).view = b.view.setStage stage := rfl

@[simp] theorem view_setPending (pending : List Request) :
    (b.setPending pending).view = b.view.setPending pending := rfl

@[simp] theorem view_setActive (active : List SessionId) :
    (b.setActive active).view = b.view.setActive active := rfl

@[simp] theorem view_serviced (r : Request) :
    (b.serviced r).view = b.view.note (.serviced r) := by
  rw [serviced, view_emit]
  rfl

@[simp] theorem view_popHead : b.popHead.view = b.view.popHead := by
  unfold popHead View.popHead
  have same : b.view.loop.pending = b.loop.pending := rfl
  rw [same]
  cases b.loop.pending with
  | nil => rfl
  | cons r rest => exact view_serviced (b.setPending rest) r

@[simp] theorem handles_popHead : b.popHead.handles = b.handles := by
  unfold popHead
  cases b.loop.pending <;> rfl

@[simp] theorem view_stopLoop : b.stopLoop.view = b.view.stop := by
  rw [stopLoop, view_setStage, view_emit]
  rfl

theorem view_spawnAll (sessions : List SessionId) :
    (sessions.foldl (fun b i => b.spawnClose i) b).view = b.view.startCloses sessions := by
  induction sessions generalizing b with
  | nil => simp [View.startCloses]
  | cons i sessions ih =>
    have first : (b.spawnClose i).view = b.view.startCloses [i] := rfl
    rw [List.foldl_cons, ih, first]
    simp [View.startCloses]

theorem handles_spawnAll (sessions : List SessionId) :
    (sessions.foldl (fun b i => b.spawnClose i) b).handles = b.handles := by
  induction sessions generalizing b with
  | nil => rfl
  | cons i sessions ih => exact ih (b.spawnClose i)

theorem view_awaitClosed (sessions left : List SessionId) (after : AfterClose) :
    (b.awaitClosed sessions left after).view =
      b.view.await sessions (left.filter fun i => !b.isSessionGone i) after := by
  unfold awaitClosed
  cases left.filter fun i => !b.isSessionGone i with
  | cons i left => rw [View.await_cons, view_setStage]
  | nil =>
    cases after with
    | read => exact (View.await_read sessions b.view).symm
    | stop => rw [View.await_stop, ← view_stopLoop, afterClose]

theorem handles_awaitClosed (sessions left : List SessionId) (after : AfterClose) :
    (b.awaitClosed sessions left after).handles = b.handles := by
  unfold awaitClosed
  split
  · cases after <;> rfl
  · rfl

end Views

/-- A session that somebody holds is gone only if its device is. -/
theorem isDown_of_isSessionGone {i : SessionId} (held : b.holdsSession i = true)
    (gone : b.isSessionGone i = true) : b.view.IsDown i := by
  intro f x hf hx
  obtain ⟨s, hs, rfl⟩ : ∃ s, b.sessions[i]? = some s ∧ s.face = f := by simpa [view] using hf
  have hx : b.hw.devices[s.device]? = some x := hx
  have hi : i < b.sessions.length := (List.getElem?_eq_some_iff.1 hs).1
  have live : b.holdsDevice s.device = true := by
    have any : (List.range b.sessions.length).any (fun j =>
        (b.sessions[j]?).any (fun y => y.device = s.device) && b.holdsSession j) = true :=
      List.any_eq_true.2 ⟨i, List.mem_range.2 hi, by simp [hs, held]⟩
    simp [holdsDevice, any]
  have said : (b.stream? s.device).all Stream.isGone = true := by
    simpa [isSessionGone, sessionStream?, hs] using gone
  cases hm : x.make with
  | simulated latency =>
    simpa [stream?, hx, hm, live, Stream.isGone, Device.IsGone, Device.isManual] using said
  | manual onClose =>
    simpa [stream?, hx, hm, Stream.isGone, Device.IsGone, Device.isManual] using said

/-- What a stream tells of a device that closes, it has from the device. -/
theorem isClosing_of_stream {i : SessionId}
    (down : ((b.sessionStream? i).any fun s => s.state.isTearingDown) = true) :
    b.view.IsClosing i := by
  cases hs : b.sessions[i]? with
  | none => simp [sessionStream?, hs] at down
  | some s =>
    cases hx : b.hw.devices[s.device]? with
    | none => simp [sessionStream?, hs, stream?, hx] at down
    | some x =>
      refine ⟨s.face, x, by simp [view, hs], hx, ?_⟩
      cases hm : x.make <;> simpa [sessionStream?, hs, stream?, hx, hm] using down

theorem holdsSession_of_mem_closes {i : SessionId} (h : { session := i } ∈ b.closes) :
    b.holdsSession i = true := by
  have any : b.closes.any (fun c => c.session = i && c.stage ≠ .done) = true :=
    List.any_eq_true.2 ⟨{ session := i }, h, by simp⟩
  unfold holdsSession
  rw [any, Bool.or_true]

/-- The loop closes sessions and waits for those whose device is not gone at once. -/
theorem view_closeSessions (active sessions : List SessionId) (after : AfterClose) (b : Broker) :
    ∃ left, b.view.Leaves sessions left ∧
      ((b.setActive active).closeSessions sessions after).view =
        b.view.retire sessions active left after := by
  let spawned := sessions.foldl (fun b i => b.spawnClose i) (b.setActive active)
  have view : spawned.view = (b.view.setActive active).startCloses sessions :=
    view_spawnAll (b.setActive active) sessions
  refine ⟨sessions.filter fun i => !spawned.isSessionGone i, ⟨List.filter_sublist.subset, ?_⟩, ?_⟩
  · intro i hi hout
    have gone : spawned.isSessionGone i = true := by
      by_contra h
      exact hout (List.mem_filter.2 ⟨hi, by simp [h]⟩)
    have closes : spawned.closes = b.closes ++ sessions.map fun i => { session := i } :=
      congrArg View.closes view
    have spawns : { session := i } ∈ spawned.closes := by
      rw [closes]
      exact List.mem_append_right _ (List.mem_map_of_mem hi)
    have down := isDown_of_isSessionGone (holdsSession_of_mem_closes spawns) gone
    rw [view] at down
    exact down
  · unfold closeSessions View.retire
    rw [view_awaitClosed]
    congr 1

theorem handles_closeSessions (sessions : List SessionId) (after : AfterClose) (b : Broker) :
    (b.closeSessions sessions after).handles = b.handles :=
  (handles_awaitClosed _ _ _ _).trans (handles_spawnAll _ _)

/-! The opener. -/

section Opening
variable {h : HandleId} {c : CameraId}

theorem opens_openerGaveUp (hh : h < b.handles.length) (lost : b.view.AcquiredIsLost) :
    Opens (b.openerGaveUp h c) h c b.view (b.openerGaveUp h c).view ∧
      b.Fades (b.openerGaveUp h c) := by
  let told := b.emit (.openGivenUp c)
  have view : (b.openerGaveUp h c).view =
      (b.view.note (.openGivenUp c)).popHead.setStage .reading := by
    unfold openerGaveUp giveUpOpen
    rw [view_setStage, view_popHead, view_failHandle, view_emit]
    rfl
  have handles : (b.openerGaveUp h c).handles = (told.failHandle h .openFailed).handles :=
    handles_popHead (told.failHandle h .openFailed)
  have resolved : (b.openerGaveUp h c).Resolves h := by
    obtain ⟨y, hy, hs⟩ := resolves_failHandle (b := told) hh .openFailed
    exact ⟨y, by rw [handles, hy], hs⟩
  rw [view]
  exact ⟨.giveUp lost resolved, (told.fades_failHandle h .openFailed).trans (.of_eq handles)⟩

theorem opens_attemptFailed (hh : h < b.handles.length) (lost : b.view.AcquiredIsLost)
    (p : RetryPolicy) (attempt : Nat) (e : DeviceError) :
    Opens (b.attemptFailed p h c attempt e) h c b.view (b.attemptFailed p h c attempt e).view ∧
      b.Fades (b.attemptFailed p h c attempt e) := by
  unfold attemptFailed
  split
  · rw [view_setStage, view_emit]
    exact ⟨.pause lost attempt _, .of_eq rfl⟩
  · have same : (b.emit (.gaveUp c attempt e)).view = b.view := by
      rw [view_emit]
      rfl
    have given := opens_openerGaveUp (b := b.emit (.gaveUp c attempt e)) (c := c) hh
      (same ▸ lost)
    rwa [same] at given

/-- An attempt fails at once, or the loop waits for a device that begins to open. -/
theorem beginAttempt_cases (b : Broker) (p : RetryPolicy) (h : HandleId) (c : CameraId)
    (attempt : Nat) : ∃ attempts, b.hw.countAttempt c = { b.hw with attempts } ∧
      ((∃ e cameras, b.beginAttempt p h c attempt =
        { b with hw := { b.hw with attempts, cameras } }.attemptFailed p h c attempt e) ∨
      ∃ x : Device, x.camera = c ∧ x.isManual = false ∧ x.stream.state = .opening ∧
        x.release = .none ∧ b.beginAttempt p h c attempt =
          { b with hw := { b.hw with attempts, devices := b.hw.devices ++ [x] } }.setStage
            (.opening h (.acquiring attempt b.hw.devices.length (b.now + b.hw.openLatency)))) := by
  obtain ⟨attempts, counted, ⟨e, cameras, failed⟩ | begun⟩ := b.hw.beginOpen_cases c
  · exact ⟨attempts, counted, .inl ⟨e, cameras, by rw [beginAttempt, failed]⟩⟩
  · exact ⟨attempts, counted, .inr ⟨_, rfl, rfl, rfl, rfl, by rw [beginAttempt, begun]; rfl⟩⟩

theorem opens_beginAttempt (hh : h < b.handles.length) (lost : b.view.AcquiredIsLost)
    (p : RetryPolicy) (attempt : Nat) :
    Opens (b.beginAttempt p h c attempt) h c b.view (b.beginAttempt p h c attempt).view ∧
      b.Fades (b.beginAttempt p h c attempt) := by
  obtain ⟨attempts, -, ⟨e, cameras, failed⟩ | ⟨x, camera, simulated, opening, idle, begun⟩⟩ :=
    b.beginAttempt_cases p h c attempt
  · rw [failed]
    exact opens_attemptFailed (b := { b with hw := { b.hw with attempts, cameras } }) hh lost p
      attempt e
  · rw [begun]
    exact ⟨.begin lost camera simulated opening idle attempt _, .of_eq rfl⟩

theorem view_deviceReady {d : DeviceId} {x : Device} (hx : b.hw.devices[d]? = some x) :
    (b.deviceReady c d).view = b.view.join c x.camera d := by
  have there : (b.emit (.deviceOpened c d)).hw.devices[d]? = some x := hx
  have told : (b.emit (.deviceOpened c d)).view = b.view.note (.deviceOpened c d) := by
    rw [view_emit]
    rfl
  unfold deviceReady startSession
  simp only [there, view_setStage, view_setActive]
  rw [View.join, ← told]
  simp [view, Session.start, Session.face, Session.tie, View.setStage, View.setActive,
    View.setLoop, emit]

theorem handles_deviceReady (d : DeviceId) : (b.deviceReady c d).handles = b.handles := by
  unfold deviceReady startSession
  dsimp only
  split <;> rfl

theorem opens_endAttempt {attempt due : Nat} {d : DeviceId} (hh : h < b.handles.length)
    (stage : b.loop.stage = .opening h (.acquiring attempt d due)) (p : RetryPolicy) :
    Opens (b.endAttempt p h c attempt d) h c b.view (b.endAttempt p h c attempt d).view ∧
      b.Fades (b.endAttempt p h c attempt d) := by
  have acquired : b.view.loop.stage.acquired? = some d := by
    have h : b.view.loop.stage = b.loop.stage := rfl
    rw [h, stage]
    rfl
  unfold endAttempt Hardware.finishOpen
  cases hx : b.hw.devices[d]? with
  | none =>
    have none' : b.hw.advance? d .open = none := by simp [Hardware.advance?, hx]
    simp only [none']
    refine opens_attemptFailed hh (fun e x he hx' => ?_) p attempt _
    obtain rfl : d = e := Option.some.inj (acquired.symm.trans he)
    cases hx.symm.trans hx'
  | some x =>
    rw [Hardware.advance?_eq hx]
    by_cases up : x.stream.state.canAdvanceTo .open = true
    · let published := b.hw.onStream d fun _ => x.stream.publish .open
      have hy : published.devices[d]? = some x.opened :=
        Hardware.getElem?_onStream hx fun _ => x.stream.publish .open
      have devices : published.devices = b.hw.devices.set d x.opened :=
        Hardware.devices_onDevice hx _
      let opened : Broker :=
        { b with hw := (published.recordOpen c).emit (.simulatedOpen c) }
      have view : opened.view =
          (b.view.setDevices (b.view.devices.set d x.opened)).note (.logOpened c) := by
        have told : opened.hw.milestones = .logOpened c :: b.hw.milestones := by
          unfold opened
          rw [Hardware.milestones_emit]
          rfl
        simp only [Broker.view, told, View.setDevices, View.note, ← devices]
        rfl
      have ready : ∀ o : Broker, o.view = opened.view → o.handles = b.handles →
          Opens (o.deviceReady c d) h c b.view (o.deviceReady c d).view ∧
            b.Fades (o.deviceReady c d) := by
        intro o ho handles
        have hy' : o.hw.devices[d]? = some x.opened := by
          have same : o.hw.devices = opened.hw.devices := congrArg View.devices ho
          rw [same]
          exact hy
        rw [view_deviceReady hy', ho, view]
        exact ⟨.simulated stage hx up, .of_eq ((handles_deviceReady d).trans handles)⟩
      simp only [if_pos up]
      split
      · exact ready _ (by rw [view_emit]; rfl) rfl
      · exact ready _ rfl rfl
    · simp only [if_neg up]
      refine opens_attemptFailed hh (fun e y he hy => ?_) p attempt _
      obtain rfl : d = e := Option.some.inj (acquired.symm.trans he)
      obtain rfl : x = y := Option.some.inj (hx.symm.trans hy)
      simpa using up

theorem opens_endScripted {due : Nat} (hh : h < b.handles.length)
    (stage : b.loop.stage = .opening h (.scripted due)) (onClose : OnClose)
    (outcome : ScriptedOpen) :
    Opens (b.endScripted h c onClose outcome) h c b.view
        (b.endScripted h c onClose outcome).view ∧
      b.Fades (b.endScripted h c onClose outcome) := by
  cases outcome with
  | refused =>
    refine opens_openerGaveUp hh fun d x hd => ?_
    have h : b.view.loop.stage = b.loop.stage := rfl
    rw [h, stage] at hd
    cases hd
  | crash => exact ⟨.crash stage, .of_eq rfl⟩
  | device state =>
    let x : Device := { camera := c, make := .manual onClose, stream := { state } }
    let added : Broker := { b with hw := (b.hw.addManual c state onClose).2 }
    have hx : added.hw.devices[b.hw.devices.length]? = some x := by
      simp [added, Hardware.addManual, x]
    have view : (added.deviceReady c b.hw.devices.length).view =
        (b.view.setDevices (b.view.devices ++ [x])).join c c b.view.devices.length :=
      view_deviceReady hx
    have ready : b.endScripted h c onClose (.device state) =
        added.deviceReady c b.hw.devices.length := rfl
    rw [ready, view]
    exact ⟨.manual stage rfl rfl rfl, .of_eq (handles_deviceReady _)⟩

theorem opens_resumeOpening {call : OpenerCall} {x : Handle} (hx : b.handles[h]? = some x)
    (stage : b.loop.stage = .opening h call) :
    (b.resumeOpening h call = b) ∨
      Opens (b.resumeOpening h call) h x.camera b.view (b.resumeOpening h call).view ∧
        b.Fades (b.resumeOpening h call) := by
  obtain ⟨hh, -⟩ := List.getElem?_eq_some_iff.1 hx
  unfold resumeOpening
  rw [hx]
  dsimp only
  split
  · exact .inr (opens_endAttempt hh stage _)
  · refine .inr (opens_beginAttempt hh (fun d y hd => ?_) _ _)
    have h : b.view.loop.stage = b.loop.stage := rfl
    rw [h, stage] at hd
    cases hd
  · rename_i delay onClose outcomes _
    exact .inr (opens_endScripted (b := { b with
      opener := .scripted delay onClose outcomes.tail }) hh stage onClose _)
  · exact .inl rfl

end Opening

/-! Attaching a handle, and giving up what a close-all supersedes. -/

theorem view_bind (i : SessionId) (h : HandleId) (b : Broker) :
    (b.onSession i fun s => { s with current := some h }).view = b.view.bind i h := by
  refine b.view_onSession (g := fun t => { t with current := some h }) ?_ ?_ i
  · intro s
    rfl
  · intro s
    rfl

/-- The session's new handle, before the one that it replaces is let go. -/
def bindHandle (i : SessionId) (h : HandleId) (c : CameraId) (y : Handle) (b : Broker) : Broker :=
  ((b.setHandle h y).emit (.attached h c i)).onSession i fun s => { s with current := some h }

/-- A handle that waits is always taken, with the timer's token or without it. -/
theorem connectTo_eq {i : SessionId} {s : Session} {h : HandleId} {x : Handle}
    (hs : b.sessions[i]? = some s) (hx : b.handles[h]? = some x) (hu : x.state = .unopened) :
    ∃ (timed : Broker) (y : Handle), timed.view = b.view ∧ timed.handles = b.handles ∧
      y.camera = x.camera ∧ y.state = .connected ∧
      b.connectTo i h = match s.current with
        | none => timed.bindHandle i h s.camera y
        | some previous => (timed.bindHandle i h s.camera y).disconnect previous := by
  let y (token : Option TimerId) : Handle :=
    { x with state := .connected, binding := some ⟨s.device, token, none⟩ }
  have taken : ∀ token, x.connect? s.device token = some (y token) := by
    intro token
    simp [y, Handle.connect?, Handle.move?, HandleState.canMoveTo, hu, HandleState.rank]
  cases ht : s.timer.acquire? with
  | some t =>
    refine ⟨b.onTimer i fun _ => t, y (some i), view_onTimer _ _ _, rfl, rfl, rfl, ?_⟩
    simp only [connectTo, hs, hx, ht, taken (some i)]
    rfl
  | none =>
    refine ⟨b, y none, rfl, rfl, rfl, rfl, ?_⟩
    simp only [connectTo, hs, hx, ht, taken none]
    rfl

structure Attaches (b b' : Broker) (i : SessionId) (h : HandleId) (s : Session) : Prop where
  view : b'.view = (b.view.note (.attached h s.camera i)).bind i h
  resolved : b'.Resolves h
  forward : ∀ (g : HandleId) (x : Handle), b.handles[g]? = some x →
    ∃ y, b'.handles[g]? = some y ∧ x.state.rank ≤ y.state.rank
  connected : ∀ g, b'.Connected g → g = h ∨ b.Connected g
  replaced : ∀ g, s.current = some g → ¬b'.Connected g

theorem attaches_connectTo {i : SessionId} {s : Session} {h : HandleId} {x : Handle}
    (hs : b.sessions[i]? = some s) (hx : b.handles[h]? = some x) (hu : x.state = .unopened) :
    b.Attaches (b.connectTo i h) i h s := by
  obtain ⟨timed, y, view, handles, camera, state, eq⟩ := connectTo_eq hs hx hu
  let bound := timed.bindHandle i h s.camera y
  have boundView : bound.view = (b.view.note (.attached h s.camera i)).bind i h := by
    unfold bound bindHandle
    rw [view_bind, view_emit, view_setHandle (handles ▸ hx) camera, view]
    rfl
  have boundHandles : bound.handles = b.handles.set h y := by
    have same : bound.handles = timed.handles.set h y := rfl
    rw [same, handles]
  have hh : h < b.handles.length := (List.getElem?_eq_some_iff.1 hx).1
  have hy : bound.handles[h]? = some y := by simp [boundHandles, hh]
  have other : ∀ g, g ≠ h → bound.handles[g]? = b.handles[g]? := fun g hg => by
    rw [boundHandles, List.getElem?_set_ne hg.symm]
  have forward : ∀ (g : HandleId) (z : Handle), b.handles[g]? = some z →
      ∃ w, bound.handles[g]? = some w ∧ z.state.rank ≤ w.state.rank := by
    intro g z hz
    by_cases hg : g = h
    · subst hg
      obtain rfl : x = z := Option.some.inj (hx.symm.trans hz)
      exact ⟨y, hy, by simp [hu, HandleState.rank]⟩
    · exact ⟨z, by rw [other g hg, hz], Nat.le_refl _⟩
  have connected : ∀ g, bound.Connected g → g = h ∨ b.Connected g := by
    intro g hg
    by_cases hgh : g = h
    · exact .inl hgh
    · obtain ⟨w, hw, hc⟩ := hg
      exact .inr ⟨w, by rw [← other g hgh, hw], hc⟩
  cases hc : s.current with
  | none =>
    have eq : b.connectTo i h = bound := by rw [eq, hc]
    rw [eq]
    exact ⟨boundView, ⟨y, hy, by simp [state]⟩, forward, connected, by simp [hc]⟩
  | some previous =>
    have eq : b.connectTo i h = bound.disconnect previous := by rw [eq, hc]
    have fades := bound.fades_disconnect previous
    rw [eq]
    refine ⟨by rw [view_disconnect, boundView], fades.resolves ⟨y, hy, by simp [state]⟩,
      fun g z hz => ?_, fun g hg => ?_, fun g hg => ?_⟩
    · obtain ⟨w, hw, zw⟩ := forward g z hz
      obtain ⟨u, hu, wu⟩ := fades.2 g w hw
      exact ⟨u, hu, Nat.le_trans zw wu.forward⟩
    · obtain ⟨u, hu, hs⟩ := hg
      obtain ⟨w, hw, wu⟩ := fades.before hu
      exact connected g ⟨w, hw, wu.connected hs⟩
    · obtain rfl : previous = g := Option.some.inj (hc.symm.trans hg)
      rintro ⟨u, hu, hs⟩
      exact disconnect_ne_connected hu hs

theorem view_supersede (b : Broker) (r : Request) :
    (b.supersede r).view = b.view.note (.serviced r) := by
  cases r with
  | «open» h share =>
    unfold supersede
    rw [view_serviced, view_failHandle]
  | close i => exact view_serviced b _
  | closeAll => exact view_serviced b _

theorem fades_supersede (b : Broker) (r : Request) : b.Fades (b.supersede r) := by
  cases r with
  | «open» h share => exact (b.fades_failHandle h .superseded).trans (.of_eq rfl)
  | close i => exact .of_eq rfl
  | closeAll => exact .of_eq rfl

/-- Every open that a close-all supersedes is answered. -/
theorem supersedeAll (rs : List Request) (b : Broker) :
    (rs.foldl supersede b).view = b.view.service rs ∧ b.Fades (rs.foldl supersede b) ∧
      ∀ h share, .open h share ∈ rs → h < b.handles.length →
        (rs.foldl supersede b).Resolves h := by
  induction rs generalizing b with
  | nil => exact ⟨rfl, .refl b, nofun⟩
  | cons r rs ih =>
    obtain ⟨view, fades, resolved⟩ := ih (b.supersede r)
    have first := fades_supersede b r
    refine ⟨?_, first.trans fades, fun h share hmem hh => ?_⟩
    · rw [List.foldl_cons, view, view_supersede, View.service_cons]
    · rcases List.mem_cons.1 hmem with rfl | hmem
      · have failed : (b.supersede (.open h share)).Resolves h := by
          obtain ⟨y, hy, hs⟩ := resolves_failHandle hh .superseded
          exact ⟨y, hy, hs⟩
        exact fades.resolves failed
      · exact resolved h share hmem (first.1 ▸ hh)

/-! The case analysis of the loop. -/

section Serving
variable {o : Broker} {h : HandleId} {share : Bool} {rest : List Request} {x : Handle}

/-- A camera without an active session is asked for, if it may be. -/
theorem serves_beginOpening (view : o.view = b.view.take (.open h share :: rest))
    (handles : o.handles = b.handles) (hx : b.handles[h]? = some x) (hu : x.state = .unopened)
    (stage : b.loop.stage = .reading)
    (alone : share = false → (b.conflicting x.camera).1 = [])
    (none : b.activeFor? x.camera = none) :
    Serves b (o.beginOpening h x.camera) h share x.camera rest
        (o.beginOpening h x.camera).view ∧
      b.Fades (o.beginOpening h x.camera) := by
  obtain ⟨hh, -⟩ := List.getElem?_eq_some_iff.1 hx
  have waits : b.Waits h := ⟨x, hx, hu⟩
  have still : ∀ e, (o.emit e).granted = o.granted := fun _ => rfl
  unfold beginOpening
  simp only [still]
  cases granted : o.granted with
  | false =>
    let asked := o.emit (.permissionAsked x.camera false)
    have fades : b.Fades (asked.failHandle h .permissionDenied) :=
      (Fades.of_eq handles).trans (asked.fades_failHandle h .permissionDenied)
    obtain ⟨y, hy, hs⟩ := resolves_failHandle (b := asked) (i := h) (handles ▸ hh)
      .permissionDenied
    have denied : (asked.giveUpOpen h .permissionDenied).view =
        (((b.view.take rest).note (.permissionAsked x.camera false)).note
          (.serviced (.open h share))).setStage .reading := by
      unfold giveUpOpen asked
      rw [view_setStage, view_popHead, view_failHandle, view_emit, view]
      rfl
    have same : (asked.giveUpOpen h .permissionDenied).handles =
        (asked.failHandle h .permissionDenied).handles := handles_popHead _
    rw [if_neg Bool.false_ne_true]
    rw [denied]
    exact ⟨.deny waits ⟨y, by rw [same, hy], hs⟩, fades.trans (.of_eq same)⟩
  | true =>
    let asked := (o.emit (.permissionAsked x.camera true)).emit (.openerAsked x.camera h)
    have askedView : asked.view = (b.view.take (.open h share :: rest)).ask h x.camera := by
      unfold asked
      rw [view_emit, view_emit, view]
      rfl
    have reading : asked.view.loop.stage = b.loop.stage := by
      rw [askedView]
      rfl
    have lost : asked.view.AcquiredIsLost :=
      View.acquiredIsLost_of_none (congrArg LoopStage.acquired? (reading.trans stage))
    have fades : b.Fades asked := .of_eq handles
    rw [if_pos rfl]
    split
    · rename_i p hp
      obtain ⟨opens, more⟩ := opens_beginAttempt (b := asked) (c := x.camera)
        (show h < asked.handles.length from handles ▸ hh) lost p 1
      rw [askedView] at opens
      exact ⟨.ask waits alone none opens, fades.trans more⟩
    · rename_i delay onClose outcomes hp
      refine ⟨?_, .of_eq handles⟩
      let call : LoopStage := .opening h (.scripted (asked.now + delay))
      let told := (asked.emit (.logAsked x.camera)).setStage call
      have called : told.view = asked.view.setStage call := by
        rw [view_setStage, view_emit]
        rfl
      have opens : Opens told h x.camera asked.view told.view := called ▸ .call lost _
      rw [askedView] at opens
      exact .ask waits alone none opens

theorem session_of_activeFor? {c : CameraId} {i : SessionId} (h : b.activeFor? c = some i) :
    i ∈ b.loop.active ∧ ∃ s, b.sessions[i]? = some s ∧ s.camera = c := by
  refine ⟨List.mem_of_find?_eq_some h, ?_⟩
  have found := List.find?_some h
  cases hs : b.sessions[i]? with
  | none => simp [hs] at found
  | some s => exact ⟨s, rfl, by simpa [hs] using found⟩

/-- An open whose camera has no conflicting session. -/
theorem serves_place (view : o.view = b.view.take (.open h share :: rest))
    (handles : o.handles = b.handles) (sessions : o.sessions = b.sessions)
    (hx : b.handles[h]? = some x) (hu : x.state = .unopened) (stage : b.loop.stage = .reading)
    (alone : share = false → (b.conflicting x.camera).1 = []) :
    Serves b (o.place h x.camera) h share x.camera rest (o.place h x.camera).view ∧
      b.Follows (o.place h x.camera) := by
  have waits : b.Waits h := ⟨x, hx, hu⟩
  have active : o.loop.active = b.loop.active := congrArg (·.loop.active) view
  have same : o.activeFor? x.camera = b.activeFor? x.camera := by
    simp only [activeFor?, active, sessions]
  unfold place
  cases hi : o.activeFor? x.camera with
  | none =>
    obtain ⟨serves, fades⟩ := serves_beginOpening view handles hx hu stage alone (same ▸ hi)
    exact ⟨serves, fades.follows⟩
  | some i =>
    have hi : b.activeFor? x.camera = some i := same ▸ hi
    obtain ⟨mem, s, hs, camera⟩ := session_of_activeFor? hi
    dsimp only
    split
    · rename_i down
      let told := o.emit (.replacing x.camera)
      have toldView : told.view = b.view.take (.open h share :: rest) := by
        unfold told
        rw [view_emit, view]
        rfl
      obtain ⟨left, leaves, closed⟩ := view_closeSessions (o.loop.active.filter (· ≠ i)) [i]
        .read told
      rw [toldView] at leaves closed
      refine ⟨?_, (Fades.of_eq ?_).follows⟩
      · rw [closed, active]
        refine .replace waits hi ⟨leaves.sub, leaves.down⟩ ?_
        have devices : o.hw.devices = b.hw.devices := congrArg View.devices view
        simpa [View.IsClosing, Broker.view, sessions, devices] using isClosing_of_stream down
      · exact (handles_closeSessions _ _ _).trans handles
    · have attaches := attaches_connectTo (b := o) (i := i) (sessions ▸ hs) (handles ▸ hx) hu
      let after := (o.connectTo i h).popHead.setStage .reading
      have afterHandles : after.handles = (o.connectTo i h).handles := handles_popHead _
      have connected : ∀ g, after.Connected g → (o.connectTo i h).Connected g := by
        rintro g ⟨y, hy, hc⟩
        exact ⟨y, by rw [← afterHandles, hy], hc⟩
      have afterView : after.view = (((((b.view.take rest).note (.attached h x.camera i)).bind
          i h).note (.serviced (.open h share))).setStage .reading) := by
        unfold after
        rw [view_setStage, view_popHead, attaches.view, view, camera]
        rfl
      have tie : b.view.ties[i]? = some s.tie := by simp [Broker.view, hs]
      refine ⟨?_, fun g z hz => ?_, fun g hg => ?_⟩
      · rw [afterView]
        refine .attach waits hi tie ?_ fun g hg => ?_
        · obtain ⟨y, hy, hne⟩ := attaches.resolved
          exact ⟨y, by rw [afterHandles, hy], hne⟩
        · exact fun hc => attaches.replaced g hg (connected g hc)
      · obtain ⟨y, hy, zy⟩ := attaches.forward g z (handles ▸ hz)
        exact ⟨y, by rw [afterHandles, hy], zy⟩
      · rcases attaches.connected g (connected g hg) with rfl | ⟨y, hy, hc⟩
        · refine .inr ⟨i, { s.tie with current := some g }, ?_, rfl, .inl ?_⟩
          · rw [afterView]
            simp [View.setStage, View.setLoop, View.note, View.bind, View.take,
              View.setPending, tie]
          · rw [afterView]
            exact mem
        · exact .inl ⟨y, handles ▸ hy, hc⟩

/-- The oldest request is an open. -/
theorem serves_serveOpen (view : o.view = b.view.take (.open h share :: rest))
    (handles : o.handles = b.handles) (sessions : o.sessions = b.sessions)
    (hx : b.handles[h]? = some x) (stage : b.loop.stage = .reading) :
    Serves b (o.serveOpen h share) h share x.camera rest (o.serveOpen h share).view ∧
      b.Follows (o.serveOpen h share) := by
  have active : o.loop.active = b.loop.active := congrArg (·.loop.active) view
  have same : o.conflicting x.camera = b.conflicting x.camera := by
    simp only [conflicting, active, sessions]
  have hx' : o.handles[h]? = some x := handles ▸ hx
  unfold serveOpen
  rw [hx']
  dsimp only
  split
  · rename_i answered
    have stale : (((o.emit (.stale h x.camera)).popHead).setStage .reading).view =
        ((((b.view.take rest).note (.stale h x.camera)).note
          (.serviced (.open h share))).setStage .reading) := by
      rw [view_setStage, view_popHead, view_emit, view]
      rfl
    rw [stale]
    refine ⟨.stale ⟨x, hx, answered⟩, (Fades.of_eq ?_).follows⟩
    exact (handles_popHead _).trans handles
  · rename_i unanswered
    have hu : x.state = .unopened := by simpa using unanswered
    cases share with
    | true => exact serves_place view handles sessions hx hu stage nofun
    | false =>
      rw [if_neg Bool.false_ne_true, same]
      cases hc : b.conflicting x.camera with
      | mk others own =>
        cases others with
        | nil => exact serves_place view handles sessions hx hu stage fun _ => by rw [hc]
        | cons i others =>
          let told := o.emit (.makingRoom (i :: others).length x.camera)
          have toldView : told.view = b.view.take (.open h false :: rest) := by
            unfold told
            rw [view_emit, view]
            rfl
          obtain ⟨left, leaves, closed⟩ := view_closeSessions own (i :: others) .read told
          rw [toldView] at leaves closed
          refine ⟨?_, (Fades.of_eq ?_).follows⟩
          · dsimp only
            rw [closed]
            exact .makeRoom ⟨x, hx, hu⟩ rfl hc nofun ⟨leaves.sub, leaves.down⟩
          · exact (handles_closeSessions _ _ _).trans handles

end Serving

theorem turn_serve {o : Broker} {r : Request} {rest : List Request}
    (waiting : b.waiting = r :: rest) (view : o.view = b.view.take b.waiting)
    (handles : o.handles = b.handles) (sessions : o.sessions = b.sessions)
    (stage : b.loop.stage = .reading)
    (asked : ∀ h share, .open h share ∈ b.waiting → h < b.handles.length) : b.Turn o.serve := by
  have active : o.loop.active = b.loop.active := congrArg (·.loop.active) view
  have pending : o.loop.pending = b.waiting := congrArg (·.loop.pending) view
  unfold serve
  rw [pending]
  split
  · rename_i i left' first
    let told := (o.setPending left').serviced (.close i)
    have toldView : told.view = (b.view.take left').note (.serviced (.close i)) := by
      unfold told
      rw [view_serviced, view_setPending, view]
      rfl
    obtain ⟨left, leaves, closed⟩ :=
      view_closeSessions (o.loop.active.filter (· ≠ i)) [i] .read told
    rw [toldView] at leaves closed
    refine .of_handles_eq ?_ ?_
    · rw [closed, active]
      exact .close stage first ⟨leaves.sub, leaves.down⟩
    · exact (handles_closeSessions _ _ _).trans handles
  · rename_i noClose
    split
    · rename_i before after last
      obtain ⟨superseded, fades, resolved⟩ := supersedeAll before (o.setPending after)
      let given := before.foldl supersede (o.setPending after)
      let told := given.emit (.superseding given.loop.active.length)
      have toldView : told.view = (b.view.take after).service before := by
        unfold told
        rw [view_emit, superseded, view_setPending, view]
        rfl
      have still : given.loop.active = b.loop.active := congrArg (·.loop.active) toldView
      obtain ⟨left, leaves, closed⟩ := view_closeSessions [] given.loop.active .read told
      rw [toldView] at leaves closed
      have closedHandles : ((told.setActive []).closeSessions given.loop.active .read).handles =
          given.handles := handles_closeSessions _ _ _
      refine ⟨?_, ((Fades.of_eq handles).trans (fades.trans (.of_eq closedHandles))).follows⟩
      rw [closed, still]
      refine .closeAll stage noClose last (fun h share hmem => ?_)
        ⟨still ▸ leaves.sub, still ▸ leaves.down⟩
      have hw : .open h share ∈ b.waiting := by
        rw [(lastCloseAll?_eq_some last).1]
        exact List.mem_append_left _ hmem
      obtain ⟨y, hy, hs⟩ := resolved h share hmem (handles ▸ asked h share hw)
      exact ⟨y, by rw [closedHandles, hy], hs⟩
    · rename_i noCloseAll
      rw [waiting] at view asked
      obtain ⟨h, share, rfl⟩ := exists_open_of_none (waiting ▸ noClose) (waiting ▸ noCloseAll)
      have hh : h < b.handles.length := asked h share (by simp)
      obtain ⟨serves, follows⟩ := serves_serveOpen (x := b.handles[h]) view handles sessions
        (List.getElem?_eq_getElem hh) stage
      rw [waiting]
      exact ⟨.serve stage waiting (by simp [Broker.view, hh]) serves noClose noCloseAll, follows⟩

/-- A turn of the loop follows the rules. -/
theorem turn_resumeLoop (asked : ∀ h share, .open h share ∈ b.waiting → h < b.handles.length) :
    b.Turn b.resumeLoop := by
  have idle : b.Turn b := .of_handles_eq .idle rfl
  unfold resumeLoop
  split
  · rename_i stage
    refine .of_handles_eq ?_ rfl
    rw [view_setStage, view_emit]
    exact .start stage
  · rename_i stage
    unfold read
    split
    · rename_i waiting
      split
      · rename_i noClient
        unfold finish
        split
        · rename_i none
          have stopped : b.view.retire b.loop.active [] [] .stop = b.view.stop := by
            have same : (b.view.setActive []).startCloses [] = b.view := by
              simp [View.startCloses, View.setActive, View.setLoop, ← none, Broker.view]
            rw [none, View.retire, View.await_stop, same]
          refine .of_handles_eq ?_ rfl
          rw [view_stopLoop, ← stopped]
          exact .finish stage waiting noClient ⟨by simp, by simp [none]⟩
        · rename_i active some
          let told := b.emit (.stopping b.loop.active.length)
          have toldView : told.view = b.view := by
            unfold told
            rw [view_emit]
            rfl
          obtain ⟨left, leaves, closed⟩ := view_closeSessions [] b.loop.active .stop told
          rw [toldView] at leaves closed
          refine .of_handles_eq ?_ (handles_closeSessions _ _ _)
          rw [closed]
          exact .finish stage waiting noClient leaves
      · exact idle
    · rename_i waiting
      cases hw : b.waiting with
      | nil => exact absurd hw waiting
      | cons r rest =>
        refine turn_serve hw ?_ rfl rfl stage asked
        rw [view_emit, view_setPending]
        rfl
  · rename_i h call stage
    cases hx : b.handles[h]? with
    | none =>
      have nothing : b.resumeOpening h call = b := by simp [resumeOpening, hx]
      rw [nothing]
      exact idle
    | some x =>
      rcases opens_resumeOpening hx stage with nothing | ⟨opens, fades⟩
      · rw [nothing]
        exact idle
      · exact ⟨.opener stage (by simp [Broker.view, hx]) opens, fades.follows⟩
  · rename_i sessions left after stage
    refine .of_handles_eq ?_ (handles_awaitClosed _ _ _ _)
    rw [view_awaitClosed]
    refine .await stage List.filter_sublist.subset fun i hi hs hout => ?_
    have gone : b.isSessionGone i = true := by
      by_contra h
      exact hout (List.mem_filter.2 ⟨hi, by simp [h]⟩)
    have held : b.holdsSession i = true := by
      simp [holdsSession, stage, LoopStage.closingSessions, hs]
    exact isDown_of_isSessionGone held gone
  · exact idle
  · exact idle

end CameraBroker.Broker
