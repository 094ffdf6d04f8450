import CameraBroker.Proofs.Deeds

/-! What a broker shows of itself: all but the opens that wait in its pending list, and the lines of
the history that only tell how the loop goes through them. No operation looks at what is not shown,
as long as it does not take requests out of that list. -/
namespace CameraBroker

namespace Event

/-- The event is more than a note on the pending list. -/
def isShown : Event → Bool
  | .pending _ => false
  | .stale _ _ => false
  | .serviced (.open _ _) => false
  | _ => true

/-- The event tells of a call of the opener: that it was made, how its attempts went, or what it came
to. -/
def isOfCall : Event → Bool
  | .openerAsked _ _ => true
  | .openedOnAttempt _ _ _ => true
  | .attemptFailed _ _ _ _ _ => true
  | .gaveUp _ _ _ => true
  | .deviceOpened _ _ => true
  | .openGivenUp _ => true
  | _ => false

/-- What is not shown is logged for debugging at most. -/
theorem line?_of_not_shown {n : Names} {level : Level} {e : Event} (hidden : e.isShown = false)
    (above : level ≠ .debug) : e.line? n level = none := by
  have low : ¬Level.debug.rank ≤ level.rank := by
    cases level <;> simp_all [Level.rank]
  cases e with
  | pending k => simp [line?, log?, low]
  | stale h c => simp [line?, log?, low]
  | serviced r => rfl
  | _ => cases hidden

end Event

namespace Hardware
variable (w : Hardware)

def shown (w : Hardware) : Hardware := { w with history := w.history.filter Event.isShown }

@[simp] theorem shown_devices : w.shown.devices = w.devices := rfl

theorem shown_emit {e : Event} (he : e.isShown = true) : (w.emit e).shown = w.shown.emit e := by
  simp [shown, emit, he]

theorem shown_emit_hidden {e : Event} (he : e.isShown = false) : (w.emit e).shown = w.shown := by
  simp [shown, emit, he]

theorem shown_addCamera (c : CameraId) : (w.addCamera c).shown = w.shown.addCamera c := by
  have same : w.shown.camera? c = w.camera? c := rfl
  unfold addCamera
  rw [same]
  split <;> rfl

theorem shown_countAttempt (c : CameraId) : (w.countAttempt c).shown = w.shown.countAttempt c := by
  have same : w.shown.attempts = w.attempts := rfl
  unfold countAttempt
  rw [same]
  split <;> rfl

theorem shown_recordOpen (c : CameraId) : (w.recordOpen c).shown = w.shown.recordOpen c :=
  shown_emit _ rfl

theorem shown_recordRelease (c : CameraId) :
    (w.recordRelease c).shown = w.shown.recordRelease c := shown_emit _ rfl

theorem shown_advance? (d : DeviceId) (state : DeviceState) :
    w.shown.advance? d state = (w.advance? d state).map fun x => (x.1, x.2.shown) := by
  unfold advance?
  rw [shown_devices]
  cases w.devices[d]? with
  | none => rfl
  | some x => cases h : x.stream.advance? state <;> simp [h, shown, onStream, onDevice]

theorem shown_beginOpen (c : CameraId) :
    w.shown.beginOpen c = ((w.beginOpen c).1, (w.beginOpen c).2.shown) := by
  unfold beginOpen
  rw [← shown_countAttempt]
  have same : (w.countAttempt c).shown.camera? c = (w.countAttempt c).camera? c := rfl
  dsimp only
  rw [same]
  cases (w.countAttempt c).camera? c with
  | none => rfl
  | some x =>
    dsimp only
    split <;> rfl

theorem shown_finishOpen (c : CameraId) (d : DeviceId) :
    w.shown.finishOpen c d = ((w.finishOpen c d).1, (w.finishOpen c d).2.shown) := by
  unfold finishOpen
  rw [shown_advance?]
  cases w.advance? d .open with
  | none => rfl
  | some x =>
    dsimp only [Option.map_some]
    rw [shown_emit _ rfl, shown_recordOpen]

theorem shown_closeDevice (d : DeviceId) :
    w.shown.closeDevice d = ((w.closeDevice d).1, (w.closeDevice d).2.shown) := by
  unfold closeDevice
  rw [shown_devices]
  cases w.devices[d]? with
  | none => rfl
  | some x =>
    dsimp only
    cases x.make with
    | simulated latency =>
      dsimp only
      rw [shown_advance?]
      cases w.advance? d .closing <;> rfl
    | manual onClose =>
      dsimp only
      rw [← shown_emit w rfl]
      split
      · cases onClose <;> rfl
      · rfl

theorem shown_finishRelease (d : DeviceId) :
    (w.finishRelease d).shown = w.shown.finishRelease d := by
  unfold finishRelease
  rw [shown_advance?]
  cases w.advance? d .closed with
  | none => rfl
  | some x =>
    dsimp only [Option.map_some]
    rw [← shown_recordRelease, ← shown_emit _ rfl]
    rfl

theorem shown_resumeRelease (d : DeviceId) :
    (w.resumeRelease d).shown = w.shown.resumeRelease d := by
  unfold resumeRelease
  rw [shown_devices]
  split
  · rfl
  · exact w.shown_finishRelease d

theorem shown_yank (c : CameraId) (d : DeviceId) :
    w.shown.yank c d = ((w.yank c d).1, (w.yank c d).2.shown) := by
  unfold yank
  rw [shown_devices]
  cases w.devices[d]? with
  | none => rfl
  | some x =>
    dsimp only
    split
    · have unplugged : (((w.onStream d (·.publish .closed)).emit (.unplugged c)).shown) =
          (w.shown.onStream d (·.publish .closed)).emit (.unplugged c) := shown_emit _ rfl
      split
      · rw [shown_recordRelease, unplugged]
      · rw [unplugged]
    · rfl

theorem shown_unplug (c : CameraId) (held : DeviceId → Bool) :
    (w.unplug c held).2.shown = (w.shown.unplug c held).2 := by
  have yanked : ∀ (ids : List DeviceId) (any : Bool) (w : Hardware),
      (ids.foldl (fun (x : Bool × Hardware) d =>
        (x.1 || (x.2.yank c d).1, (x.2.yank c d).2)) (any, w)).2.shown =
      (ids.foldl (fun (x : Bool × Hardware) d =>
        (x.1 || (x.2.yank c d).1, (x.2.yank c d).2)) (any, w.shown)).2 := by
    intro ids
    induction ids with
    | nil => exact fun _ _ => rfl
    | cons d ids ih =>
      intro any w
      rw [List.foldl_cons, List.foldl_cons, ih, shown_yank]
  have same : w.shown.camera? c = w.camera? c := rfl
  unfold unplug
  rw [same]
  cases w.camera? c with
  | none => rfl
  | some x => exact yanked (w.devicesOf c held) false w

end Hardware

namespace Broker
variable (b : Broker)

def shown (b : Broker) : Broker :=
  { b with
    hw := b.hw.shown
    loop := { b.loop with pending := b.loop.pending.filter Request.isClose } }

@[simp] theorem shown_hw : b.shown.hw = b.hw.shown := rfl

@[simp] theorem shown_handles : b.shown.handles = b.handles := rfl

@[simp] theorem shown_sessions : b.shown.sessions = b.sessions := rfl

@[simp] theorem shown_inbox : b.shown.inbox = b.inbox := rfl

@[simp] theorem shown_closes : b.shown.closes = b.closes := rfl

@[simp] theorem shown_stage : b.shown.loop.stage = b.loop.stage := rfl

@[simp] theorem shown_granted : b.shown.granted = b.granted := rfl

@[simp] theorem shown_opener : b.shown.opener = b.opener := rfl

theorem shown_emit {e : Event} (he : e.isShown = true) : (b.emit e).shown = b.shown.emit e := by
  simp [shown, emit, Hardware.shown_emit _ he]

theorem shown_emit_hidden {e : Event} (he : e.isShown = false) : (b.emit e).shown = b.shown := by
  simp [shown, emit, Hardware.shown_emit_hidden _ he]

/-! What is asked of the state. -/

section Questions

@[simp] theorem holdsSession_shown (i : SessionId) : b.shown.holdsSession i = b.holdsSession i := by
  have same : (b.loop.pending.filter Request.isClose).contains (.close i) =
      b.loop.pending.contains (.close i) := by
    simp [List.contains_eq_mem, List.mem_filter, Request.isClose]
  have pending : b.shown.loop.pending = b.loop.pending.filter Request.isClose := rfl
  unfold holdsSession
  rw [pending, same]
  rfl

@[simp] theorem holdsDevice_shown (d : DeviceId) : b.shown.holdsDevice d = b.holdsDevice d := by
  have releasing : b.hw.shown.isReleasing d = b.hw.isReleasing d := rfl
  unfold holdsDevice
  simp only [shown_sessions, holdsSession_shown, shown_hw, releasing, shown_stage]
  rfl

@[simp] theorem stream?_shown (d : DeviceId) : b.shown.stream? d = b.stream? d := by
  simp [stream?]

@[simp] theorem sessionStream?_shown (i : SessionId) :
    b.shown.sessionStream? i = b.sessionStream? i := by
  simp [sessionStream?]

@[simp] theorem isSessionGone_shown (i : SessionId) :
    b.shown.isSessionGone i = b.isSessionGone i := by
  simp [isSessionGone]

/-- Every task but the loop is as ready as it is. -/
theorem ready_shown {t : Task} (ht : t ≠ .loop) :
    t ∈ b.shown.readyTasks ↔ t ∈ b.readyTasks := by
  have observers : b.shown.readyObservers = b.readyObservers := by simp [readyObservers]
  have listeners : b.shown.readyListeners = b.readyListeners := by simp [readyListeners]
  have releases : b.hw.shown.readyReleases = b.hw.readyReleases := rfl
  have closes : b.shown.readyCloses = b.readyCloses := rfl
  have countdowns : b.shown.readyCountdowns = b.readyCountdowns := rfl
  simp only [readyTasks, shown_hw, observers, listeners, releases, closes, countdowns,
    List.mem_append]
  split <;> split <;> simp [ht]

end Questions

/-! What handles, sessions and clients do. -/

section Onward

/-- All of a broker but its handles and sessions, what waits in its inbox, and what was noted of other
things than calls of the opener. -/
def backdrop (b : Broker) : Broker :=
  { b with
    hw := { b.hw with history := b.hw.history.filter Event.isOfCall }
    handles := []
    sessions := []
    inbox := { b.inbox with buffer := [] } }

/-- From `b` it went on to `o`, and from what shows of `b` in the same way to `o'`. Nothing hidden was
looked at, and the backdrop is left alone. -/
structure Onward (b o o' : Broker) : Prop where
  shown : o.shown = o'
  backdrop : o.backdrop = b.backdrop

namespace Onward
variable {b o o' : Broker}

theorem refl (b : Broker) : b.Onward b b.shown := ⟨rfl, rfl⟩

theorem handles (on : b.Onward o o') : o'.handles = o.handles := by rw [← on.shown, shown_handles]

theorem sessions (on : b.Onward o o') : o'.sessions = o.sessions := by
  rw [← on.shown, shown_sessions]

theorem inbox (on : b.Onward o o') : o'.inbox = o.inbox := by rw [← on.shown, shown_inbox]

theorem now (on : b.Onward o o') : o'.now = o.now := by
  rw [← on.shown]
  rfl

theorem emit (on : b.Onward o o') {e : Event} (visible : e.isShown = true)
    (other : e.isOfCall = false) : b.Onward (o.emit e) (o'.emit e) := by
  refine ⟨by rw [shown_emit o visible, on.shown], Eq.trans ?_ on.backdrop⟩
  simp [Broker.backdrop, Broker.emit, Hardware.emit, other]

theorem setHandle (on : b.Onward o o') (h : HandleId) (x : Handle) :
    b.Onward (o.setHandle h x) (o'.setHandle h x) :=
  ⟨congrArg (Broker.setHandle h x) on.shown, on.backdrop⟩

theorem onSession (on : b.Onward o o') (i : SessionId) (f : Session → Session) :
    b.Onward (o.onSession i f) (o'.onSession i f) :=
  ⟨congrArg (Broker.onSession i f) on.shown, on.backdrop⟩

theorem onTimer (on : b.Onward o o') (i : TimerId) (f : IdleTimer → IdleTimer) :
    b.Onward (o.onTimer i f) (o'.onTimer i f) := on.onSession i _

theorem giveBack (on : b.Onward o o') (token : Option TimerId) :
    b.Onward (o.giveBack token) (o'.giveBack token) := by
  cases token with
  | none => exact on
  | some i =>
    unfold Broker.giveBack
    rw [on.now]
    exact on.onTimer i _

theorem failHandle (on : b.Onward o o') (h : HandleId) (reason : OpenFailure) :
    b.Onward (o.failHandle h reason) (o'.failHandle h reason) := by
  unfold Broker.failHandle
  rw [on.handles]
  split
  · exact on
  · split
    · exact on
    · exact (on.setHandle h _).emit rfl rfl

theorem disconnect (on : b.Onward o o') (h : HandleId) :
    b.Onward (o.disconnect h) (o'.disconnect h) := by
  unfold Broker.disconnect
  rw [on.handles]
  split
  · exact on
  · dsimp only
    split
    · exact ((on.emit rfl rfl).setHandle h _).giveBack _
    · exact (on.setHandle h _).giveBack _

theorem letGo (on : b.Onward o o') (current : Option HandleId) :
    b.Onward (o.letGo current) (o'.letGo current) := by
  cases current with
  | none => exact on
  | some h => exact on.disconnect h

theorem observe (on : b.Onward o o') (h : HandleId) : b.Onward (o.observe h) (o'.observe h) := by
  have streams : o'.stream? = o.stream? := by
    funext d
    rw [← on.shown, stream?_shown]
  unfold Broker.observe
  rw [on.handles, streams]
  split
  · exact on
  · split
    · exact on
    · dsimp only
      split
      · exact on.setHandle h _
      · exact (on.setHandle h _).giveBack _

/-- The inbox takes a request in both or in neither. -/
theorem offer (on : b.Onward o o') (r : Request) :
    (∃ e, o.offer r = .error e ∧ o'.offer r = .error e) ∨
      ∃ c c', o.offer r = .ok c ∧ o'.offer r = .ok c' ∧ b.Onward c c' := by
  unfold Broker.offer
  rw [on.inbox]
  cases offered : o.inbox.offer r with
  | error e => exact .inl ⟨e, rfl, rfl⟩
  | ok inbox =>
    obtain ⟨-, -, rfl⟩ := Inbox.offer_eq_ok.1 offered
    let inbox := { o.inbox with buffer := o.inbox.buffer ++ [r] }
    have taken : b.Onward { o with inbox } { o' with inbox } := by
      refine ⟨?_, on.backdrop⟩
      rw [← on.shown]
      rfl
    exact .inr ⟨_, _, rfl, rfl, taken.emit rfl rfl⟩

theorem connectTo (on : b.Onward o o') (i : SessionId) (h : HandleId) :
    b.Onward (o.connectTo i h) (o'.connectTo i h) := by
  have refused : ∀ {c c' : Broker} (token : Option TimerId) (s : Session), b.Onward c c' →
      b.Onward ((c.giveBack token).emit (.attachRefused h s.camera))
        ((c'.giveBack token).emit (.attachRefused h s.camera)) :=
    fun token _ on => (on.giveBack token).emit rfl rfl
  have joined : ∀ {c c' : Broker} (s : Session) (x : Handle), b.Onward c c' →
      b.Onward ((c.bindHandle i h s.camera x).letGo s.current)
        ((c'.bindHandle i h s.camera x).letGo s.current) :=
    fun s x on => (((on.setHandle h x).emit rfl rfl).onSession i _).letGo s.current
  unfold Broker.connectTo
  rw [on.sessions, on.handles]
  split
  · rename_i s x hs hx
    cases s.timer.acquire? with
    | none =>
      dsimp only
      cases x.connect? s.device none with
      | none => exact refused none s on
      | some y => exact joined s y on
    | some t =>
      dsimp only
      cases x.connect? s.device (some i) with
      | none => exact refused (some i) s (on.onTimer i _)
      | some y => exact joined s y (on.onTimer i _)
  · exact on

theorem requestClose (on : b.Onward o o') (i : SessionId) :
    (o'.requestClose i).1 = (o.requestClose i).1 ∧
      b.Onward (o.requestClose i).2 (o'.requestClose i).2 := by
  have holds : o'.holdsSession i = o.holdsSession i := by rw [← on.shown, holdsSession_shown]
  unfold Broker.requestClose
  rw [on.sessions, on.inbox, holds]
  split
  · exact ⟨rfl, on⟩
  · split
    · exact ⟨rfl, on⟩
    · rcases on.offer (.close i) with ⟨e, refused, refused'⟩ | ⟨c, c', taken, taken', on'⟩
      · rw [refused, refused']
        cases e with
        | full => exact ⟨rfl, on.emit rfl rfl⟩
        | closed => exact ⟨rfl, on⟩
      · rw [taken, taken']
        exact ⟨rfl, on'.emit rfl rfl⟩

theorem notify (on : b.Onward o o') (i : SessionId) : b.Onward (o.notify i) (o'.notify i) := by
  obtain ⟨answer, on'⟩ := on.requestClose i
  unfold Broker.notify
  dsimp only
  rw [answer, on'.now]
  exact on'.onTimer i _

theorem expire (on : b.Onward o o') (i : SessionId) :
    (o'.expire i).1 = (o.expire i).1 ∧ b.Onward (o.expire i).2 (o'.expire i).2 := by
  unfold Broker.expire
  rw [on.sessions]
  split
  · exact ⟨rfl, on⟩
  · exact ⟨rfl, (on.onTimer i _).notify i⟩

theorem wakeCountdown (on : b.Onward o o') (i : SessionId) (generation : Nat) :
    b.Onward (o.wakeCountdown i generation) (o'.wakeCountdown i generation) := by
  unfold Broker.wakeCountdown
  rw [on.sessions]
  split
  · exact on
  · dsimp only
    split
    · exact on.onTimer i _
    · exact (on.onTimer i _).notify i

theorem listen (on : b.Onward o o') (i : SessionId) : b.Onward (o.listen i) (o'.listen i) := by
  have stream : o'.sessionStream? i = o.sessionStream? i := by
    rw [← on.shown, sessionStream?_shown]
  unfold Broker.listen
  rw [on.sessions, stream]
  split
  · split
    · dsimp only
      split
      · exact (on.onSession i _).onTimer i _
      · obtain ⟨answer, on'⟩ := (on.onSession i fun x => { x with listener := .done }).expire i
        rw [answer]
        split
        · exact on'.emit rfl rfl
        · exact on'
    · exact on.onSession i _
  · exact on

theorem requestOpen (on : b.Onward o o') (c : CameraId) (share : Bool) :
    b.Onward (orUnchanged (o.requestOpen c share) o) (orUnchanged (o'.requestOpen c share) o') := by
  have created : b.Onward (o.createHandle c) (o'.createHandle c) := by
    refine ⟨?_, on.backdrop⟩
    rw [← on.shown]
    rfl
  unfold Broker.requestOpen
  dsimp only
  rw [on.handles]
  rcases created.offer (.open o.handles.length share) with
    ⟨e, refused, refused'⟩ | ⟨n, n', taken, taken', on'⟩
  · rw [refused, refused']
    cases e with
    | full => exact on
    | closed => exact (created.emit rfl rfl).failHandle _ _
  · rw [taken, taken']
    exact on'

theorem requestCloseAll (on : b.Onward o o') :
    b.Onward (orUnchanged o.requestCloseAll o) (orUnchanged o'.requestCloseAll o') := by
  unfold Broker.requestCloseAll
  rcases on.offer .closeAll with ⟨e, refused, refused'⟩ | ⟨n, n', taken, taken', on'⟩
  · rw [refused, refused']
    cases e with
    | full => exact on
    | closed => exact on.emit rfl rfl
  · rw [taken, taken']
    exact on'

theorem offerOrLeave (on : b.Onward o o') (r : Request) :
    b.Onward (o.offerOrLeave r) (o'.offerOrLeave r) := by
  unfold Broker.offerOrLeave
  rcases on.offer r with ⟨e, refused, refused'⟩ | ⟨n, n', taken, taken', on'⟩
  · rw [refused, refused']
    exact on
  · rw [taken, taken']
    exact on'

/-- A session is shut and its handle let go before the device is asked to close. -/
theorem beginClose (on : b.Onward o o') (i : SessionId) :
    o.beginClose i = (false, o) ∧ o'.beginClose i = (false, o') ∨
      ∃ (d : DeviceId) (c c' : Broker), b.Onward c c' ∧
        o.beginClose i = ((c.hw.closeDevice d).1, { c with hw := (c.hw.closeDevice d).2 }) ∧
        o'.beginClose i = ((c'.hw.closeDevice d).1, { c' with hw := (c'.hw.closeDevice d).2 }) := by
  unfold Broker.beginClose
  rw [on.sessions]
  split
  · exact .inl ⟨rfl, rfl⟩
  · rename_i s hs
    have told : b.Onward (if s.closing then o else o.emit (.sessionClosing s.camera i))
        (if s.closing then o' else o'.emit (.sessionClosing s.camera i)) := by
      split
      · exact on
      · exact on.emit rfl rfl
    have shut := told.onSession i fun x =>
      { x with closing := true, timer := x.timer.release.2, current := none }
    exact .inr ⟨s.device, _, _, shut.letGo s.current, rfl, rfl⟩

end Onward

theorem shown_resumeClose (k : Nat) : (b.resumeClose k).shown = b.shown.resumeClose k := by
  unfold resumeClose
  rw [shown_closes]
  cases b.closes[k]? with
  | none => rfl
  | some c =>
    dsimp only
    cases c.stage with
    | fresh =>
      rcases (Onward.refl b).beginClose c.session with
        ⟨same, same'⟩ | ⟨d, o, o', on, begun, begun'⟩
      · rw [same, same']
        rfl
      · have asked := o.hw.shown_closeDevice d
        rw [begun, begun', ← on.shown, shown_hw, asked]
        dsimp only
        cases (o.hw.closeDevice d).1 <;> rfl
    | awaiting => rfl
    | done => rfl

end Onward

/-! What the loop does apart from its pending list. -/

section Loop

theorem shown_startSession (d : DeviceId) :
    b.shown.startSession d = ((b.startSession d).1, (b.startSession d).2.shown) := by
  unfold startSession
  rw [shown_hw, Hardware.shown_devices]
  cases b.hw.devices[d]? <;> rfl

theorem shown_deviceReady (c : CameraId) (d : DeviceId) :
    (b.deviceReady c d).shown = b.shown.deviceReady c d := by
  have told : (b.emit (.deviceOpened c d)).shown = b.shown.emit (.deviceOpened c d) :=
    shown_emit b rfl
  unfold deviceReady
  rw [← told, shown_startSession]
  rfl

theorem shown_stopLoop : b.stopLoop.shown = b.shown.stopLoop := by
  have told : ({ b with inbox := b.inbox.dropReader }.emit .loopStopped).shown =
      { b.shown with inbox := b.inbox.dropReader }.emit .loopStopped := shown_emit _ rfl
  exact congrArg (setStage .stopped) told

end Loop

/-! What happens beside the loop. -/

section Actions

theorem shown_onManual (d : DeviceId) (f : Stream → Stream) :
    (b.onManual d f).shown = b.shown.onManual d f := by
  unfold onManual
  rw [shown_hw, Hardware.shown_devices]
  split
  · split <;> rfl
  · rfl

theorem shown_resumeTask {t : Task} (ht : t ≠ .loop) :
    (b.resumeTask t).shown = b.shown.resumeTask t := by
  cases t with
  | release d =>
    have released := b.hw.shown_resumeRelease d
    simp only [resumeTask, onHardware, shown, released]
  | observe h => exact ((Onward.refl b).observe h).shown
  | listen i => exact ((Onward.refl b).listen i).shown
  | close k => exact b.shown_resumeClose k
  | countdown i g => exact ((Onward.refl b).wakeCountdown i g).shown
  | loop => exact absurd rfl ht

variable {b}

theorem shown_ite {p q : Prop} [Decidable p] [Decidable q] {o o' : Broker} (same : q ↔ p)
    (shows : o.shown = o') : (if p then o else b).shown = if q then o' else b.shown := by
  by_cases hp : p
  · rw [if_pos hp, if_pos (same.2 hp), shows]
  · rw [if_neg hp, if_neg fun hq => hp (same.1 hq)]

variable (b)

/-- Whatever happens beside the loop, all that shows comes of what showed before. -/
theorem shown_step {a : Action} (ha : a ≠ .turn .loop) : (b.step a).shown = b.shown.step a := by
  cases a with
  | turn t =>
    have other : t ≠ .loop := fun same => ha (same ▸ rfl)
    exact shown_ite (b.ready_shown other) (b.shown_resumeTask other)
  | «open» c share => exact shown_ite .rfl ((Onward.refl b).requestOpen c share).shown
  | closeAll => exact shown_ite .rfl (Onward.refl b).requestCloseAll.shown
  | shutdown =>
    exact shown_ite .rfl (congrArg leave ((Onward.refl b).offerOrLeave .closeAll).shown)
  | leave => exact shown_ite .rfl rfl
  | join => exact shown_ite .rfl (shown_ite .rfl (shown_emit b rfl))
  | disconnect h => exact ((Onward.refl b).disconnect h).shown
  | forget h => rfl
  | grant =>
    have told : ({ b with granted := true }.emit .permissionGranted).shown =
        { b.shown with granted := true }.emit .permissionGranted := shown_emit _ rfl
    by_cases granted : b.granted = true
    · rw [step, step, Broker.grant, Broker.grant, shown_granted, if_pos granted, if_pos granted]
    · rw [step, step, Broker.grant, Broker.grant, shown_granted, if_neg granted, if_neg granted,
        told]
  | revoke =>
    have told : ({ b with granted := false }.emit .permissionRevoked).shown =
        { b.shown with granted := false }.emit .permissionRevoked := shown_emit _ rfl
    exact shown_ite .rfl told
  | unplug c =>
    have held : b.shown.holdsDevice = b.holdsDevice := funext b.holdsDevice_shown
    have unplugged := b.hw.shown_unplug c b.holdsDevice
    simp only [step, unplug, held, shown_hw, ← unplugged]
    rfl
  | addCamera c =>
    have added := b.hw.shown_addCamera c
    simp only [step, onHardware, shown_hw, ← added]
    rfl
  | failNext c n => rfl
  | setLatency o c => rfl
  | publish d state => exact b.shown_onManual d _
  | dropPublisher d => exact b.shown_onManual d _
  | script delay onClose outcomes =>
    simp only [step, rescript, shown_opener]
    split <;> rfl
  | elapse ms => rfl

end Actions

end Broker

end CameraBroker
