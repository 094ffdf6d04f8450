import CameraBroker.Proofs.Departures
import CameraBroker.Proofs.HandleMoves

/-! What becomes of an open that the loop evaluates, and how the opener replies to it. The rules
tell what happens to the loop and the sessions; here the handles are told of as well. -/
namespace CameraBroker

namespace Broker
variable {b o : Broker} {h : HandleId} {c : CameraId} {share : Bool} {x : Handle}

/-- The broker once the loop has emptied its inbox. -/
def takeIn (b : Broker) : Broker :=
  ({ b with inbox := { b.inbox with buffer := [] } }.setPending b.waiting).emit
    (.pending b.waiting.length)

/-- The opener's reply to the open of a handle, for now. -/
inductive Replies (b : Broker) (h : HandleId) (c : CameraId) (b' : Broker) : Prop where
  | refuses {o : Broker} (same : o.bonds = b.bonds) (view : o.view = b.view)
      (gaveUp : b' = o.openerGaveUp h c)
  | goesOn (call : OpenerCall) (more : List Device) (same : b'.bonds = b.bonds)
      (view : b'.view = (b.view.setDevices (b.view.devices ++ more)).setStage (.opening h call))
  | ends (new : List Event) (handles : b'.handles = b.handles)
      (told : b'.view.milestones = new ++ b.view.milestones)
      (lines : ∀ e ∈ new, e.isDeviceLine = true) (stage : b'.loop.stage.opens? = none)

/-- What becomes of an open that the loop evaluates. -/
inductive Evaluation (b : Broker) (h : HandleId) (share : Bool) (x : Handle) : Broker → Prop where
  | stale (answered : x.state ≠ .unopened) :
      Evaluation b h share x (((b.takeIn.emit (.stale h x.camera)).popHead).setStage .reading)
  | makeRoom (waits : x.state = .unopened) (exclusive : share = false)
      {others own : List SessionId} (conflict : b.conflicting x.camera = (others, own))
      (some : others ≠ []) :
      Evaluation b h share x (((b.takeIn.emit (.makingRoom others.length x.camera)).setActive
        own).closeSessions others .read)
  | replace (waits : x.state = .unopened) {i : SessionId}
      (active : b.activeFor? x.camera = some i) :
      Evaluation b h share x (((b.takeIn.emit (.replacing x.camera)).setActive
        (b.loop.active.filter (· ≠ i))).closeSessions [i] .read)
  | attach (waits : x.state = .unopened) (alone : share = false → (b.conflicting x.camera).1 = [])
      {i : SessionId} (active : b.activeFor? x.camera = some i)
      (up : ((b.takeIn.sessionStream? i).any fun s => s.state.isTearingDown) = false) :
      Evaluation b h share x (((b.takeIn.connectTo i h).popHead).setStage .reading)
  | deny (waits : x.state = .unopened) (alone : share = false → (b.conflicting x.camera).1 = [])
      (none : b.activeFor? x.camera = none) (refused : b.granted = false) :
      Evaluation b h share x
        ((b.takeIn.emit (.permissionAsked x.camera false)).giveUpOpen h .permissionDenied)
  | ask (waits : x.state = .unopened) (alone : share = false → (b.conflicting x.camera).1 = [])
      (none : b.activeFor? x.camera = none) (granted : b.granted = true) {b' : Broker}
      (replies : ((b.takeIn.emit (.permissionAsked x.camera true)).emit
        (.openerAsked x.camera h)).Replies h x.camera b') : Evaluation b h share x b'

inductive Course (b b' : Broker) : Prop where
  | rests (new : List Event) (handles : b'.handles = b.handles)
      (told : b'.view.milestones = new ++ b.view.milestones)
      (closes : ∀ e ∈ new, ∃ i, e = .serviced (.close i)) (opens : b'.loop.stage.opens? = none)
  | clears {before after : List Request} (last : lastCloseAll? b.waiting = some (before, after))
      (handles : ∀ h : HandleId, b'.handles[h]? = (b.handles[h]?).map fun x =>
        if h ∈ before.filterMap Request.handle? then x.failed .superseded else x)
      (told : b'.view.milestones = (before.map .serviced).reverse ++ b.view.milestones)
      (opens : b'.loop.stage.opens? = none)
  | evaluates {h : HandleId} {share : Bool} {x : Handle} (evaluates : b.Evaluates h share x)
      (evaluation : b.Evaluation h share x b')
  | replies {h : HandleId} {call : OpenerCall} {x : Handle} (stage : b.loop.stage = .opening h call)
      (hx : b.handles[h]? = some x) (replies : b.Replies h x.camera b')

theorem view_takeIn (b : Broker) : b.takeIn.view = b.view.take b.waiting := by
  rw [takeIn, view_emit]
  rfl

/-- Whoever is given up is the only one who hears of it. -/
theorem handles_giveUpOpen (h : HandleId) (reason : OpenFailure) (b : Broker) :
    (b.giveUpOpen h reason).handles = b.handles.modify h (·.failed reason) :=
  (handles_popHead (b.failHandle h reason)).trans (b.handles_failHandle h reason)

theorem sessions_giveUpOpen (h : HandleId) (reason : OpenFailure) (b : Broker) :
    (b.giveUpOpen h reason).sessions = b.sessions :=
  (congrArg Prod.snd (bonds_popHead (b.failHandle h reason))).trans
    (b.sessions_failHandle h reason)

theorem view_giveUpOpen (h : HandleId) (reason : OpenFailure) (b : Broker) :
    (b.giveUpOpen h reason).view = b.view.popHead.setStage .reading := by
  rw [giveUpOpen, view_setStage, view_popHead, view_failHandle]

/-- A loop that waits for sessions to close has no call of the opener under way. -/
theorem opens?_awaitClosed (sessions left : List SessionId) (after : AfterClose) (b : Broker) :
    (b.awaitClosed sessions left after).loop.stage.opens? = none := by
  have next : (b.awaitClosed sessions left after).loop.stage = .afterWait sessions
      (left.filter fun i => !b.isSessionGone i) after :=
    congrArg (·.loop.stage) (b.view_awaitClosed sessions left after)
  rw [next, LoopStage.opens?_afterWait]

theorem opens?_closeSessions (sessions : List SessionId) (after : AfterClose) (b : Broker) :
    (b.closeSessions sessions after).loop.stage.opens? = none :=
  opens?_awaitClosed sessions sessions after _

/-! The opener. -/

section Opening

/-- What the opener does not look at may be different. -/
theorem Replies.of_eq {b' : Broker} (replies : o.Replies h c b') (same : o.bonds = b.bonds)
    (view : o.view = b.view) : b.Replies h c b' := by
  cases replies with
  | refuses same' view' gaveUp => exact .refuses (same'.trans same) (view'.trans view) gaveUp
  | goesOn call more same' view' => exact .goesOn call more (same'.trans same) (view ▸ view')
  | ends new handles told lines stage =>
    have old : o.handles = b.handles := congrArg Prod.fst same
    exact .ends new (handles.trans old) (view ▸ told) lines stage

theorem replies_attemptFailed (b : Broker) (h : HandleId) (c : CameraId) (p : RetryPolicy)
    (attempt : Nat) (e : DeviceError) : b.Replies h c (b.attemptFailed p h c attempt e) := by
  unfold attemptFailed
  split
  · refine .goesOn (.pausing attempt (b.now + p.interval)) [] rfl ?_
    rw [view_setStage, view_emit, List.append_nil]
    rfl
  · have same : (b.emit (.gaveUp c attempt e)).view = b.view := by
      rw [view_emit]
      rfl
    exact .refuses (o := b.emit (.gaveUp c attempt e)) rfl same rfl

theorem replies_beginAttempt (b : Broker) (h : HandleId) (c : CameraId) (p : RetryPolicy)
    (attempt : Nat) : b.Replies h c (b.beginAttempt p h c attempt) := by
  obtain ⟨attempts, -, ⟨e, cameras, failed⟩ | ⟨x, -, -, -, -, begun⟩⟩ :=
    b.beginAttempt_cases p h c attempt
  · rw [failed]
    exact (replies_attemptFailed { b with hw := { b.hw with attempts, cameras } } h c p attempt
      e).of_eq rfl rfl
  · rw [begun]
    exact .goesOn _ [x] rfl rfl

/-- A device that is there becomes a session, and the opener's call has ended. -/
theorem Replies.ready (new : List Event) (handles : o.handles = b.handles)
    (told : o.view.milestones = new ++ b.view.milestones)
    (lines : ∀ e ∈ new, e.isDeviceLine = true) (d : DeviceId) :
    b.Replies h c (o.deviceReady c d) := by
  have started : (o.deviceReady c d).view.milestones = .deviceOpened c d :: o.view.milestones := by
    have same : (o.deviceReady c d).view.milestones =
        (o.emit (.deviceOpened c d)).view.milestones := by
      unfold deviceReady startSession
      dsimp only
      split <;> rfl
    rw [same, view_emit]
    rfl
  refine .ends (.deviceOpened c d :: new) ((handles_deviceReady d).trans handles) ?_ ?_ rfl
  · rw [started, told]
    rfl
  · exact List.forall_mem_cons.2 ⟨rfl, lines⟩

theorem replies_endAttempt (b : Broker) (h : HandleId) (c : CameraId) (p : RetryPolicy)
    (attempt : Nat) (d : DeviceId) : b.Replies h c (b.endAttempt p h c attempt d) := by
  unfold endAttempt Hardware.finishOpen
  cases advanced : b.hw.advance? d .open with
  | none => exact replies_attemptFailed b h c p attempt _
  | some xw =>
    obtain ⟨x, w⟩ := xw
    have history : w.history = b.hw.history := Hardware.history_of_advance advanced
    let opened : Broker := { b with hw := (w.recordOpen c).emit (.simulatedOpen c) }
    have told : opened.view.milestones = [.logOpened c] ++ b.view.milestones := by
      have recorded : (w.recordOpen c).milestones = .logOpened c :: w.milestones := rfl
      have same : w.milestones = b.hw.milestones := congrArg (List.filter _) history
      have told : opened.hw.milestones = (w.recordOpen c).milestones := by
        unfold opened
        rw [Hardware.milestones_emit]
        rfl
      exact (told.trans recorded).trans (congrArg (Event.logOpened c :: ·) same)
    have line : ∀ e ∈ [Event.logOpened c], e.isDeviceLine = true := by simp [Event.isDeviceLine]
    dsimp only
    split
    · refine Replies.ready (b := b) (o := opened.emit (.openedOnAttempt c attempt p.attempts)) _ rfl
        ?_ line d
      rw [view_emit]
      exact told
    · exact Replies.ready (b := b) (o := opened) _ rfl told line d

theorem replies_endScripted (b : Broker) (h : HandleId) (c : CameraId) (onClose : OnClose)
    (outcome : ScriptedOpen) : b.Replies h c (b.endScripted h c onClose outcome) := by
  cases outcome with
  | refused => exact .refuses (o := b) rfl rfl rfl
  | crash => exact .ends [] rfl rfl nofun rfl
  | device state =>
    let added : Broker := { b with hw := (b.hw.addManual c state onClose).2 }
    exact Replies.ready (b := b) (o := added) [] rfl rfl nofun _

theorem replies_resumeOpening {call : OpenerCall} (hx : b.handles[h]? = some x)
    (stage : b.loop.stage = .opening h call) :
    b.Replies h x.camera (b.resumeOpening h call) := by
  have stays : b.view = (b.view.setDevices (b.view.devices ++ [])).setStage (.opening h call) := by
    rw [List.append_nil, View.setStage, ← stage]
    rfl
  unfold resumeOpening
  rw [hx]
  dsimp only
  split
  · exact replies_endAttempt b h _ _ _ _
  · exact replies_beginAttempt b h _ _ _
  · rename_i delay onClose outcomes _
    exact (replies_endScripted { b with opener := .scripted delay onClose outcomes.tail } h _
      onClose _).of_eq rfl rfl
  · exact .goesOn _ [] rfl stays

end Opening

/-! The case analysis of the loop. -/

theorem firstClose?_of_not_mem {rs : List Request} (absent : ∀ i, .close i ∉ rs) :
    firstClose? rs = none := by
  cases first : firstClose? rs with
  | none => rfl
  | some found =>
    obtain ⟨before, after, rfl, -, -⟩ := firstClose?_eq_some first
    exact absurd (List.mem_append_right before List.mem_cons_self) (absent found.1)

theorem lastCloseAll?_of_not_mem {rs : List Request} (absent : .closeAll ∉ rs) :
    lastCloseAll? rs = none := by
  cases last : lastCloseAll? rs with
  | none => rfl
  | some split =>
    obtain ⟨rfl, mem, -⟩ := lastCloseAll?_eq_some last
    exact absurd (List.mem_append_left _ mem) absent

/-- A loop that finds requests takes them in and serves one round. -/
theorem resumeLoop_of_waiting (stage : b.loop.stage = .reading) {r : Request} {rest : List Request}
    (head : b.waiting = r :: rest) : b.resumeLoop = b.takeIn.serve := by
  have some : b.loop.pending ++ b.inbox.buffer = r :: rest := head
  unfold resumeLoop read takeIn waiting
  rw [stage]
  dsimp only
  rw [some]

theorem resumeLoop_of_evaluates (evaluates : b.Evaluates h share x) :
    b.resumeLoop = b.takeIn.serveOpen h share := by
  obtain ⟨rest, head⟩ := evaluates.head
  have pending : b.takeIn.loop.pending = b.waiting := rfl
  rw [resumeLoop_of_waiting evaluates.stage head, serve, pending,
    firstClose?_of_not_mem evaluates.noClose, lastCloseAll?_of_not_mem evaluates.noCloseAll]
  dsimp only
  rw [head]

theorem evaluation_place (waits : x.state = .unopened)
    (alone : share = false → (b.conflicting x.camera).1 = []) :
    b.Evaluation h share x (b.takeIn.place h x.camera) := by
  unfold place
  have same : b.takeIn.activeFor? x.camera = b.activeFor? x.camera := rfl
  rw [same]
  cases active : b.activeFor? x.camera with
  | none =>
    have granted : (b.takeIn.emit (.permissionAsked x.camera b.takeIn.granted)).granted =
        b.granted := rfl
    dsimp only
    unfold beginOpening
    dsimp only
    rw [granted]
    cases answer : b.granted with
    | false =>
      have refused : b.takeIn.granted = false := answer
      rw [refused]
      exact .deny waits alone active answer
    | true =>
      have allowed : b.takeIn.granted = true := answer
      rw [allowed]
      refine .ask waits alone active answer ?_
      rw [if_pos rfl]
      split
      · exact replies_beginAttempt _ h x.camera _ 1
      · rename_i delay onClose outcomes _
        refine .goesOn (.scripted (b.now + delay)) [] rfl ?_
        rw [view_setStage, view_emit, List.append_nil]
        rfl
  | some i =>
    dsimp only
    split
    · exact .replace waits active
    · rename_i up
      exact .attach waits alone active (Bool.eq_false_iff.2 up)

/-- An open that is evaluated comes to one of these. -/
theorem evaluation_resumeLoop (evaluates : b.Evaluates h share x) :
    b.Evaluation h share x b.resumeLoop := by
  have hx : b.takeIn.handles[h]? = some x := evaluates.handle
  rw [resumeLoop_of_evaluates evaluates, serveOpen, hx]
  dsimp only
  split
  · rename_i answered
    exact .stale answered
  · rename_i unanswered
    have waits : x.state = .unopened := by simpa using unanswered
    cases share with
    | true => exact evaluation_place waits nofun
    | false =>
      have same : b.takeIn.conflicting x.camera = b.conflicting x.camera := rfl
      rw [if_neg Bool.false_ne_true, same]
      cases conflict : b.conflicting x.camera with
      | mk others own =>
        cases others with
        | nil => exact evaluation_place waits fun _ => by rw [conflict]
        | cons i others => exact .makeRoom waits rfl conflict nofun

/-- The loop closes sessions, and no handle hears of it yet. -/
theorem Course.closing {b' : Broker} (new : List Event) (handles : o.handles = b.handles)
    (told : o.view.milestones = new ++ b.view.milestones)
    (closes : ∀ e ∈ new, ∃ i, e = .serviced (.close i)) {active sessions : List SessionId}
    {after : AfterClose} (closed : b' = (o.setActive active).closeSessions sessions after) :
    b.Course b' := by
  obtain ⟨left, -, view⟩ := view_closeSessions active sessions after o
  rw [← closed] at view
  refine .rests new ?_ ?_ closes ?_
  · rw [closed]
    exact (handles_closeSessions sessions after (o.setActive active)).trans handles
  · rw [view]
    exact told
  · rw [closed]
    exact opens?_closeSessions _ _ _

/-- A close-all gives up the handles that it supersedes. -/
theorem course_clears (stage : b.loop.stage = .reading) {r : Request} {rest : List Request}
    (head : b.waiting = r :: rest) (noClose : firstClose? b.waiting = none)
    {before after : List Request} (last : lastCloseAll? b.waiting = some (before, after)) :
    b.Course b.resumeLoop := by
  let given := before.foldl supersede (b.takeIn.setPending after)
  let told := given.emit (.superseding given.loop.active.length)
  have closed : b.resumeLoop = (told.setActive []).closeSessions given.loop.active .read := by
    have pending : b.takeIn.loop.pending = b.waiting := rfl
    rw [resumeLoop_of_waiting stage head, serve, pending, noClose, last]
  obtain ⟨view, -⟩ := supersedeAll before (b.takeIn.setPending after)
  obtain ⟨-, handles⟩ := supersede_bonds before (b.takeIn.setPending after)
  obtain ⟨left, -, closedView⟩ := view_closeSessions [] given.loop.active .read told
  rw [← closed] at closedView
  refine .clears last (fun g => ?_) ?_ ?_
  · have same : b.resumeLoop.handles = given.handles := by
      rw [closed]
      exact handles_closeSessions _ _ _
    rw [same, handles g]
    rfl
  · have toldView : told.view = (b.view.take after).service before := by
      unfold told
      rw [view_emit, view, view_setPending, view_takeIn]
      rfl
    rw [closedView, toldView]
    rfl
  · rw [closed]
    exact opens?_closeSessions _ _ _

/-- What waits is served by the first rule that applies. -/
theorem course_read (hs : b.view.Sound) (stage : b.loop.stage = .reading) {r : Request}
    {rest : List Request} (head : b.waiting = r :: rest) : b.Course b.resumeLoop := by
  cases first : firstClose? b.waiting with
  | some found =>
    let told := (b.takeIn.setPending found.2).serviced (.close found.1)
    have closed : b.resumeLoop =
        (told.setActive (b.loop.active.filter (· ≠ found.1))).closeSessions [found.1] .read := by
      have pending : b.takeIn.loop.pending = b.waiting := rfl
      rw [resumeLoop_of_waiting stage head, serve, pending, first]
      rfl
    have handles : told.handles = b.handles := rfl
    refine .closing [.serviced (.close found.1)] handles ?_ (by simp) closed
    unfold told
    rw [view_serviced, view_setPending, view_takeIn]
    rfl
  | none =>
    cases last : lastCloseAll? b.waiting with
    | some split => exact course_clears stage head first last
    | none =>
      obtain ⟨h, share, rfl⟩ := exists_open_of_none (head ▸ first) (head ▸ last)
      obtain ⟨x, hx⟩ : ∃ x, b.handles[h]? = some x :=
        ⟨_, List.getElem?_eq_getElem (lt_of_waiting hs (head ▸ List.mem_cons_self))⟩
      have evaluates : b.Evaluates h share x :=
        ⟨stage, ⟨rest, head⟩, firstClose?_eq_none first, lastCloseAll?_eq_none last, hx⟩
      exact .evaluates evaluates (evaluation_resumeLoop evaluates)

/-- A turn of the loop takes one of these courses. -/
theorem course_resumeLoop (hs : b.view.Sound) : b.Course b.resumeLoop := by
  cases stage : b.loop.stage with
  | fresh =>
    have begun : b.resumeLoop = (b.emit .loopStarted).setStage .reading := by
      rw [resumeLoop, stage]
    rw [begun]
    exact .rests [] rfl rfl nofun rfl
  | reading =>
    cases head : b.waiting with
    | cons r rest => exact course_read hs stage head
    | nil =>
      have empty : b.loop.pending ++ b.inbox.buffer = [] := head
      have read : b.resumeLoop = if b.inbox.producers = 0 then b.finish else b := by
        rw [resumeLoop, stage]
        dsimp only
        rw [read, empty]
      rw [read]
      split
      · unfold finish
        split
        · exact .rests [] rfl rfl nofun rfl
        · rename_i active some
          exact .closing (o := b.emit (.stopping b.loop.active.length)) [] rfl rfl nofun rfl
      · exact .rests [] rfl rfl nofun (by rw [stage]; rfl)
  | opening h call =>
    have resumed : b.resumeLoop = b.resumeOpening h call := by rw [resumeLoop, stage]
    obtain ⟨c, ho⟩ := hs.opening h (congrArg LoopStage.opens? stage)
    obtain ⟨x, hx, -⟩ : ∃ x, b.handles[h]? = some x ∧ x.camera = c := by
      simpa [view] using ho.camera
    rw [resumed]
    exact .replies stage hx (replies_resumeOpening hx stage)
  | closing sessions left after =>
    have waits : b.resumeLoop = b.awaitClosed sessions left after := by rw [resumeLoop, stage]
    rw [waits]
    refine .rests [] (handles_awaitClosed b sessions left after) ?_ nofun
      (opens?_awaitClosed sessions left after b)
    rw [view_awaitClosed]
    rfl
  | stopped =>
    have stays : b.resumeLoop = b := by rw [resumeLoop, stage]
    rw [stays]
    exact .rests [] rfl rfl nofun (by rw [stage]; rfl)
  | crashed =>
    have stays : b.resumeLoop = b := by rw [resumeLoop, stage]
    rw [stays]
    exact .rests [] rfl rfl nofun (by rw [stage]; rfl)

end Broker

end CameraBroker
