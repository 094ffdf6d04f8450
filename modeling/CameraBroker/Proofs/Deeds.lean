import CameraBroker.Proofs.Fates

/-! What a step does to handles and sessions, said once. Most steps leave them alone, and every
other one does a single deed. -/
namespace CameraBroker

/-- The handle after it is given up, if it still waits. -/
def Handle.failed (reason : OpenFailure) (x : Handle) : Handle := (x.fail? reason).getD x

theorem Handle.failed_failed (x : Handle) (reason : OpenFailure) :
    (x.failed reason).failed reason = x.failed reason := by
  unfold failed fail?
  by_cases hx : x.state = .unopened <;> simp [hx]

def Session.shut (s : Session) : Session :=
  { s with closing := true, timer := s.timer.release.2, current := none }

namespace Broker

def bonds (b : Broker) : List Handle × List Session := (b.handles, b.sessions)

def letGo (current : Option HandleId) (b : Broker) : Broker :=
  match current with
  | none => b
  | some h => b.disconnect h

structure Takes (b : Broker) (i : SessionId) (h : HandleId) (s : Session) (x : Handle)
    (token : Option TimerId) (bound : Broker) : Prop where
  session : b.sessions[i]? = some s
  handle : b.handles[h]? = some x
  waits : x.state = .unopened
  handles : bound.handles = b.handles.set h
    { x with state := .connected, binding := some ⟨s.device, token, none⟩ }
  timer : (∃ t, s.timer.acquire? = some t ∧ token = some i ∧
      bound.sessions = b.sessions.set i { s with current := some h, timer := t }) ∨
    s.timer.acquire? = none ∧ token = none ∧
      bound.sessions = b.sessions.set i { s with current := some h }

inductive Deed (b : Broker) (a : Action) (b' : Broker) : Prop where
  | quiet (same : b'.bonds = b.bonds)
  | create {y : Handle} (unbound : y.binding = none)
      (state : y.state = .unopened ∨ y.state = .disconnected ∧ b'.waiting = b.waiting)
      (handles : b'.handles = b.handles ++ [y]) (sessions : b'.sessions = b.sessions)
  | forget (h : HandleId) (same : b'.bonds = (b.forget h).bonds)
  | disconnect (h : HandleId) (asked : a = .disconnect h)
      (same : b'.bonds = (b.disconnect h).bonds)
  | observe (h : HandleId) (same : b'.bonds = (b.observe h).bonds)
  | listen {i : SessionId} (ready : i ∈ b.readyListeners) (same : b' = b.listen i)
  | wake (i : SessionId) (generation : Nat) (same : b' = b.wakeCountdown i generation)
  | shut {i : SessionId} {s : Session} {shutting : Broker} (fresh : { session := i } ∈ b.closes)
      (hs : b.sessions[i]? = some s) (handles : shutting.handles = b.handles)
      (sessions : shutting.sessions = b.sessions.set i s.shut)
      (same : b'.bonds = (shutting.letGo s.current).bonds)
  | fail {h : HandleId} {share : Bool} (reason : OpenFailure)
      (served : b.waiting = .open h share :: b'.waiting)
      (handles : b'.handles = b.handles.modify h (·.failed reason))
      (sessions : b'.sessions = b.sessions)
  | supersede {before : List Request} (served : b.waiting = before ++ b'.waiting)
      (handles : ∀ h : HandleId, b'.handles[h]? = (b.handles[h]?).map fun x =>
        if h ∈ before.filterMap Request.handle? then x.failed .superseded else x)
      (sessions : b'.sessions = b.sessions)
  | attach {h : HandleId} {share : Bool} {i : SessionId} {s : Session} {x : Handle}
      {token : Option TimerId} {bound : Broker} (served : b.waiting = .open h share :: b'.waiting)
      (noClose : firstClose? b.waiting = none) (noCloseAll : lastCloseAll? b.waiting = none)
      (active : i ∈ b.loop.active) (takes : b.Takes i h s x token bound)
      (same : b'.bonds = (bound.letGo s.current).bonds)
  | join {c : CameraId} {d : DeviceId} {instant : Nat} (handles : b'.handles = b.handles)
      (sessions : b'.sessions = b.sessions ++ [.start c d instant])

section Frames
variable (b : Broker)

theorem handles_failHandle (h : HandleId) (reason : OpenFailure) :
    (b.failHandle h reason).handles = b.handles.modify h (·.failed reason) := by
  apply List.ext_getElem?
  intro g
  unfold failHandle
  cases hx : b.handles[h]? with
  | none =>
    have out : b.handles.length ≤ h := List.getElem?_eq_none_iff.1 hx
    rw [List.modify_eq_self out]
  | some x =>
    obtain ⟨hh, rfl⟩ := List.getElem?_eq_some_iff.1 hx
    by_cases hg : h = g
    · subst hg
      cases hf : (b.handles[h]).fail? reason <;>
        simp [Handle.failed, hf, hh, emit, setHandle]
    · cases hf : (b.handles[h]).fail? reason <;>
        simp [hf, hg, emit, setHandle]

theorem sessions_failHandle (h : HandleId) (reason : OpenFailure) :
    (b.failHandle h reason).sessions = b.sessions := by
  unfold failHandle
  split
  · rfl
  · split <;> rfl

theorem bonds_popHead : b.popHead.bonds = b.bonds := by
  unfold popHead
  split <;> rfl

theorem bonds_awaitClosed (sessions left : List SessionId) (after : AfterClose) :
    (b.awaitClosed sessions left after).bonds = b.bonds := by
  unfold awaitClosed
  split
  · cases after <;> rfl
  · rfl

theorem bonds_closeSessions (sessions : List SessionId) (after : AfterClose) :
    (b.closeSessions sessions after).bonds = b.bonds := by
  unfold closeSessions
  rw [bonds_awaitClosed]
  induction sessions generalizing b with
  | nil => rfl
  | cons i sessions ih => exact ih (b.spawnClose i)

end Frames

/-! The two operations that let go of a session's handle. -/

theorem beginClose_bonds {b : Broker} {i : SessionId} {s : Session}
    (hs : b.sessions[i]? = some s) : ∃ shutting : Broker, shutting.handles = b.handles ∧
      shutting.sessions = b.sessions.set i s.shut ∧
      (b.beginClose i).2.bonds = (shutting.letGo s.current).bonds := by
  obtain ⟨hi, rfl⟩ := List.getElem?_eq_some_iff.1 hs
  let told := if b.sessions[i].closing then b
    else b.emit (.sessionClosing b.sessions[i].camera i)
  have same : told.sessions = b.sessions := by
    unfold told
    split <;> rfl
  let shutting := told.onSession i fun x =>
    { x with closing := true, timer := x.timer.release.2, current := none }
  refine ⟨shutting, ?_, ?_, ?_⟩
  · unfold shutting told
    split <;> rfl
  · have modified : shutting.sessions = told.sessions.modify i Session.shut := rfl
    rw [modified, same, List.modify_eq_set_get _ hi]
    rfl
  · simp only [beginClose, hs]
    cases b.sessions[i].current <;> rfl

theorem connectTo_bonds {b : Broker} {i : SessionId} {h : HandleId} {s : Session} {x : Handle}
    (hs : b.sessions[i]? = some s) (hx : b.handles[h]? = some x) (hu : x.state = .unopened) :
    ∃ (token : Option TimerId) (bound : Broker), b.Takes i h s x token bound ∧
      (b.connectTo i h).bonds = (bound.letGo s.current).bonds := by
  obtain ⟨hi, rfl⟩ := List.getElem?_eq_some_iff.1 hs
  have taken : ∀ token, x.connect? b.sessions[i].device token =
      some { x with state := .connected, binding := some ⟨b.sessions[i].device, token, none⟩ } := by
    intro token
    simp [Handle.connect?, Handle.move?, HandleState.canMoveTo, hu, HandleState.rank]
  cases ht : b.sessions[i].timer.acquire? with
  | some t =>
    let y : Handle :=
      { x with state := .connected, binding := some ⟨b.sessions[i].device, some i, none⟩ }
    let bound := (((b.onTimer i fun _ => t).setHandle h y).emit
      (.attached h b.sessions[i].camera i)).onSession i fun s => { s with current := some h }
    refine ⟨some i, bound, ⟨hs, hx, hu, rfl, .inl ⟨t, ht, rfl, ?_⟩⟩, ?_⟩
    · have twice : bound.sessions = (b.sessions.modify i fun s => { s with timer := t }).modify i
          fun s => { s with current := some h } := rfl
      rw [twice, List.modify_modify_eq, List.modify_eq_set_get _ hi]
      rfl
    · simp only [connectTo, hs, hx, ht, taken (some i)]
      cases b.sessions[i].current <;> rfl
  | none =>
    let y : Handle :=
      { x with state := .connected, binding := some ⟨b.sessions[i].device, none, none⟩ }
    let bound := ((b.setHandle h y).emit (.attached h b.sessions[i].camera i)).onSession i
      fun s => { s with current := some h }
    have once : bound.sessions = b.sessions.modify i fun s => { s with current := some h } := rfl
    refine ⟨none, bound, ⟨hs, hx, hu, rfl, .inr ⟨ht, rfl, ?_⟩⟩, ?_⟩
    · rw [once, List.modify_eq_set_get _ hi]
      rfl
    · simp only [connectTo, hs, hx, ht, taken none]
      cases b.sessions[i].current <;> rfl

/-! The opener. -/

inductive Answers (b : Broker) (h : HandleId) (b' : Broker) : Prop where
  | waits (same : b'.bonds = b.bonds)
  | fails (reason : OpenFailure) (handles : b'.handles = b.handles.modify h (·.failed reason))
      (sessions : b'.sessions = b.sessions) (pending : b'.loop.pending = b.loop.pending.tail)
      (inbox : b'.inbox = b.inbox)
  | opens {c : CameraId} {d : DeviceId} {instant : Nat} (handles : b'.handles = b.handles)
      (sessions : b'.sessions = b.sessions ++ [.start c d instant])

/-- What the opener does not look at may be different. -/
theorem Answers.of_eq {b o b' : Broker} {h : HandleId} (answers : o.Answers h b')
    (same : o.bonds = b.bonds) (loop : o.loop = b.loop) (inbox : o.inbox = b.inbox) :
    b.Answers h b' := by
  have handles : o.handles = b.handles := congrArg Prod.fst same
  have sessions : o.sessions = b.sessions := congrArg Prod.snd same
  cases answers with
  | waits still => exact .waits (still.trans same)
  | fails reason failed still pending left =>
    exact .fails reason (handles ▸ failed) (still.trans sessions) (loop ▸ pending)
      (left.trans inbox)
  | opens still new => exact .opens (still.trans handles) (sessions ▸ new)

section Opening
variable {b : Broker} (h : HandleId) (c : CameraId)

theorem loop_failHandle (b : Broker) (reason : OpenFailure) :
    (b.failHandle h reason).loop = b.loop ∧ (b.failHandle h reason).inbox = b.inbox := by
  unfold failHandle
  split
  · exact ⟨rfl, rfl⟩
  · split <;> exact ⟨rfl, rfl⟩

theorem answers_giveUpOpen (b : Broker) (reason : OpenFailure) :
    b.Answers h (b.giveUpOpen h reason) := by
  obtain ⟨loop, inbox⟩ := loop_failHandle h b reason
  have popped : ∀ o : Broker, o.popHead.loop.pending = o.loop.pending.tail ∧
      o.popHead.inbox = o.inbox ∧ o.popHead.bonds = o.bonds := by
    intro o
    unfold popHead
    split
    · rename_i none
      exact ⟨by rw [none]; rfl, rfl, rfl⟩
    · rename_i r rest some
      exact ⟨by rw [some]; rfl, rfl, rfl⟩
  obtain ⟨pending, inbox', same⟩ := popped (b.failHandle h reason)
  refine .fails reason ?_ ?_ ?_ (inbox'.trans inbox)
  · exact (congrArg Prod.fst same).trans (b.handles_failHandle h reason)
  · exact (congrArg Prod.snd same).trans (b.sessions_failHandle h reason)
  · rw [← loop]
    exact pending

theorem answers_attemptFailed (b : Broker) (p : RetryPolicy) (attempt : Nat) (e : DeviceError) :
    b.Answers h (b.attemptFailed p h c attempt e) := by
  unfold attemptFailed
  split
  · exact .waits rfl
  · exact (answers_giveUpOpen h ((b.emit (.gaveUp c attempt e)).emit (.openGivenUp c))
      .openFailed).of_eq rfl rfl rfl

theorem answers_beginAttempt (b : Broker) (p : RetryPolicy) (attempt : Nat) :
    b.Answers h (b.beginAttempt p h c attempt) := by
  unfold beginAttempt
  split
  · rename_i e hw _
    exact (answers_attemptFailed h c { b with hw } p attempt e).of_eq rfl rfl rfl
  · exact .waits rfl

theorem answers_deviceReady (b : Broker) (d : DeviceId) : b.Answers h (b.deviceReady c d) := by
  unfold deviceReady startSession
  dsimp only
  split
  · exact .waits rfl
  · exact .opens rfl rfl

theorem answers_endAttempt (b : Broker) (p : RetryPolicy) (attempt : Nat) (d : DeviceId) :
    b.Answers h (b.endAttempt p h c attempt d) := by
  unfold endAttempt
  split
  · rename_i e hw _
    exact (answers_attemptFailed h c { b with hw } p attempt e).of_eq rfl rfl rfl
  · rename_i hw _
    dsimp only
    split
    · let opened := { b with hw }.emit (.openedOnAttempt c attempt p.attempts)
      exact .of_eq (b := b) (answers_deviceReady h c opened d) rfl rfl rfl
    · exact (answers_deviceReady h c { b with hw } d).of_eq rfl rfl rfl

theorem answers_endScripted (b : Broker) (onClose : OnClose) (outcome : ScriptedOpen) :
    b.Answers h (b.endScripted h c onClose outcome) := by
  cases outcome with
  | refused =>
    exact (answers_giveUpOpen h (b.emit (.openGivenUp c)) .openFailed).of_eq rfl rfl rfl
  | crash => exact .waits rfl
  | device state =>
    exact (answers_deviceReady h c { b with hw := (b.hw.addManual c state onClose).2 }
      (b.hw.addManual c state onClose).1).of_eq rfl rfl rfl

theorem answers_resumeOpening (b : Broker) (call : OpenerCall) :
    b.Answers h (b.resumeOpening h call) := by
  unfold resumeOpening
  split
  · exact .waits rfl
  · split
    · exact answers_endAttempt h _ b _ _ _
    · exact answers_beginAttempt h _ b _ _
    · rename_i delay onClose outcomes _
      exact (answers_endScripted h _
        { b with opener := .scripted delay onClose outcomes.tail } onClose _).of_eq rfl rfl rfl
    · exact .waits rfl

theorem answers_beginOpening (b : Broker) : b.Answers h (b.beginOpening h c) := by
  unfold beginOpening
  dsimp only
  split
  · split
    · exact (answers_beginAttempt h c
        ((b.emit (.permissionAsked c b.granted)).emit (.openerAsked c h)) _ 1).of_eq rfl rfl rfl
    · exact .waits rfl
  · exact (answers_giveUpOpen h (b.emit (.permissionAsked c b.granted))
      .permissionDenied).of_eq rfl rfl rfl

/-- The opener is called for the oldest request. -/
theorem Answers.deed {o b' : Broker} {a : Action} {h : HandleId} (answers : o.Answers h b')
    (same : o.bonds = b.bonds) {share : Bool} {rest : List Request}
    (pending : o.loop.pending = .open h share :: rest)
    (waiting : b.waiting = .open h share :: rest ++ o.inbox.buffer) : Deed b a b' := by
  have handles : o.handles = b.handles := congrArg Prod.fst same
  have sessions : o.sessions = b.sessions := congrArg Prod.snd same
  cases answers with
  | waits still => exact .quiet (still.trans same)
  | @fails reason failed still left inbox =>
    have served : b.waiting = .open h share :: b'.waiting := by
      rw [waiting, Broker.waiting, left, inbox, pending]
      rfl
    exact .fail reason served (handles ▸ failed) (still.trans sessions)
  | opens still new => exact .join (still.trans handles) (sessions ▸ new)

end Opening

/-! A turn of the loop. -/

section Turns
variable {b : Broker}

/-- A close-all gives up every handle whose open came before it. -/
theorem supersede_bonds (before : List Request) (o : Broker) :
    (before.foldl supersede o).sessions = o.sessions ∧
      ∀ h : HandleId, (before.foldl supersede o).handles[h]? = (o.handles[h]?).map fun x =>
        if h ∈ before.filterMap Request.handle? then x.failed .superseded else x := by
  induction before generalizing o with
  | nil => exact ⟨rfl, fun h => by simp⟩
  | cons r before ih =>
    obtain ⟨sessions, handles⟩ := ih (o.supersede r)
    have other : (o.supersede r).bonds = o.bonds → r.handle? = none →
        ((r :: before).foldl supersede o).sessions = o.sessions ∧
        ∀ h : HandleId, ((r :: before).foldl supersede o).handles[h]? =
          (o.handles[h]?).map fun x =>
            if h ∈ (r :: before).filterMap Request.handle? then x.failed .superseded else x := by
      intro same none
      refine ⟨sessions.trans (congrArg Prod.snd same), fun h => ?_⟩
      have old : (o.supersede r).handles = o.handles := congrArg Prod.fst same
      rw [List.filterMap_cons_none none, List.foldl_cons, handles h, old]
    cases r with
    | close i => exact other rfl rfl
    | closeAll => exact other rfl rfl
    | «open» g share =>
      have old : (o.supersede (.open g share)).handles =
          o.handles.modify g (·.failed .superseded) := o.handles_failHandle g .superseded
      refine ⟨sessions.trans (o.sessions_failHandle g .superseded), fun h => ?_⟩
      have first : ((.open g share :: before).filterMap Request.handle?) =
          g :: before.filterMap Request.handle? := rfl
      rw [List.foldl_cons, handles h, old, List.getElem?_modify, first]
      by_cases hgh : g = h
      · subst hgh
        cases o.handles[g]? with
        | none => rfl
        | some x =>
          by_cases again : g ∈ before.filterMap Request.handle? <;>
            simp [again, Handle.failed_failed]
      · have hhg : h ≠ g := fun same => hgh same.symm
        simp [hgh, hhg]

/-- An open whose camera has no conflicting session. -/
theorem deed_place {o : Broker} {a : Action} {h : HandleId} {share : Bool}
    {rest : List Request} {x : Handle} (same : o.bonds = b.bonds)
    (loop : o.loop = { b.loop with pending := .open h share :: rest })
    (buffer : o.inbox.buffer = []) (waiting : b.waiting = .open h share :: rest)
    (noClose : firstClose? b.waiting = none) (noCloseAll : lastCloseAll? b.waiting = none)
    (hx : b.handles[h]? = some x) (hu : x.state = .unopened) (c : CameraId) :
    Deed b a (o.place h c) := by
  have handles : o.handles = b.handles := congrArg Prod.fst same
  have sessions : o.sessions = b.sessions := congrArg Prod.snd same
  unfold place
  cases hi : o.activeFor? c with
  | none =>
    refine (answers_beginOpening h c o).deed same (by rw [loop]) ?_
    rw [waiting, buffer, List.append_nil]
  | some i =>
    obtain ⟨active, s, hs, -⟩ := session_of_activeFor? hi
    dsimp only
    split
    · refine .quiet ((bonds_closeSessions _ _ _).trans same)
    · obtain ⟨token, bound, takes, kept⟩ := connectTo_bonds hs (handles ▸ hx) hu
      have attaches := attaches_connectTo hs (handles ▸ hx) hu
      have still : (o.connectTo i h).loop = o.loop := congrArg View.loop attaches.view
      have left : (o.connectTo i h).inbox = o.inbox := congrArg View.inbox attaches.view
      have pending : (o.connectTo i h).loop.pending = .open h share :: rest := by
        rw [still, loop]
      have served : b.waiting =
          .open h share :: ((o.connectTo i h).popHead.setStage .reading).waiting := by
        have popped : ((o.connectTo i h).popHead.setStage .reading).waiting =
            rest ++ (o.connectTo i h).inbox.buffer := by
          unfold popHead
          rw [pending]
          rfl
        rw [waiting, popped, left, buffer, List.append_nil]
      have taken : b.Takes i h s x token bound :=
        ⟨sessions ▸ takes.session, hx, hu, handles ▸ takes.handles, sessions ▸ takes.timer⟩
      rw [loop] at active
      exact .attach served noClose noCloseAll active taken ((bonds_popHead _).trans kept)

/-- The oldest request is an open. -/
theorem deed_serveOpen {o : Broker} {a : Action} {h : HandleId} {share : Bool}
    {rest : List Request} (same : o.bonds = b.bonds)
    (loop : o.loop = { b.loop with pending := .open h share :: rest })
    (buffer : o.inbox.buffer = []) (waiting : b.waiting = .open h share :: rest)
    (noClose : firstClose? b.waiting = none) (noCloseAll : lastCloseAll? b.waiting = none) :
    Deed b a (o.serveOpen h share) := by
  have handles : o.handles = b.handles := congrArg Prod.fst same
  unfold serveOpen
  split
  · exact .quiet ((bonds_popHead o).trans same)
  · rename_i x hx
    have hx : b.handles[h]? = some x := handles ▸ hx
    split
    · exact .quiet ((bonds_popHead (o.emit (.stale h x.camera))).trans same)
    · rename_i unanswered
      have hu : x.state = .unopened := by simpa using unanswered
      split
      · exact deed_place same loop buffer waiting noClose noCloseAll hx hu x.camera
      · split
        · exact deed_place same loop buffer waiting noClose noCloseAll hx hu x.camera
        · exact .quiet ((bonds_closeSessions _ _ _).trans same)

/-- One round of the rules. -/
theorem deed_serve {o : Broker} {a : Action} (same : o.bonds = b.bonds)
    (loop : o.loop = { b.loop with pending := b.waiting }) (buffer : o.inbox.buffer = []) :
    Deed b a o.serve := by
  have pending : o.loop.pending = b.waiting := by rw [loop]
  unfold serve
  rw [pending]
  split
  · exact .quiet ((bonds_closeSessions _ _ _).trans same)
  · rename_i noClose
    split
    · rename_i before after last
      let given := before.foldl supersede (o.setPending after)
      let told := given.emit (.superseding given.loop.active.length)
      obtain ⟨sessions, handles⟩ := supersede_bonds before (o.setPending after)
      have still : ((told.setActive []).closeSessions given.loop.active .read).bonds =
          given.bonds := bonds_closeSessions _ _ _
      obtain ⟨view, -⟩ := supersedeAll before (o.setPending after)
      obtain ⟨left, -, closed⟩ := view_closeSessions [] given.loop.active .read told
      have served : b.waiting = before ++
          ((told.setActive []).closeSessions given.loop.active .read).waiting := by
        have taken : told.view.waiting = given.view.waiting := by
          unfold told
          rw [view_emit]
          rfl
        have kept : ((o.setPending after).view.service before).waiting =
            after ++ o.inbox.buffer := rfl
        rw [← view_waiting (closeSessions _ _ _), closed, View.waiting_retire, taken, view, kept,
          buffer, List.append_nil]
        exact (lastCloseAll?_eq_some last).1
      refine .supersede served (fun h => ?_) ?_
      · have same' : ((told.setActive []).closeSessions given.loop.active .read).handles =
            given.handles := congrArg Prod.fst still
        have old : (o.setPending after).handles = b.handles := congrArg Prod.fst same
        rw [same', handles h, old]
      · exact (congrArg Prod.snd still).trans (sessions.trans (congrArg Prod.snd same))
    · rename_i noCloseAll
      split
      · rename_i h share rest head
        refine deed_serveOpen same ?_ buffer head noClose noCloseAll
        rw [loop, head]
      · exact .quiet same

/-- A turn of the loop does one deed. -/
theorem deed_resumeLoop (hs : b.view.Sound) (a : Action) : Deed b a b.resumeLoop := by
  unfold resumeLoop
  split
  · exact .quiet rfl
  · unfold read
    split
    · split
      · unfold finish
        split
        · exact .quiet rfl
        · exact .quiet (bonds_closeSessions _ _ _)
      · exact .quiet rfl
    · rename_i pending _ _
      exact deed_serve rfl rfl rfl
  · rename_i h call stage
    obtain ⟨c, ho⟩ := hs.opening h (congrArg LoopStage.opens? stage)
    obtain ⟨share, rest, pending, -⟩ := ho.head
    refine (answers_resumeOpening h b call).deed rfl pending ?_
    have pending : b.loop.pending = .open h share :: rest := pending
    rw [waiting, pending]
  · exact .quiet (bonds_awaitClosed _ _ _ _)
  · exact .quiet rfl
  · exact .quiet rfl

end Turns

/-! The other actions. -/

section Actions
variable (b : Broker)

theorem bonds_offer {b b' : Broker} {r : Request} (h : b.offer r = .ok b') :
    b'.bonds = b.bonds := by
  unfold offer at h
  cases ho : b.inbox.offer r with
  | error e =>
    rw [ho] at h
    cases h
  | ok inbox =>
    rw [ho] at h
    cases h
    rfl

theorem deed_requestOpen (a : Action) (c : CameraId) (share : Bool) :
    Deed b a (orUnchanged (b.requestOpen c share) b) := by
  unfold requestOpen
  dsimp only
  cases ho : (b.createHandle c).offer (.open b.handles.length share) with
  | ok b' =>
    have same := bonds_offer ho
    exact .create rfl (.inl rfl) (congrArg Prod.fst same) (congrArg Prod.snd same)
  | error e =>
    cases e with
    | full => exact .quiet rfl
    | closed =>
      let told := (b.createHandle c).emit .requestDropped
      let y : Handle := { camera := c, state := .disconnected, failure := some .brokerStopped }
      obtain ⟨loop, inbox⟩ := loop_failHandle b.handles.length told .brokerStopped
      have waiting : (told.failHandle b.handles.length .brokerStopped).waiting = b.waiting := by
        rw [Broker.waiting, loop, inbox]
        rfl
      have handles : (told.failHandle b.handles.length .brokerStopped).handles =
          b.handles ++ [y] := by
        have created : told.handles = b.handles ++ [({ camera := c } : Handle)] := rfl
        simp [failHandle, Handle.fail?, setHandle, emit, created, y]
      exact .create rfl (.inr ⟨rfl, waiting⟩) handles (told.sessions_failHandle _ _)

theorem deed_resumeClose (a : Action) (k : Nat) : Deed b a (b.resumeClose k) := by
  unfold resumeClose
  split
  · exact .quiet rfl
  · rename_i c hk
    obtain ⟨i, stage⟩ := c
    cases stage with
    | fresh =>
      cases hs : b.sessions[i]? with
      | none =>
        have nothing : b.beginClose i = (false, b) := by simp [beginClose, hs]
        rw [nothing]
        exact .quiet rfl
      | some s =>
        obtain ⟨shutting, handles, sessions, same⟩ := beginClose_bonds hs
        have fresh := List.mem_of_getElem? hk
        cases began : b.beginClose i with
        | mk started after =>
          rw [began] at same
          cases started with
          | true => exact .shut fresh hs handles sessions same
          | false => exact .shut fresh hs handles sessions same
    | awaiting => exact .quiet rfl
    | done => exact .quiet rfl

theorem bonds_onManual (d : DeviceId) (f : Stream → Stream) : (b.onManual d f).bonds = b.bonds := by
  unfold onManual
  split
  · split <;> rfl
  · rfl

variable {b}

/-- Whatever state a broker is in, every step but a turn of the loop does one deed. -/
theorem deed_step (b : Broker) {a : Action} (ha : a ≠ .turn .loop) : Deed b a (b.step a) := by
  cases a with
  | turn t =>
    simp only [Broker.step]
    split
    · rename_i ready
      cases t with
      | release d => exact .quiet rfl
      | observe h => exact .observe h rfl
      | listen i => exact .listen (by simpa [readyTasks] using ready) rfl
      | close k => exact deed_resumeClose b _ k
      | countdown i g => exact .wake i g rfl
      | loop => exact absurd rfl ha
    · exact .quiet rfl
  | «open» c share =>
    simp only [Broker.step]
    split
    · exact deed_requestOpen b _ c share
    · exact .quiet rfl
  | closeAll =>
    simp only [Broker.step, requestCloseAll]
    split
    · split
      · rename_i b' ho
        exact .quiet (bonds_offer ho)
      · exact .quiet rfl
      · exact .quiet rfl
    · exact .quiet rfl
  | shutdown =>
    simp only [Broker.step, beginShutdown, offerOrLeave]
    split
    · split
      · rename_i b' ho
        have same : b'.bonds = b.bonds := bonds_offer ho
        exact .quiet same
      · exact .quiet rfl
    · exact .quiet rfl
  | leave =>
    simp only [Broker.step]
    split <;> exact .quiet rfl
  | join =>
    simp only [Broker.step, endShutdown]
    split
    · split <;> exact .quiet rfl
    · exact .quiet rfl
  | disconnect h => exact .disconnect h rfl rfl
  | forget h => exact .forget h rfl
  | grant =>
    simp only [Broker.step, Broker.grant]
    split <;> exact .quiet rfl
  | revoke =>
    simp only [Broker.step, Broker.revoke]
    split <;> exact .quiet rfl
  | unplug c => exact .quiet rfl
  | addCamera c => exact .quiet rfl
  | failNext c n => exact .quiet rfl
  | setLatency o c => exact .quiet rfl
  | publish d state => exact .quiet (b.bonds_onManual d _)
  | dropPublisher d => exact .quiet (b.bonds_onManual d _)
  | script delay onClose outcomes =>
    simp only [Broker.step, rescript]
    split <;> exact .quiet rfl
  | elapse ms => exact .quiet rfl

/-- Every step does one deed. -/
theorem Reachable.deed (hr : Reachable b) (a : Action) : Deed b a (b.step a) := by
  by_cases turn : a = .turn .loop
  · subst turn
    simp only [Broker.step]
    split
    · exact deed_resumeLoop hr.sound _
    · exact .quiet rfl
  · exact deed_step b turn

end Actions

end Broker

end CameraBroker
