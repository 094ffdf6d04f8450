import CameraBroker.Broker.Client
import Mathlib.Data.List.Basic
import Mathlib.Logic.Relation

/-! What the theory of the request loop speaks of: the loop and its inbox, the cameras asked
for, the faces of the sessions, the tasks that close them, the devices, and the milestones of
the history. Clocks, timers, counters and the states of handles are left out. Each operation of
the broker acts on this view by itself. -/
namespace CameraBroker

structure Face where
  camera : CameraId
  device : DeviceId
deriving DecidableEq

structure Tie where
  current : Option HandleId := none
  closing : Bool := false
deriving DecidableEq

def Session.face (s : Session) : Face := ⟨s.camera, s.device⟩

def Session.tie (s : Session) : Tie := ⟨s.current, s.closing⟩

def Event.isMilestone : Event → Bool
  | .accepted _ => true
  | .serviced _ => true
  | .stale _ _ => true
  | .permissionAsked _ _ => true
  | .openerAsked _ _ => true
  | .deviceOpened _ _ => true
  | .openGivenUp _ => true
  | .attached _ _ _ => true
  | .logOpened _ => true
  | .logClosed _ => true
  | _ => false

namespace LoopStage

/-- The stage of a loop that waits for the sessions left, if there are any. -/
def afterWait (sessions left : List SessionId) (after : AfterClose) : LoopStage :=
  match left, after with
  | [], .read => .reading
  | [], .stop => .stopped
  | i :: left, after => .closing sessions (i :: left) after

/-- The sessions whose devices may not be gone yet. -/
def left : LoopStage → List SessionId
  | .closing _ left _ => left
  | _ => []

def opens? : LoopStage → Option HandleId
  | .opening h _ => some h
  | _ => none

def isEnding : LoopStage → Bool
  | .closing _ _ after => after = .stop
  | .stopped => true
  | .crashed => true
  | _ => false

section
variable (sessions left : List SessionId) (after : AfterClose)

@[simp] theorem left_afterWait : (afterWait sessions left after).left = left := by
  cases left <;> cases after <;> rfl

@[simp] theorem acquired?_afterWait : (afterWait sessions left after).acquired? = none := by
  cases left <;> cases after <;> rfl

@[simp] theorem opens?_afterWait : (afterWait sessions left after).opens? = none := by
  cases left <;> cases after <;> rfl

@[simp] theorem isEnding_afterWait :
    (afterWait sessions left after).isEnding = decide (after = .stop) := by
  cases left <;> cases after <;> rfl

theorem afterWait_ne_crashed : afterWait sessions left after ≠ .crashed := by
  cases left <;> cases after <;> exact nofun

variable {sessions left : List SessionId} {after : AfterClose}

theorem of_afterWait_eq_closing {ss ls : List SessionId} {a : AfterClose}
    (h : afterWait sessions left after = .closing ss ls a) : sessions = ss ∧ left = ls := by
  cases left with
  | nil => cases after <;> cases h
  | cons i left =>
    cases h
    exact ⟨rfl, rfl⟩

theorem of_afterWait_eq_stopped (h : afterWait sessions left after = .stopped) :
    left = [] ∧ after = .stop := by
  cases left with
  | nil =>
    cases after with
    | read => cases h
    | stop => exact ⟨rfl, rfl⟩
  | cons i left => cases h

end

end LoopStage

structure View where
  loop : RequestLoop := {}
  inbox : Inbox Request := {}
  /-- The camera of each handle. -/
  wanted : List CameraId := []
  /-- Both lists have one item for each session. -/
  faces : List Face := []
  ties : List Tie := []
  closes : List SessionClose := []
  devices : List Device := []
  /-- Latest first. -/
  milestones : List Event := []

namespace View

/-- Requests that are accepted and not done with, in the order of arrival. -/
def waiting (v : View) : List Request := v.loop.pending ++ v.inbox.buffer

def cameraOf (v : View) (i : SessionId) : Option CameraId := (v.faces[i]?).map (·.camera)

theorem cameraOf_of_faces {v w : View} (faces : w.faces = v.faces) (i : SessionId) :
    w.cameraOf i = v.cameraOf i := by
  rw [cameraOf, faces, cameraOf]

def note (e : Event) (v : View) : View := { v with milestones := e :: v.milestones }

def setLoop (loop : RequestLoop) (v : View) : View := { v with loop }

def setStage (stage : LoopStage) (v : View) : View := v.setLoop { v.loop with stage }

def setPending (pending : List Request) (v : View) : View := v.setLoop { v.loop with pending }

def setActive (active : List SessionId) (v : View) : View := v.setLoop { v.loop with active }

/-- The loop has emptied its inbox, and these requests are left. -/
def take (rest : List Request) (v : View) : View :=
  { v.setPending rest with inbox := { v.inbox with buffer := [] } }

def popHead (v : View) : View :=
  match v.loop.pending with
  | [] => v
  | r :: rest => (v.setPending rest).note (.serviced r)

def service (rs : List Request) (v : View) : View :=
  { v with milestones := (rs.map .serviced).reverse ++ v.milestones }

def ask (h : HandleId) (c : CameraId) (v : View) : View :=
  (v.note (.permissionAsked c true)).note (.openerAsked c h)

def startCloses (sessions : List SessionId) (v : View) : View :=
  { v with closes := v.closes ++ sessions.map fun i => { session := i } }

def stop (v : View) : View := { v with inbox := v.inbox.dropReader }.setStage .stopped

def crash (v : View) : View :=
  { v with inbox := v.inbox.dropReader, loop := { stage := .crashed } }

/-- The loop waits for the sessions left, and goes on when there is none. -/
def await (sessions left : List SessionId) (after : AfterClose) (v : View) : View :=
  { v with
    inbox := if left = [] ∧ after = AfterClose.stop then v.inbox.dropReader else v.inbox
  }.setStage (.afterWait sessions left after)

/-- The sessions are no longer active, and the loop closes them and waits for those left. -/
def retire (sessions active left : List SessionId) (after : AfterClose) (v : View) : View :=
  ((v.setActive active).startCloses sessions).await sessions left after

def bind (i : SessionId) (h : HandleId) (v : View) : View :=
  { v with ties := v.ties.modify i fun t => { t with current := some h } }

def setDevices (devices : List Device) (v : View) : View := { v with devices }

def join (asked camera : CameraId) (d : DeviceId) (v : View) : View :=
  { v.note (.deviceOpened asked d) with
    faces := v.faces ++ [⟨camera, d⟩]
    ties := v.ties ++ [{}]
    loop := { v.loop with active := v.loop.active ++ [v.faces.length], stage := .reading } }

theorem await_cons (sessions left : List SessionId) (i : SessionId) (after : AfterClose)
    (v : View) : v.await sessions (i :: left) after =
      v.setStage (.closing sessions (i :: left) after) := by
  simp [await, LoopStage.afterWait]

theorem await_read (sessions : List SessionId) (v : View) :
    v.await sessions [] .read = v.setStage .reading := by
  simp [await, LoopStage.afterWait]

theorem await_stop (sessions : List SessionId) (v : View) : v.await sessions [] .stop = v.stop := by
  simp [await, LoopStage.afterWait, stop]

theorem service_cons (r : Request) (rs : List Request) (v : View) :
    v.service (r :: rs) = (v.note (.serviced r)).service rs := by
  simp [service, note]

end View

namespace Hardware

def milestones (w : Hardware) : List Event := w.history.filter Event.isMilestone

end Hardware

namespace Broker

def view (b : Broker) : View where
  loop := b.loop
  inbox := b.inbox
  wanted := b.handles.map (·.camera)
  faces := b.sessions.map Session.face
  ties := b.sessions.map Session.tie
  closes := b.closes
  devices := b.hw.devices
  milestones := b.hw.milestones

/-- Requests that are accepted and not done with, in the order of arrival. -/
def waiting (b : Broker) : List Request := b.loop.pending ++ b.inbox.buffer

section Handles
variable (b : Broker)

@[simp] theorem view_waiting : b.view.waiting = b.waiting := rfl

theorem view_emit (e : Event) :
    (b.emit e).view = if e.isMilestone then b.view.note e else b.view := by
  cases h : e.isMilestone <;> simp [view, emit, Hardware.emit, Hardware.milestones, View.note, h]

theorem map_face_modify {f : Session → Session} (hf : ∀ s, (f s).face = s.face) (i : SessionId)
    (sessions : List Session) :
    (sessions.modify i f).map Session.face = sessions.map Session.face := by
  apply List.ext_getElem?
  intro j
  by_cases hij : i = j <;> simp [hij, hf, Function.comp_def]

theorem map_tie_modify {f : Session → Session} {g : Tie → Tie} (hf : ∀ s, (f s).tie = g s.tie)
    (i : SessionId) (sessions : List Session) :
    (sessions.modify i f).map Session.tie = (sessions.map Session.tie).modify i g := by
  apply List.ext_getElem?
  intro j
  by_cases hij : i = j <;> simp [hij, hf, Function.comp_def]

theorem view_onSession {f : Session → Session} {g : Tie → Tie} (hf : ∀ s, (f s).face = s.face)
    (hg : ∀ s, (f s).tie = g s.tie) (i : SessionId) :
    (b.onSession i f).view = { b.view with ties := b.view.ties.modify i g } := by
  simp [view, onSession, map_face_modify hf, map_tie_modify hg]

/-- A change of a session that neither the face nor the tie shows. -/
theorem view_onSession_id {f : Session → Session} (hf : ∀ s, (f s).face = s.face)
    (hg : ∀ s, (f s).tie = s.tie) (i : SessionId) : (b.onSession i f).view = b.view := by
  rw [b.view_onSession (g := id) hf hg, List.modify_id]

@[simp] theorem view_onTimer (i : TimerId) (f : IdleTimer → IdleTimer) :
    (b.onTimer i f).view = b.view :=
  b.view_onSession_id (f := fun s => { s with timer := f s.timer }) (fun _ => rfl) (fun _ => rfl) i

@[simp] theorem view_giveBack (token : Option TimerId) : (b.giveBack token).view = b.view := by
  cases token with
  | none => rfl
  | some i => exact b.view_onTimer i _

variable {b}

theorem view_setHandle {i : HandleId} {x y : Handle} (hx : b.handles[i]? = some x)
    (hy : y.camera = x.camera) : (b.setHandle i y).view = b.view := by
  have h : (b.handles.set i y).map (·.camera) = b.handles.map (·.camera) := by
    apply List.ext_getElem?
    intro j
    obtain ⟨hi, rfl⟩ := List.getElem?_eq_some_iff.1 hx
    by_cases hij : i = j
    · subst hij
      simp [hi, hy]
    · simp [List.getElem?_set_ne hij]
  simp [view, setHandle, h]

end Handles

end Broker

end CameraBroker
