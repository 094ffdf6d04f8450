import CameraBroker.Broker.Loop
import CameraBroker.Schedule

/-! What happens to the broker from outside, and its tasks. A client opens and closes
cameras and lets go of handles; the environment grants permission, unplugs cameras and
publishes device states. -/
namespace CameraBroker.Broker

/-- A new handle that asks for a camera. -/
def createHandle (c : CameraId) (b : Broker) : Broker :=
  { b with handles := b.handles ++ [{ camera := c }] }

/-- Asks for a camera. A loop that has stopped fails the handle at once, and an inbox without
room is an error of the caller, who gets no handle. -/
def requestOpen (c : CameraId) (share : Bool) (b : Broker) : Except Refusal Broker :=
  let h := b.handles.length
  match (b.createHandle c).offer (.open h share) with
  | .ok b => .ok b
  | .error .full => .error .full
  | .error .closed =>
    .ok (((b.createHandle c).emit .requestDropped).failHandle h .brokerStopped)

/-- Asks for every session to be closed and every earlier open to be given up. -/
def requestCloseAll (b : Broker) : Except Refusal Broker :=
  match b.offer .closeAll with
  | .ok b => .ok b
  | .error .full => .error .full
  | .error .closed => .ok (b.emit .requestDropped)

/-- A request that may be refused without harm. -/
def offerOrLeave (r : Request) (b : Broker) : Broker :=
  match b.offer r with
  | .ok b => b
  | .error _ => b

/-- The client's end of the inbox goes away. -/
def leave (b : Broker) : Broker := { b with inbox := b.inbox.dropProducer }

/-- A close-all, if there is room for it, and then the inbox ends. -/
def beginShutdown (b : Broker) : Broker := (b.offerOrLeave .closeAll).leave

/-- The loop has come to its end, one way or the other. -/
def isLoopOver (b : Broker) : Bool := b.loop.stage = .stopped || b.loop.stage = .crashed

/-- The wait for the loop is over, and an abnormal end is reported. -/
def endShutdown (b : Broker) : Broker :=
  if b.loop.stage = .crashed then b.emit (.loopCrashed "task panicked") else b

/-- The client lets go of a handle once. -/
def forget (i : HandleId) (b : Broker) : Broker :=
  { b with handles := b.handles.modify i fun h => { h with clients := h.clients - 1 } }

def grant (b : Broker) : Broker :=
  if b.granted then b else { b with granted := true }.emit .permissionGranted

def revoke (b : Broker) : Broker :=
  if b.granted then { b with granted := false }.emit .permissionRevoked else b

def unplug (c : CameraId) (b : Broker) : Bool × Broker :=
  let r := b.hw.unplug c b.holdsDevice
  (r.1, { b with hw := r.2 })

/-- A client holds the session from outside the loop. -/
def keep (i : SessionId) (b : Broker) : Broker := { b with kept := i :: b.kept }

/-- The client outside lets go of the session. -/
def unkeep (i : SessionId) (b : Broker) : Broker :=
  { b with kept := b.kept.filter (· ≠ i) }

/-- Takes the oldest request out of an inbox that no loop reads. -/
def receive (b : Broker) : Receipt Request × Broker :=
  let r := b.inbox.receive
  (r.1, { b with inbox := r.2 })

def dropReader (b : Broker) : Broker := { b with inbox := b.inbox.dropReader }

/-- Offers `n` close-alls, and says how many were taken. -/
def fill : Nat → Broker → Nat × Broker
  | 0, b => (0, b)
  | n + 1, b => match b.offer .closeAll with
    | .error _ => fill n b
    | .ok b => ((fill n b).1 + 1, (fill n b).2)

def inspectRequest (n : Names) (b : Broker) (r : Request) : String :=
  r.inspect n (fun h => (b.handles[h]?).map (·.camera)) fun s => (b.sessions[s]?).map (·.camera)

/-- A broker without a loop, whose only session holds this device and is held by the client. -/
def withSession (device : DeviceId × Hardware) : Broker :=
  (({ hw := device.2, loop := { stage := .stopped } : Broker }.startSession device.1).2).keep 0

/-- The session of a simulated camera that was opened at once. -/
def simulatedSession (c : CameraId) (closeLatency : Nat) : Broker :=
  match (Hardware.addCamera c { closeLatency }).beginOpen c with
  | (.ok (d, _), hw) => withSession (d, (hw.finishOpen c d).2)
  | (.error _, hw) => withSession (0, hw)

/-- The session of a device driven by hand. -/
def manualSession (c : CameraId) (state : DeviceState) (onClose : OnClose) : Broker :=
  withSession (Hardware.addManual c state onClose {})

/-- The tasks of the broker. It is an assumption of the model that a turn, from one point where a
task waits to the next, is one step: tasks on several threads interleave at these points only. So a
countdown that fires notifies in the same turn, and nobody sees the timer between the two. -/
inductive Task where
  | release (device : DeviceId)
  | observe (handle : HandleId)
  | listen (session : SessionId)
  | close (call : Nat)
  | countdown (session : SessionId) (generation : Nat)
  | loop
deriving DecidableEq, Repr

def readyObservers (b : Broker) : List HandleId :=
  (List.range b.handles.length).filter fun i =>
    (b.handles[i]?).any fun h => (h.binding.bind fun x => b.stream? x.device).any h.canObserve

def readyListeners (b : Broker) : List SessionId :=
  (List.range b.sessions.length).filter fun i =>
    b.holdsSession i && (b.sessions[i]?).any fun x => (b.sessionStream? i).any x.canListen

def readyCloses (b : Broker) : List Nat :=
  (List.range b.closes.length).filter fun k => (b.closes[k]?).any b.closeReady

def readyCountdowns (b : Broker) : List (SessionId × Nat) :=
  (List.range b.sessions.length).flatMap fun i =>
    ((b.sessions[i]?).map fun x => (x.timer.due b.now).map fun g => (i, g)).getD []

/-- The tasks that can go on. Handles follow their device before anybody else reacts. -/
def readyTasks (b : Broker) : List Task :=
  b.hw.readyReleases.map .release ++ b.readyObservers.map .observe ++
  b.readyListeners.map .listen ++ b.readyCloses.map .close ++
  b.readyCountdowns.map (fun x => .countdown x.1 x.2) ++ if b.loopReady then [.loop] else []

def resumeTask (t : Task) (b : Broker) : Broker :=
  match t with
  | .release d => b.onHardware (·.resumeRelease d)
  | .observe i => b.observe i
  | .listen i => b.listen i
  | .close k => b.resumeClose k
  | .countdown i g => b.wakeCountdown i g
  | .loop => b.resumeLoop

/-- The tasks that sleep, and when they wake. -/
def sleepers (b : Broker) : List (Task × Nat) :=
  b.hw.sleepingReleases.map (fun x => (.release x.1, x.2)) ++
  (List.range b.sessions.length).flatMap (fun i =>
    ((b.sessions[i]?).map fun x => x.timer.sleepers.map fun y => (.countdown i y.1, y.2)).getD []) ++
  match b.loop.stage with
  | .opening _ call => [(.loop, OpenerCall.due call)]
  | _ => []

instance : Machine Broker Task where
  ready := readyTasks
  resume := resumeTask
  now := now
  setNow n b := b.onHardware fun hw => { hw with now := n }
  sleepers := sleepers

end CameraBroker.Broker
