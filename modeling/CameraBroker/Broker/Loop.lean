import CameraBroker.Broker.Session

/-! The request loop. Requests are serviced one rule at a time: closes of single sessions
first, then the last close-all with everything before it, then the oldest open. Whatever is
in the way of an open is closed, and closed completely, before its device is opened. -/
namespace CameraBroker.Broker

/-- The request leaves the pending list for good. -/
def serviced (r : Request) (b : Broker) : Broker := b.emit (.serviced r)

def setPending (pending : List Request) (b : Broker) : Broker :=
  b.onLoop fun l => { l with pending }

def setActive (active : List SessionId) (b : Broker) : Broker :=
  b.onLoop fun l => { l with active }

/-- The oldest pending request is done with. -/
def popHead (b : Broker) : Broker :=
  match b.loop.pending with
  | [] => b
  | r :: rest => (b.setPending rest).serviced r

/-- The loop ends and its inbox with it. -/
def stopLoop (b : Broker) : Broker :=
  ({ b with inbox := b.inbox.dropReader }.emit .loopStopped).setStage .stopped

def afterClose (after : AfterClose) (b : Broker) : Broker :=
  match after with
  | .read => b.setStage .reading
  | .stop => b.stopLoop

/-- Goes on once every session left is gone. -/
def awaitClosed (sessions left : List SessionId) (after : AfterClose) (b : Broker) : Broker :=
  match left.filter fun i => !b.isSessionGone i with
  | [] => b.afterClose after
  | left => b.setStage (.closing sessions left after)

/-- Starts to close the sessions, all at once, and waits for them. -/
def closeSessions (sessions : List SessionId) (after : AfterClose) (b : Broker) : Broker :=
  (sessions.foldl (fun b i => b.spawnClose i) b).awaitClosed sessions sessions after

/-- The open is given up and the next request's turn comes. -/
def giveUpOpen (h : HandleId) (reason : OpenFailure) (b : Broker) : Broker :=
  ((b.failHandle h reason).popHead).setStage .reading

/-- The opener has a device. Its session is active, and the open is looked at again. -/
def deviceReady (c : CameraId) (d : DeviceId) (b : Broker) : Broker :=
  let (i, b) := (b.emit (.deviceOpened c d)).startSession d
  (b.setActive (b.loop.active ++ [i])).setStage .reading

def openerGaveUp (h : HandleId) (c : CameraId) (b : Broker) : Broker :=
  (b.emit (.openGivenUp c)).giveUpOpen h .openFailed

/-- Attempt number `attempt` failed. -/
def attemptFailed (p : RetryPolicy) (h : HandleId) (c : CameraId) (attempt : Nat)
    (e : DeviceError) (b : Broker) : Broker :=
  match p.judge attempt e with
  | .again => (b.emit (.attemptFailed c attempt p.attempts e p.interval)).setStage
      (.opening h (.pausing attempt (b.now + p.interval)))
  | .giveUp => (b.emit (.gaveUp c attempt e)).openerGaveUp h c

def beginAttempt (p : RetryPolicy) (h : HandleId) (c : CameraId) (attempt : Nat) (b : Broker) :
    Broker :=
  match b.hw.beginOpen c with
  | (.error e, hw) => { b with hw }.attemptFailed p h c attempt e
  | (.ok (d, due), hw) => { b with hw }.setStage (.opening h (.acquiring attempt d due))

def endAttempt (p : RetryPolicy) (h : HandleId) (c : CameraId) (attempt : Nat) (d : DeviceId)
    (b : Broker) : Broker :=
  match b.hw.finishOpen c d with
  | (.error e, hw) => { b with hw }.attemptFailed p h c attempt e
  | (.ok (), hw) =>
    let b := { b with hw }
    (if 1 < attempt then b.emit (.openedOnAttempt c attempt p.attempts) else b).deviceReady c d

/-- The loop dies where it stands, and what it held is let go. -/
def crash (b : Broker) : Broker :=
  { b with inbox := b.inbox.dropReader, loop := { stage := .crashed } }

/-- A call of the scripted opener comes back. -/
def endScripted (h : HandleId) (c : CameraId) (onClose : OnClose) (outcome : ScriptedOpen)
    (b : Broker) : Broker :=
  match outcome with
  | .refused => b.openerGaveUp h c
  | .crash => b.crash
  | .device state =>
    let (d, hw) := b.hw.addManual c state onClose
    { b with hw }.deviceReady c d

/-- Asks for permission, and then the opener for a device. -/
def beginOpening (h : HandleId) (c : CameraId) (b : Broker) : Broker :=
  let b := b.emit (.permissionAsked c b.granted)
  if b.granted then
    let b := b.emit (.openerAsked c h)
    match b.opener with
    | .retrying p => b.beginAttempt p h c 1
    | .scripted delay _ _ =>
      (b.emit (.logAsked c)).setStage (.opening h (.scripted (b.now + delay)))
  else b.giveUpOpen h .permissionDenied

/-- The opener's call goes on. -/
def resumeOpening (h : HandleId) (call : OpenerCall) (b : Broker) : Broker :=
  match b.handles[h]? with
  | none => b
  | some x => match call, b.opener with
    | .acquiring attempt d _, .retrying p => b.endAttempt p h x.camera attempt d
    | .pausing attempt _, .retrying p => b.beginAttempt p h x.camera (attempt + 1)
    | .scripted _, .scripted delay onClose outcomes =>
      { b with opener := .scripted delay onClose outcomes.tail }.endScripted h x.camera onClose
        (outcomes.head?.getD (.device .open))
    | _, _ => b

/-- The first request for the close of a single session, with the others. -/
def firstClose? : List Request → Option (SessionId × List Request)
  | [] => none
  | .close i :: rest => some (i, rest)
  | r :: rest => (firstClose? rest).map fun x => (x.1, r :: x.2)

/-- Everything up to the last close-all, and what comes after it. -/
def lastCloseAll? : List Request → Option (List Request × List Request)
  | [] => none
  | r :: rest => match lastCloseAll? rest with
    | some (before, after) => some (r :: before, after)
    | none => if r = .closeAll then some ([r], rest) else none

/-- A request before a close-all is superseded by it. -/
def supersede (b : Broker) (r : Request) : Broker :=
  match r with
  | .open h _ => (b.failHandle h .superseded).serviced r
  | _ => b.serviced r

/-- The active session of a camera. -/
def activeFor? (c : CameraId) (b : Broker) : Option SessionId :=
  b.loop.active.find? fun i => (b.sessions[i]?).any fun s => s.camera = c

/-- The active sessions of other cameras, and those of this one. -/
def conflicting (c : CameraId) (b : Broker) : List SessionId × List SessionId :=
  b.loop.active.partition fun i => (b.sessions[i]?).any fun s => s.camera ≠ c

/-- An open whose camera has no conflicting session: attach, replace a dead session, or open
the device. -/
def place (h : HandleId) (c : CameraId) (b : Broker) : Broker :=
  match b.activeFor? c with
  | none => b.beginOpening h c
  | some i =>
    if (b.sessionStream? i).any fun s => s.state.isTearingDown then
      ((b.emit (.replacing c)).setActive (b.loop.active.filter (· ≠ i))).closeSessions [i] .read
    else ((b.connectTo i h).popHead).setStage .reading

/-- The oldest request is an open. -/
def serveOpen (h : HandleId) (share : Bool) (b : Broker) : Broker :=
  match b.handles[h]? with
  | none => b.popHead.setStage .reading
  | some x =>
    if x.state ≠ .unopened then ((b.emit (.stale h x.camera)).popHead).setStage .reading
    else if share then b.place h x.camera
    else match b.conflicting x.camera with
      | ([], _) => b.place h x.camera
      | (others, own) =>
        ((b.emit (.makingRoom others.length x.camera)).setActive own).closeSessions others .read

/-- One round of the rules over the pending requests. -/
def serve (b : Broker) : Broker :=
  match firstClose? b.loop.pending with
  | some (i, rest) =>
    (((b.setPending rest).serviced (.close i)).setActive (b.loop.active.filter (· ≠ i))).closeSessions
      [i] .read
  | none => match lastCloseAll? b.loop.pending with
    | some (before, after) =>
      let b := before.foldl supersede (b.setPending after)
      ((b.emit (.superseding b.loop.active.length)).setActive []).closeSessions
        b.loop.active .read
    | none => match b.loop.pending with
      | .open h share :: _ => b.serveOpen h share
      | _ => b

/-- Nothing is left to do: the sessions that remain are closed and the loop stops. -/
def finish (b : Broker) : Broker :=
  match b.loop.active with
  | [] => b.stopLoop
  | active => ((b.emit (.stopping active.length)).setActive []).closeSessions active .stop

/-- Takes in what the inbox holds and serves one round. An inbox that is over ends the loop
once nothing is pending. -/
def read (b : Broker) : Broker :=
  match b.loop.pending ++ b.inbox.buffer with
  | [] => if b.inbox.producers = 0 then b.finish else b
  | pending =>
    let b := { b with inbox := { b.inbox with buffer := [] } }
    ((b.setPending pending).emit (.pending pending.length)).serve

/-- One turn of the loop. -/
def resumeLoop (b : Broker) : Broker :=
  match b.loop.stage with
  | .fresh => (b.emit .loopStarted).setStage .reading
  | .reading => b.read
  | .opening h call => b.resumeOpening h call
  | .closing sessions left after => b.awaitClosed sessions left after
  | .stopped => b
  | .crashed => b

/-- The instant an opener's call waits for. -/
def OpenerCall.due : OpenerCall → Nat
  | .acquiring _ _ due => due
  | .pausing _ due => due
  | .scripted due => due

/-- The loop can go on. -/
def loopReady (b : Broker) : Bool :=
  match b.loop.stage with
  | .fresh => true
  | .reading => !b.loop.pending.isEmpty || !b.inbox.buffer.isEmpty || b.inbox.producers = 0
  | .opening _ call => OpenerCall.due call ≤ b.now
  | .closing _ left _ => left.any b.isSessionGone
  | .stopped => false
  | .crashed => false

end CameraBroker.Broker
