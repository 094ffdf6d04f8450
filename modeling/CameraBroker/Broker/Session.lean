import CameraBroker.Broker.Basic

/-! What sessions do: bind a handle, ask for their own close when idle or when the device is
lost, and close. -/
namespace CameraBroker.Broker

/-- A new session for an opened device, and its number. -/
def startSession (d : DeviceId) (b : Broker) : SessionId × Broker :=
  match b.hw.devices[d]? with
  | none => (b.sessions.length, b)
  | some x =>
    (b.sessions.length, { b with sessions := b.sessions ++ [Session.start x.camera d b.now] })

/-- Binds a handle to a session and disconnects the one it replaces. A handle that is
resolved already leaves the binding as it is. -/
def connectTo (i : SessionId) (h : HandleId) (b : Broker) : Broker :=
  match b.sessions[i]?, b.handles[h]? with
  | some s, some x =>
    let (token, b) := match s.timer.acquire? with
      | some t => (some i, b.onTimer i fun _ => t)
      | none => (none, b)
    match x.connect? s.device token with
    | none => (b.giveBack token).emit (.attachRefused h s.camera)
    | some x =>
      let b := ((b.setHandle h x).emit (.attached h s.camera i)).onSession i fun s =>
        { s with current := some h }
      match s.current with
      | none => b
      | some previous => b.disconnect previous
  | _, _ => b

/-- The notification of an idle timer asks the loop to close the session. Only a full inbox
refuses it; a session or loop that is gone needs no close. -/
def requestClose (i : SessionId) (b : Broker) : Bool × Broker :=
  match b.sessions[i]? with
  | none => (true, b)
  | some s =>
    if !b.holdsSession i || b.inbox.producers = 0 then (true, b)
    else match b.offer (.close i) with
      | .ok b => (true, b.emit (.idleCloseRequested s.camera i))
      | .error .full => (false, b.emit (.idleCloseRefused s.camera i))
      | .error .closed => (true, b)

/-- Notifies for a timer that was just released and acts on the answer. -/
def notify (i : SessionId) (b : Broker) : Broker :=
  let (delivered, b) := b.requestClose i
  b.onTimer i (·.answered b.now delivered)

/-- Retires a live timer and notifies. -/
def expire (i : SessionId) (b : Broker) : Bool × Broker :=
  match (b.sessions[i]?).bind fun s => s.timer.expire? with
  | none => (false, b)
  | some t => (true, (b.onTimer i fun _ => t).notify i)

/-- A countdown of the session's timer wakes. -/
def wakeCountdown (i : SessionId) (generation : Nat) (b : Broker) : Broker :=
  match b.sessions[i]? with
  | none => b
  | some s =>
    let t := s.timer.awaken generation
    match t.fire? generation with
    | none => b.onTimer i fun _ => t
    | some u => (b.onTimer i fun _ => u).notify i

/-- The listener takes its turn. Once the device is lost it retires the timer, and if nobody
closes the session on purpose it asks for the close. -/
def listen (i : SessionId) (b : Broker) : Broker :=
  match b.sessions[i]?, b.sessionStream? i with
  | some x, some s =>
    if s.isLost then
      let b := b.onSession i fun x => { x with listener := .done }
      if x.closing then b.onTimer i fun t => t.release.2
      else
        let (expired, b) := b.expire i
        if expired then b.emit (.sessionPruned i) else b
    else b.onSession i fun x => { x with listener := .watching (some s.version) }
  | _, _ => b

/-- The part of a close that does not wait. The answer says whether a release was started. -/
def beginClose (i : SessionId) (b : Broker) : Bool × Broker :=
  match b.sessions[i]? with
  | none => (false, b)
  | some s =>
    let b := if s.closing then b else b.emit (.sessionClosing s.camera i)
    let b := b.onSession i fun x =>
      { x with closing := true, timer := x.timer.release.2, current := none }
    let b := match s.current with
      | none => b
      | some h => b.disconnect h
    let (started, hw) := b.hw.closeDevice s.device
    (started, { b with hw })

/-- Starts a task that closes the session. -/
def spawnClose (i : SessionId) (b : Broker) : Broker :=
  { b with closes := b.closes ++ [{ session := i }] }

def resumeClose (k : Nat) (b : Broker) : Broker :=
  match b.closes[k]? with
  | none => b
  | some c =>
    let (stage, b) : CloseStage × Broker := match c.stage with
      | .fresh => match b.beginClose c.session with
        | (true, b) => (.awaiting, b)
        | (false, b) => (.done, b)
      | _ => (.done, b)
    { b with closes := b.closes.modify k fun c => { c with stage } }

/-- A close can go on: it is new, or the release it started has ended. -/
def closeReady (b : Broker) (c : SessionClose) : Bool :=
  match c.stage with
  | .fresh => true
  | .awaiting => (b.sessions[c.session]?).any fun s => b.hw.isReleased s.device
  | .done => false

end CameraBroker.Broker
