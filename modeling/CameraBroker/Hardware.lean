import CameraBroker.Event
import CameraBroker.Stream

/-! Devices and the simulated cameras behind them, with the clock and the record of what
happened. Opening a simulated camera takes a while and so does releasing it; its counters
follow the entries of the device log. -/
namespace CameraBroker

/-- What a device driven by hand publishes when it is asked to close. -/
inductive OnClose where
  | closed
  | closing
  | ignore
deriving DecidableEq, Repr

/-- A simulated device closes in its own time, one driven by hand as it was told. -/
inductive Make where
  | simulated (closeLatency : Nat)
  | manual (onClose : OnClose)
deriving DecidableEq, Repr

/-- The release of a simulated device. It starts once and finishes whoever waits for it. -/
inductive Release where
  | none
  | starting
  | running (due : Nat)
  | done
deriving DecidableEq, Repr

/-- How far a task has come that closes a device. -/
inductive CloseStage where
  | fresh
  | awaiting
  | done
deriving DecidableEq, Repr

structure Device where
  camera : CameraId
  make : Make
  stream : Stream
  release : Release := .none
deriving DecidableEq

/-- A simulated camera: opens that will find it busy, and counts of its devices. -/
structure Camera where
  busyOpens : Nat := 0
  releases : Nat := 0
  openNow : Nat := 0
  peak : Nat := 0
deriving DecidableEq, Repr

structure Hardware where
  now : Nat := 0
  devices : List Device := []
  cameras : List (CameraId × Camera) := []
  attempts : List (CameraId × Nat) := []
  openLatency : Nat := 0
  closeLatency : Nat := 0
  /-- Latest first. -/
  history : List Event := []
deriving DecidableEq

namespace Hardware

def emit (e : Event) (w : Hardware) : Hardware := { w with history := e :: w.history }

def camera? (c : CameraId) (w : Hardware) : Option Camera := w.cameras.lookup c

def onCamera (c : CameraId) (f : Camera → Camera) (w : Hardware) : Hardware :=
  { w with cameras := w.cameras.map fun x => if x.1 = c then (x.1, f x.2) else x }

/-- Adding a camera that exists does nothing. -/
def addCamera (c : CameraId) (w : Hardware) : Hardware :=
  if (w.camera? c).isSome then w else { w with cameras := w.cameras ++ [(c, {})] }

/-- The next `count` opens of a known camera find it busy. -/
def failNext (c : CameraId) (count : Nat) (w : Hardware) : Hardware :=
  w.onCamera c fun x => { x with busyOpens := count }

/-- Simulated cameras under the names that are ids. Other names are passed over. -/
def simulated (names : List String) (openLatency closeLatency : Nat) : Hardware :=
  (names.filterMap CameraId.parse?).foldl (fun w c => w.addCamera c) { openLatency, closeLatency }

def setLatency (openLatency closeLatency : Nat) (w : Hardware) : Hardware :=
  { w with openLatency, closeLatency }

/-- How often an open of `c` was tried, whatever came of it. -/
def attemptsOf (c : CameraId) (w : Hardware) : Nat := (w.attempts.lookup c).getD 0

def countAttempt (c : CameraId) (w : Hardware) : Hardware :=
  if (w.attempts.lookup c).isSome then
    { w with attempts := w.attempts.map fun x => if x.1 = c then (x.1, x.2 + 1) else x }
  else { w with attempts := w.attempts ++ [(c, 1)] }

def recordOpen (c : CameraId) (w : Hardware) : Hardware :=
  (w.onCamera c fun x =>
    { x with openNow := x.openNow + 1, peak := max x.peak (x.openNow + 1) }).emit (.logOpened c)

def recordRelease (c : CameraId) (w : Hardware) : Hardware :=
  (w.onCamera c fun x =>
    { x with openNow := x.openNow - 1, releases := x.releases + 1 }).emit (.logClosed c)

def onDevice (d : DeviceId) (f : Device → Device) (w : Hardware) : Hardware :=
  { w with devices := w.devices.modify d f }

def onStream (d : DeviceId) (f : Stream → Stream) (w : Hardware) : Hardware :=
  w.onDevice d fun x => { x with stream := f x.stream }

/-- The forward move of a device, if `state` is one. -/
def advance? (d : DeviceId) (state : DeviceState) (w : Hardware) : Option (Device × Hardware) :=
  match w.devices[d]? with
  | none => none
  | some x => (x.stream.advance? state).map fun s => (x, w.onStream d fun _ => s)

/-- The first half of an open. It fails at once, or a device begins to open and will be
ready at the instant given. -/
def beginOpen (c : CameraId) (w : Hardware) : Except DeviceError (DeviceId × Nat) × Hardware :=
  let w := w.countAttempt c
  match w.camera? c with
  | none => (.error (.notFound c), w)
  | some x =>
    if 0 < x.busyOpens then
      (.error (.busy c), w.onCamera c fun x => { x with busyOpens := x.busyOpens - 1 })
    else
      (.ok (w.devices.length, w.now + w.openLatency),
        { w with devices := w.devices ++
            [{ camera := c, make := .simulated w.closeLatency, stream := ⟨.opening, 0, true⟩ }] })

/-- The second half of an open. A device that went away meanwhile cannot be had. -/
def finishOpen (c : CameraId) (d : DeviceId) (w : Hardware) : Except DeviceError Unit × Hardware :=
  match w.advance? d .open with
  | some (_, w) => (.ok (), (w.recordOpen c).emit (.simulatedOpen c))
  | none => (.error (.disconnected c "device went away while opening"), w)

/-- A device driven by hand, in the state it is handed over in. -/
def addManual (c : CameraId) (state : DeviceState) (onClose : OnClose) (w : Hardware) :
    DeviceId × Hardware :=
  (w.devices.length,
    { w with devices := w.devices ++ [{ camera := c, make := .manual onClose, stream := { state } }] })

/-- Asks a device to close. The answer says whether this call started a release. -/
def closeDevice (d : DeviceId) (w : Hardware) : Bool × Hardware :=
  match w.devices[d]? with
  | none => (false, w)
  | some x => match x.make with
    | .simulated _ => match w.advance? d .closing with
      | none => (false, w)
      | some (_, w) => (true, w.onDevice d fun x => { x with release := .starting })
    | .manual onClose =>
      let w := w.emit (.logCloseCall d)
      if x.stream.live then
        match onClose with
        | .closed => (false, w.onStream d (·.publish .closed))
        | .closing => (false, w.onStream d (·.publish .closing))
        | .ignore => (false, w)
      else (false, w)

/-- A release ends. The device is closed unless it was unplugged before. -/
def finishRelease (d : DeviceId) (w : Hardware) : Hardware :=
  let after := match w.advance? d .closed with
    | some (x, w) => (w.recordRelease x.camera).emit (.simulatedReleased x.camera)
    | none => w
  after.onDevice d fun x => { x with release := .done }

/-- The task of a release takes its turn. Without a latency it ends at once. -/
def resumeRelease (d : DeviceId) (w : Hardware) : Hardware :=
  match w.devices[d]? with
  | some { make := .simulated (latency + 1), release := .starting, .. } =>
    w.onDevice d fun x => { x with release := .running (w.now + latency + 1) }
  | _ => w.finishRelease d

/-- One device is yanked away, if it has not begun to close. -/
def yank (c : CameraId) (w : Hardware) (d : DeviceId) : Bool × Hardware :=
  match w.devices[d]? with
  | none => (false, w)
  | some x =>
    if x.stream.state.canAdvanceTo .closing then
      let after := (w.onStream d (·.publish .closed)).emit (.unplugged c)
      (true, if x.stream.state = .open then after.recordRelease c else after)
    else (false, w)

/-- The simulated devices of a camera that somebody still holds. -/
def devicesOf (c : CameraId) (held : DeviceId → Bool) (w : Hardware) : List DeviceId :=
  (List.range w.devices.length).filter fun d =>
    match w.devices[d]? with
    | none => false
    | some x => match x.make with
      | .manual _ => false
      | .simulated _ => x.camera = c && held d

/-- Yanks every device of a known camera away. The answer says whether there was one. -/
def unplug (c : CameraId) (held : DeviceId → Bool) (w : Hardware) : Bool × Hardware :=
  match w.camera? c with
  | none => (false, w)
  | some _ => (w.devicesOf c held).foldl (fun (any, w) d =>
      let (yanked, w) := w.yank c d
      (any || yanked, w)) (false, w)

/-- Devices whose release can go on. -/
def readyReleases (w : Hardware) : List DeviceId :=
  (List.range w.devices.length).filter fun d =>
    match w.devices[d]? with
    | some { release := .starting, .. } => true
    | some { release := .running due, .. } => due ≤ w.now
    | _ => false

/-- The release of this device has begun and not ended. -/
def isReleasing (d : DeviceId) (w : Hardware) : Bool :=
  match w.devices[d]? with
  | some { release := .starting, .. } => true
  | some { release := .running _, .. } => true
  | _ => false

/-- The release of this device has finished. -/
def isReleased (d : DeviceId) (w : Hardware) : Bool :=
  (w.devices[d]?).any fun x => x.release = .done

/-- The devices whose release runs, and when it ends. -/
def sleepingReleases (w : Hardware) : List (DeviceId × Nat) :=
  (List.range w.devices.length).filterMap fun d =>
    (w.devices[d]?).bind fun x => match x.release with
      | .running due => some (d, due)
      | _ => none

end Hardware

end CameraBroker
