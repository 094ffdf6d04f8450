import CameraBroker.Hardware
import CameraBroker.Schedule

/-! Simulated cameras on their own: a client starts opens and closes, gives some of them up,
and forgets devices. -/
namespace CameraBroker

/-- How far an open has come. -/
inductive OpenStage where
  | fresh
  | opening (device : DeviceId) (due : Nat)
  | «open» (device : DeviceId)
  | failed (error : DeviceError)
  | over
deriving DecidableEq

structure OpenCall where
  camera : CameraId
  stage : OpenStage := .fresh
  /-- The client gave the open up before it was done. -/
  aborted : Bool := false
deriving DecidableEq

structure CloseCall where
  device : DeviceId
  stage : CloseStage := .fresh
  aborted : Bool := false
deriving DecidableEq, Repr

structure HardwareBench where
  hw : Hardware
  opens : List OpenCall := []
  closes : List CloseCall := []
deriving DecidableEq

namespace HardwareBench

inductive Task where
  | «open» (call : Nat)
  | close (call : Nat)
  | release (device : DeviceId)
deriving DecidableEq, Repr

def OpenCall.device? (c : OpenCall) : Option DeviceId :=
  match c.stage with
  | .opening d _ => some d
  | .open d => some d
  | _ => none

/-- Somebody holds the device: an open, a close or its release. -/
def holds (b : HardwareBench) (d : DeviceId) : Bool :=
  b.opens.any (fun c => OpenCall.device? c = some d) ||
  b.closes.any (fun c => c.device = d && c.stage ≠ .done) || b.hw.isReleasing d

def startOpen (c : CameraId) (b : HardwareBench) : HardwareBench :=
  { b with opens := b.opens ++ [{ camera := c }] }

def setStage (n : Nat) (stage : OpenStage) (b : HardwareBench) : HardwareBench :=
  { b with opens := b.opens.modify n fun c => { c with stage } }

/-- An open that is still under way. -/
def isPending (c : OpenCall) : Bool :=
  match c.stage with
  | .fresh => !c.aborted
  | .opening _ _ => !c.aborted
  | _ => false

/-- Gives up an open under way. Its device is let go at its next turn. -/
def abortOpen (n : Nat) (b : HardwareBench) : HardwareBench :=
  { b with opens := b.opens.modify n fun c => if isPending c then { c with aborted := true } else c }

/-- The client forgets an opened device. -/
def forget (n : Nat) (b : HardwareBench) : HardwareBench := b.setStage n .over

def startClose (d : DeviceId) (b : HardwareBench) : HardwareBench :=
  { b with closes := b.closes ++ [{ device := d }] }

def abortClose (n : Nat) (b : HardwareBench) : HardwareBench :=
  { b with closes := b.closes.modify n fun c => { c with aborted := true } }

def unplug (c : CameraId) (b : HardwareBench) : Bool × HardwareBench :=
  let r := b.hw.unplug c b.holds
  (r.1, { b with hw := r.2 })

def onHardware (f : Hardware → Hardware) (b : HardwareBench) : HardwareBench :=
  { b with hw := f b.hw }

def endOpen (n : Nat) (c : CameraId) (d : DeviceId) (b : HardwareBench) : HardwareBench :=
  match b.hw.finishOpen c d with
  | (.ok (), hw) => { b with hw }.setStage n (.open d)
  | (.error e, hw) => { b with hw }.setStage n (.failed e)

def resumeOpen (n : Nat) (b : HardwareBench) : HardwareBench :=
  match b.opens[n]? with
  | none => b
  | some c =>
    if c.aborted then b.setStage n .over
    else match c.stage with
      | .fresh => match b.hw.beginOpen c.camera with
        | (.error e, hw) => { b with hw }.setStage n (.failed e)
        | (.ok (d, due), hw) => { b with hw }.setStage n (.opening d due)
      | .opening d _ => b.endOpen n c.camera d
      | _ => b

def resumeClose (n : Nat) (b : HardwareBench) : HardwareBench :=
  match b.closes[n]? with
  | none => b
  | some c =>
    let (stage, hw) : CloseStage × Hardware :=
      if c.aborted then (.done, b.hw)
      else match c.stage with
        | .fresh => match b.hw.closeDevice c.device with
          | (true, hw) => (.awaiting, hw)
          | (false, hw) => (.done, hw)
        | _ => (.done, b.hw)
    { b with hw, closes := b.closes.modify n fun c => { c with stage } }

def openReady (b : HardwareBench) (c : OpenCall) : Bool :=
  match c.stage with
  | .fresh => true
  | .opening _ due => c.aborted || due ≤ b.hw.now
  | _ => false

def closeReady (b : HardwareBench) (c : CloseCall) : Bool :=
  match c.stage with
  | .fresh => true
  | .awaiting => c.aborted || b.hw.isReleased c.device
  | .done => false

instance : Machine HardwareBench Task where
  ready b :=
    b.hw.readyReleases.map .release ++
    ((List.range b.opens.length).filter fun n => (b.opens[n]?).any b.openReady).map .open ++
    ((List.range b.closes.length).filter fun n => (b.closes[n]?).any b.closeReady).map .close
  resume
    | .open n, b => b.resumeOpen n
    | .close n, b => b.resumeClose n
    | .release d, b => b.onHardware (·.resumeRelease d)
  now b := b.hw.now
  setNow n b := b.onHardware fun hw => { hw with now := n }
  sleepers b := b.hw.sleepingReleases.map (fun x => (.release x.1, x.2)) ++
    (List.range b.opens.length).filterMap fun n =>
      (b.opens[n]?).bind fun c => match c.stage with
        | .opening _ due => some (.open n, due)
        | _ => none

end HardwareBench

end CameraBroker
