import CameraBroker.Proofs.Fading
import CameraBroker.Proofs.DeviceMoves

/-! What one turn of the request loop can come to. The rules say it on the view, each with the
conditions under which it is taken. -/
namespace CameraBroker

/-- The device is closed, or its publisher is gone for good. -/
def Device.IsGone (x : Device) : Prop :=
  x.stream.state = .closed ∨ x.isManual = true ∧ x.stream.live = false

namespace View

def IsDown (v : View) (i : SessionId) : Prop :=
  ∀ (f : Face) (x : Device), v.faces[i]? = some f → v.devices[f.device]? = some x → x.IsGone

structure Leaves (v : View) (sessions left : List SessionId) : Prop where
  sub : left ⊆ sessions
  down : ∀ i ∈ sessions, i ∉ left → v.IsDown i

/-- The device that the loop is about to get, if there is one, cannot be had any more. -/
def AcquiredIsLost (v : View) : Prop :=
  ∀ (d : DeviceId) (x : Device), v.loop.stage.acquired? = some d → v.devices[d]? = some x →
    x.stream.state.canAdvanceTo .open = false

theorem acquiredIsLost_of_none {v : View} (none : v.loop.stage.acquired? = none) :
    v.AcquiredIsLost := by
  intro d x hd
  cases none.symm.trans hd

def IsClosing (v : View) (i : SessionId) : Prop :=
  ∃ (f : Face) (x : Device), v.faces[i]? = some f ∧ v.devices[f.device]? = some x ∧
    x.stream.state.isTearingDown = true

/-- A session binds the handle, and is active or about to let it go. -/
def Binds (v : View) (h : HandleId) : Prop :=
  ∃ (i : SessionId) (t : Tie), v.ties[i]? = some t ∧ t.current = some h ∧
    (i ∈ v.loop.active ∨ { session := i } ∈ v.closes)

end View

namespace Broker

/-- How the opener's call for a handle goes on. -/
inductive Opens (b' : Broker) (h : HandleId) (c : CameraId) (v : View) : View → Prop where
  | giveUp (lost : v.AcquiredIsLost) (resolved : b'.Resolves h) :
      Opens b' h c v ((v.note (.openGivenUp c)).popHead.setStage .reading)
  | pause (lost : v.AcquiredIsLost) (attempt due : Nat) :
      Opens b' h c v (v.setStage (.opening h (.pausing attempt due)))
  | «begin» (lost : v.AcquiredIsLost) {x : Device} (camera : x.camera = c)
      (simulated : x.isManual = false) (state : x.stream.state = .opening)
      (release : x.release = .none) (attempt due : Nat) :
      Opens b' h c v ((v.setDevices (v.devices ++ [x])).setStage
        (.opening h (.acquiring attempt v.devices.length due)))
  | call (lost : v.AcquiredIsLost) (due : Nat) :
      Opens b' h c v (v.setStage (.opening h (.scripted due)))
  | simulated {attempt due : Nat} {d : DeviceId} {x : Device}
      (stage : v.loop.stage = .opening h (.acquiring attempt d due))
      (hx : v.devices[d]? = some x) (up : x.stream.state.canAdvanceTo .open = true) :
      Opens b' h c v
        (((v.setDevices (v.devices.set d x.opened)).note (.logOpened c)).join c x.camera d)
  | manual {due : Nat} (stage : v.loop.stage = .opening h (.scripted due)) {x : Device}
      (camera : x.camera = c) (manual : x.isManual = true) (release : x.release = .none) :
      Opens b' h c v ((v.setDevices (v.devices ++ [x])).join c c v.devices.length)
  | crash {due : Nat} (stage : v.loop.stage = .opening h (.scripted due)) : Opens b' h c v v.crash

inductive Serves (b b' : Broker) (h : HandleId) (share : Bool) (c : CameraId)
    (rest : List Request) : View → Prop where
  | stale (answered : b.Resolves h) :
      Serves b b' h share c rest ((((b.view.take rest).note (.stale h c)).note
        (.serviced (.open h share))).setStage .reading)
  | makeRoom (waits : b.Waits h) (exclusive : share = false) {others own left : List SessionId}
      (conflict : b.conflicting c = (others, own)) (some : others ≠ [])
      (leaves : b.view.Leaves others left) :
      Serves b b' h share c rest
        ((b.view.take (.open h share :: rest)).retire others own left .read)
  | replace (waits : b.Waits h) {i : SessionId} {left : List SessionId}
      (active : b.activeFor? c = some i) (leaves : b.view.Leaves [i] left)
      (dead : b.view.IsClosing i) :
      Serves b b' h share c rest ((b.view.take (.open h share :: rest)).retire [i]
        (b.loop.active.filter (· ≠ i)) left .read)
  | attach (waits : b.Waits h) {i : SessionId} {t : Tie} (active : b.activeFor? c = some i)
      (ht : b.view.ties[i]? = some t) (resolved : b'.Resolves h)
      (kept : ∀ g, t.current = some g → ¬b'.Connected g) :
      Serves b b' h share c rest (((((b.view.take rest).note (.attached h c i)).bind i h).note
        (.serviced (.open h share))).setStage .reading)
  | deny (waits : b.Waits h) (resolved : b'.Resolves h) :
      Serves b b' h share c rest ((((b.view.take rest).note (.permissionAsked c false)).note
        (.serviced (.open h share))).setStage .reading)
  | ask (waits : b.Waits h) (alone : share = false → (b.conflicting c).1 = [])
      (none : b.activeFor? c = none) {w : View}
      (opens : Opens b' h c ((b.view.take (.open h share :: rest)).ask h c) w) :
      Serves b b' h share c rest w

/-- The rule that a turn of the loop follows. -/
inductive Rule (b b' : Broker) : View → Prop where
  | idle : Rule b b' b.view
  | start (stage : b.loop.stage = .fresh) : Rule b b' (b.view.setStage .reading)
  | finish (stage : b.loop.stage = .reading) (done : b.waiting = [])
      (noClient : b.inbox.producers = 0) {left : List SessionId}
      (leaves : b.view.Leaves b.loop.active left) :
      Rule b b' (b.view.retire b.loop.active [] left .stop)
  | close (stage : b.loop.stage = .reading) {i : SessionId} {rest : List Request}
      (first : firstClose? b.waiting = some (i, rest)) {left : List SessionId}
      (leaves : b.view.Leaves [i] left) :
      Rule b b' (((b.view.take rest).note (.serviced (.close i))).retire [i]
        (b.loop.active.filter (· ≠ i)) left .read)
  | closeAll (stage : b.loop.stage = .reading) (noClose : firstClose? b.waiting = none)
      {before after : List Request} (last : lastCloseAll? b.waiting = some (before, after))
      (resolved : ∀ h share, .open h share ∈ before → b'.Resolves h) {left : List SessionId}
      (leaves : b.view.Leaves b.loop.active left) :
      Rule b b' (((b.view.take after).service before).retire b.loop.active [] left .read)
  | serve (stage : b.loop.stage = .reading) {h : HandleId} {share : Bool} {rest : List Request}
      (head : b.waiting = .open h share :: rest) {c : CameraId}
      (camera : b.view.wanted[h]? = some c) {w : View}
      (serves : Serves b b' h share c rest w) (noClose : firstClose? b.waiting = none)
      (noCloseAll : lastCloseAll? b.waiting = none) : Rule b b' w
  | opener {h : HandleId} {call : OpenerCall} (stage : b.loop.stage = .opening h call)
      {c : CameraId} (camera : b.view.wanted[h]? = some c) {w : View}
      (opens : Opens b' h c b.view w) : Rule b b' w
  | await {sessions left left' : List SessionId} {after : AfterClose}
      (stage : b.loop.stage = .closing sessions left after) (sub : left' ⊆ left)
      (down : ∀ i ∈ left, i ∈ sessions → i ∉ left' → b.view.IsDown i) :
      Rule b b' (b.view.await sessions left' after)

/-- A loop that is over does nothing. -/
theorem Rule.eq_of_halted {b b' : Broker} {w : View} (rule : Rule b b' w)
    (halted : b.loop.stage = .stopped ∨ b.loop.stage = .crashed) : w = b.view := by
  have other : ∀ s : LoopStage, s ≠ .stopped → s ≠ .crashed → b.loop.stage ≠ s := by
    intro s stopped crashed same
    exact halted.elim (stopped <| same.symm.trans ·) (crashed <| same.symm.trans ·)
  cases rule with
  | idle => rfl
  | start stage => exact absurd stage (other _ nofun nofun)
  | finish stage done producers leaves => exact absurd stage (other _ nofun nofun)
  | close stage first leaves => exact absurd stage (other _ nofun nofun)
  | closeAll stage noClose last resolved leaves => exact absurd stage (other _ nofun nofun)
  | serve stage head camera serves => exact absurd stage (other _ nofun nofun)
  | opener stage camera opens => exact absurd stage (other _ nofun nofun)
  | await stage sub down => exact absurd stage (other _ nofun nofun)

structure Follows (b b' : Broker) : Prop where
  forward : ∀ (h : HandleId) (x : Handle), b.handles[h]? = some x →
    ∃ y, b'.handles[h]? = some y ∧ x.state.rank ≤ y.state.rank
  connected : ∀ h, b'.Connected h → b.Connected h ∨ b'.view.Binds h

theorem Fades.follows {b b' : Broker} (h : b.Fades b') : b.Follows b' := by
  refine ⟨fun g x hx => ?_, fun g hg => ?_⟩
  · obtain ⟨y, hy, xy⟩ := h.2 g x hx
    exact ⟨y, hy, xy.forward⟩
  · obtain ⟨y, hy, hs⟩ := hg
    obtain ⟨x, hx, xy⟩ := h.before hy
    exact .inl ⟨x, hx, xy.connected hs⟩

structure Turn (b b' : Broker) : Prop where
  rule : Rule b b' b'.view
  follows : b.Follows b'

theorem Turn.of_handles_eq {b b' : Broker} (rule : Rule b b' b'.view)
    (handles : b'.handles = b.handles) : b.Turn b' :=
  ⟨rule, (Fades.of_eq handles).follows⟩

end Broker

end CameraBroker
