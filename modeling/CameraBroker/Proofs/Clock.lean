import CameraBroker.Proofs.Shown

/-! The clock, the clients and the opener. No task moves the clock, brings or takes away a client, or
changes how devices are opened. -/
namespace CameraBroker

def Opener.policy? : Opener → Option RetryPolicy
  | .retrying p => some p
  | .scripted _ _ _ => none

theorem Opener.policy?_eq_some {opener : Opener} {p : RetryPolicy} :
    opener.policy? = some p ↔ opener = .retrying p := by
  cases opener <;> simp [policy?]

namespace Broker

def setting (b : Broker) : Nat × Nat × Option RetryPolicy :=
  (b.now, b.inbox.producers, b.opener.policy?)

/-- A call of a script is under way only if the opener follows one. -/
def CallFits (b : Broker) : Prop :=
  ∀ h due, b.loop.stage = .opening h (.scripted due) → b.opener.policy? = none

structure Retains (b o : Broker) : Prop where
  setting : o.setting = b.setting
  fits : b.CallFits → o.CallFits

namespace Retains
variable {b o : Broker}

theorem refl (b : Broker) : b.Retains b := ⟨rfl, id⟩

theorem policy (retains : b.Retains o) : o.opener.policy? = b.opener.policy? :=
  congrArg (·.2.2) retains.setting

theorem of_eq {c : Broker} (retains : b.Retains o) (setting : c.setting = o.setting)
    (stage : c.loop.stage = o.loop.stage) : b.Retains c := by
  refine ⟨setting.trans retains.setting, fun fits h due call => ?_⟩
  exact (congrArg (·.2.2) setting).trans (retains.fits fits h due (stage.symm.trans call))

theorem of_onward {o' : Broker} (on : b.Onward o o') : b.Retains o :=
  (refl b).of_eq (congrArg (·.setting) on.backdrop :) (congrArg (·.loop.stage) on.backdrop :)

theorem emit (retains : b.Retains o) (e : Event) : b.Retains (o.emit e) := retains.of_eq rfl rfl

theorem setStage (retains : b.Retains o) {stage : LoopStage}
    (other : ∀ h due, stage ≠ .opening h (.scripted due)) : b.Retains (o.setStage stage) :=
  ⟨retains.setting, fun _ h due call => absurd call (other h due)⟩

theorem onHardware (retains : b.Retains o) {w : Hardware} (same : w.now = o.now) :
    b.Retains { o with hw := w } :=
  retains.of_eq (congrArg (·, o.inbox.producers, o.opener.policy?) same) rfl

/-! The opener. -/

theorem popHead (retains : b.Retains o) : b.Retains o.popHead := by
  unfold Broker.popHead
  split
  · exact retains
  · exact retains.of_eq rfl rfl

theorem failHandle (retains : b.Retains o) (h : HandleId) (reason : OpenFailure) :
    b.Retains (o.failHandle h reason) :=
  have fails := of_onward ((Onward.refl o).failHandle h reason)
  ⟨fails.setting.trans retains.setting, fun fits => fails.fits (retains.fits fits)⟩

theorem giveUpOpen (retains : b.Retains o) (h : HandleId) (reason : OpenFailure) :
    b.Retains (o.giveUpOpen h reason) := (retains.failHandle h reason).popHead.setStage nofun

theorem attemptFailed (retains : b.Retains o) (p : RetryPolicy) (h : HandleId) (c : CameraId)
    (attempt : Nat) (e : DeviceError) : b.Retains (o.attemptFailed p h c attempt e) := by
  unfold Broker.attemptFailed
  split
  · exact (retains.emit _).setStage nofun
  · exact ((retains.emit _).emit _).giveUpOpen h .openFailed

theorem beginAttempt (retains : b.Retains o) (p : RetryPolicy) (h : HandleId) (c : CameraId)
    (attempt : Nat) : b.Retains (o.beginAttempt p h c attempt) := by
  obtain ⟨attempts, -, ⟨e, cameras, failed⟩ | ⟨x, -, -, -, -, begun⟩⟩ :=
    o.beginAttempt_cases p h c attempt
  · have tried : b.Retains { o with hw := { o.hw with attempts, cameras } } :=
      retains.onHardware rfl
    rw [failed]
    exact tried.attemptFailed p h c attempt e
  · have added : b.Retains { o with hw := { o.hw with attempts, devices := o.hw.devices ++ [x] } } :=
      retains.onHardware rfl
    rw [begun]
    exact added.setStage nofun

theorem deviceReady (retains : b.Retains o) (c : CameraId) (d : DeviceId) :
    b.Retains (o.deviceReady c d) := by
  unfold Broker.deviceReady startSession
  dsimp only
  split
  · refine .setStage ?_ nofun
    exact retains.of_eq rfl rfl
  · refine .setStage ?_ nofun
    exact retains.of_eq rfl rfl

theorem endAttempt (retains : b.Retains o) (p : RetryPolicy) (h : HandleId) (c : CameraId)
    (attempt : Nat) (d : DeviceId) : b.Retains (o.endAttempt p h c attempt d) := by
  have kept := (Hardware.Operates.finishOpen c d o.hw).now
  unfold Broker.endAttempt
  split
  · rename_i e hw failed
    rw [failed] at kept
    exact (retains.onHardware kept).attemptFailed p h c attempt e
  · rename_i hw opened
    rw [opened] at kept
    dsimp only
    split
    · exact ((retains.onHardware kept).emit _).deviceReady c d
    · exact (retains.onHardware kept).deviceReady c d

theorem endScripted (retains : b.Retains o) (h : HandleId) (c : CameraId) (onClose : OnClose)
    (outcome : ScriptedOpen) : b.Retains (o.endScripted h c onClose outcome) := by
  cases outcome with
  | refused => exact (retains.emit _).giveUpOpen h .openFailed
  | crash => exact ⟨retains.setting, fun _ => nofun⟩
  | device state =>
    refine .deviceReady ?_ c _
    exact retains.onHardware rfl

theorem resumeOpening (retains : b.Retains o) (h : HandleId) (call : OpenerCall) :
    b.Retains (o.resumeOpening h call) := by
  unfold Broker.resumeOpening
  split
  · exact retains
  · split
    · exact retains.endAttempt _ h _ _ _
    · exact retains.beginAttempt _ h _ _
    · rename_i delay onClose outcomes script
      refine .endScripted ?_ h _ onClose _
      exact retains.of_eq (by simp only [Broker.setting, script]; rfl) rfl
    · exact retains

/-- Only an opener that follows a script makes calls of one. -/
theorem beginOpening (retains : b.Retains o) (h : HandleId) (c : CameraId) :
    b.Retains (o.beginOpening h c) := by
  unfold Broker.beginOpening
  dsimp only
  split
  · split
    · exact ((retains.emit _).emit _).beginAttempt _ h c 1
    · rename_i script
      exact ⟨retains.setting, fun _ _ _ _ => congrArg Opener.policy? script⟩
  · exact (retains.emit _).giveUpOpen h .permissionDenied

/-! The loop. -/

theorem awaitClosed (retains : b.Retains o) (sessions left : List SessionId) (after : AfterClose) :
    b.Retains (o.awaitClosed sessions left after) := by
  unfold Broker.awaitClosed
  split
  · cases after with
    | read => exact retains.setStage nofun
    | stop =>
      refine .setStage ?_ nofun
      exact retains.of_eq rfl rfl
  · exact retains.setStage nofun

theorem closeSessions (retains : b.Retains o) (sessions : List SessionId) (after : AfterClose) :
    b.Retains (o.closeSessions sessions after) := by
  have spawned : b.Retains (sessions.foldl (fun b i => b.spawnClose i) o) :=
    List.foldlRecOn _ _ retains fun _ kept i _ => kept.of_eq rfl rfl
  exact spawned.awaitClosed sessions sessions after

theorem supersede (retains : b.Retains o) (before : List Request) :
    b.Retains (before.foldl Broker.supersede o) := by
  refine List.foldlRecOn _ _ retains fun c kept r _ => ?_
  cases r with
  | «open» h share => exact (kept.failHandle h .superseded).emit _
  | close i => exact kept.emit _
  | closeAll => exact kept.emit _

theorem place (retains : b.Retains o) (h : HandleId) (c : CameraId) : b.Retains (o.place h c) := by
  unfold Broker.place
  split
  · exact retains.beginOpening h c
  · rename_i i active
    split
    · refine .closeSessions ?_ _ .read
      exact retains.of_eq rfl rfl
    · have joins := of_onward ((Onward.refl o).connectTo i h)
      have kept : b.Retains (o.connectTo i h) :=
        ⟨joins.setting.trans retains.setting, fun fits => joins.fits (retains.fits fits)⟩
      exact kept.popHead.setStage nofun

theorem serveOpen (retains : b.Retains o) (h : HandleId) (share : Bool) :
    b.Retains (o.serveOpen h share) := by
  unfold Broker.serveOpen
  split
  · exact retains.popHead.setStage nofun
  · split
    · exact (retains.emit _).popHead.setStage nofun
    · split
      · exact retains.place h _
      · split
        · exact retains.place h _
        · refine .closeSessions ?_ _ .read
          exact retains.of_eq rfl rfl

theorem serve (retains : b.Retains o) : b.Retains o.serve := by
  unfold Broker.serve
  split
  · refine .closeSessions ?_ _ .read
    exact retains.of_eq rfl rfl
  · split
    · rename_i before after _
      have taken : b.Retains (o.setPending after) := retains.of_eq rfl rfl
      have given := taken.supersede before
      refine .closeSessions ?_ _ .read
      exact given.of_eq rfl rfl
    · split
      · exact retains.serveOpen _ _
      · exact retains

theorem read (retains : b.Retains o) : b.Retains o.read := by
  unfold Broker.read
  split
  · split
    · unfold finish
      split
      · refine .setStage ?_ nofun
        exact retains.of_eq rfl rfl
      · refine .closeSessions ?_ _ .stop
        exact retains.of_eq rfl rfl
    · exact retains
  · refine .serve ?_
    exact retains.of_eq rfl rfl

theorem resumeLoop (b : Broker) : b.Retains b.resumeLoop := by
  unfold Broker.resumeLoop
  split
  · exact ((refl b).emit _).setStage nofun
  · exact (refl b).read
  · exact (refl b).resumeOpening _ _
  · exact (refl b).awaitClosed _ _ _
  · exact refl b
  · exact refl b

/-! The tasks beside the loop. -/

theorem resumeClose (k : Nat) (b : Broker) : b.Retains (b.resumeClose k) := by
  unfold Broker.resumeClose
  split
  · exact refl b
  · rename_i c hk
    obtain ⟨i, stage⟩ := c
    cases stage with
    | fresh =>
      rcases (Onward.refl b).beginClose i with ⟨nothing, -⟩ | ⟨d, o, o', on, begun, -⟩
      · rw [nothing]
        exact (refl b).of_eq rfl rfl
      · have asked := (of_onward on).onHardware (Hardware.Operates.closeDevice d o.hw).now
        rw [begun]
        cases (o.hw.closeDevice d).1 <;> exact asked.of_eq rfl rfl
    | awaiting => exact (refl b).of_eq rfl rfl
    | done => exact (refl b).of_eq rfl rfl

theorem resumeTask (t : Task) (b : Broker) : b.Retains (b.resumeTask t) := by
  cases t with
  | release d => exact (refl b).onHardware (Hardware.Operates.resumeRelease d b.hw).now
  | observe h => exact of_onward ((Onward.refl b).observe h)
  | listen i => exact of_onward ((Onward.refl b).listen i)
  | close k => exact resumeClose k b
  | countdown i generation => exact of_onward ((Onward.refl b).wakeCountdown i generation)
  | loop => exact resumeLoop b

end Retains

end Broker

end CameraBroker
