import CameraBroker.Broker.Client

/-! Runs of the broker. Tasks take their turns in any order, one at a time, and between two
turns clients, the environment and the clock do what they like. A turn is one step, up to the next
point where its task waits; what is proved of runs holds under this assumption. The devices that a
script hands out stand for devices of any kind. -/
namespace CameraBroker

def Device.isManual (x : Device) : Bool :=
  match x.make with
  | .simulated _ => false
  | .manual _ => true

/-- Whatever takes steps: what does not hold before all of them and holds after them becomes true in
one of them. -/
theorem exists_step_of_foldl {σ α : Type} {step : σ → α → σ} {P : σ → Prop} {s : σ} {as : List α}
    (start : ¬P s) (last : P (as.foldl step s)) : ∃ before a after, as = before ++ a :: after ∧
      ¬P (before.foldl step s) ∧ P (step (before.foldl step s) a) := by
  induction as generalizing s with
  | nil => exact absurd last start
  | cons a as ih =>
    by_cases now : P (step s a)
    · exact ⟨[], a, as, rfl, start, now⟩
    · obtain ⟨before, a', after, rfl, not, becomes⟩ := ih now last
      exact ⟨a :: before, a', after, rfl, not, becomes⟩

namespace Broker

inductive Action where
  | turn (task : Task)
  | «open» (camera : CameraId) (share : Bool)
  | closeAll
  | shutdown
  | leave
  | join
  | disconnect (handle : HandleId)
  | forget (handle : HandleId)
  | grant
  | revoke
  | unplug (camera : CameraId)
  | addCamera (camera : CameraId)
  | failNext (camera : CameraId) (count : Nat)
  | setLatency (openLatency closeLatency : Nat)
  | publish (device : DeviceId) (state : DeviceState)
  | dropPublisher (device : DeviceId)
  | script (delay : Nat) (onClose : OnClose) (outcomes : List ScriptedOpen)
  | elapse (ms : Nat)
deriving DecidableEq

def hasClient (b : Broker) : Bool := b.inbox.producers ≠ 0

def onManual (d : DeviceId) (f : Stream → Stream) (b : Broker) : Broker :=
  match b.hw.devices[d]? with
  | some { make := .manual _, stream, .. } =>
    if stream.live then b.onHardware (·.onStream d f) else b
  | _ => b

/-- From now on the opener follows this script, if it follows one at all. -/
def rescript (delay : Nat) (onClose : OnClose) (outcomes : List ScriptedOpen) (b : Broker) :
    Broker :=
  match b.opener with
  | .scripted .. => { b with opener := .scripted delay onClose outcomes }
  | .retrying _ => b

/-- What was asked of the broker, or the broker as it was when the inbox had no room. -/
def orUnchanged (r : Except Refusal Broker) (b : Broker) : Broker :=
  match r with
  | .ok b => b
  | .error _ => b

/-- The broker after an action. What is not possible just then changes nothing. -/
def step (b : Broker) (a : Action) : Broker :=
  match a with
  | .turn t => if t ∈ b.readyTasks then b.resumeTask t else b
  | .open c share => if b.hasClient then orUnchanged (b.requestOpen c share) b else b
  | .closeAll => if b.hasClient then orUnchanged b.requestCloseAll b else b
  | .shutdown => if b.hasClient then b.beginShutdown else b
  | .leave => if b.hasClient then b.leave else b
  | .join => if b.isLoopOver then b.endShutdown else b
  | .disconnect h => b.disconnect h
  | .forget h => b.forget h
  | .grant => b.grant
  | .revoke => b.revoke
  | .unplug c => (b.unplug c).2
  | .addCamera c => b.onHardware (·.addCamera c)
  | .failNext c n => b.onHardware (·.failNext c n)
  | .setLatency o c => b.onHardware (·.setLatency o c)
  | .publish d state => b.onManual d (·.publish state)
  | .dropPublisher d => b.onManual d (·.drop)
  | .script delay onClose outcomes => b.rescript delay onClose outcomes
  | .elapse ms => b.onHardware fun hw => { hw with now := hw.now + ms }

/-- The broker after the actions, the first one first. -/
def run (actions : List Action) (b : Broker) : Broker := actions.foldl step b

structure Setup where
  cameras : List String := []
  openLatency : Nat := 0
  closeLatency : Nat := 0
  opener : Opener := .retrying {}
  granted : Bool := true

def Setup.broker (s : Setup) : Broker :=
  { hw := .simulated s.cameras s.openLatency s.closeLatency, opener := s.opener,
    granted := s.granted }

/-- Every action of a run meets a condition in the state in which it happens. -/
def Throughout (ok : Broker → Action → Prop) : List Action → Broker → Prop
  | [], _ => True
  | a :: actions, b => ok b a ∧ Throughout ok actions (b.step a)

def Reachable (b : Broker) : Prop :=
  ∃ (s : Setup) (actions : List Action), s.broker.run actions = b

/-- A run whose actions meet a condition leads to this state. -/
def ReachableBy (ok : Broker → Action → Prop) (b : Broker) : Prop :=
  ∃ (s : Setup) (actions : List Action), Throughout ok actions s.broker ∧ s.broker.run actions = b

/-- What the contract of a device says of its end: once closed, it stays closed. Simulated devices
do anyway, so it is asked of the devices that are driven by hand. -/
def KeepsClosed (b : Broker) (a : Action) : Prop :=
  ∀ p ∈ b.hw.devices.zip (b.step a).hw.devices,
    p.1.isManual = true → p.1.stream.state = .closed → p.2.stream.state = .closed

instance decidableThroughout {ok : Broker → Action → Prop} [∀ b a, Decidable (ok b a)] :
    ∀ (actions : List Action) (b : Broker), Decidable (Throughout ok actions b)
  | [], _ => isTrue trivial
  | a :: actions, b => @instDecidableAnd _ _ _ (decidableThroughout actions (b.step a))

instance (b : Broker) (a : Action) : Decidable (KeepsClosed b a) :=
  inferInstanceAs (Decidable (∀ p ∈ b.hw.devices.zip (b.step a).hw.devices,
    p.1.isManual = true → p.1.stream.state = .closed → p.2.stream.state = .closed))

theorem step_of_ready {b : Broker} {t : Task} (ready : t ∈ b.readyTasks) :
    b.step (.turn t) = b.resumeTask t := if_pos ready

theorem step_of_unready {b : Broker} {t : Task} (unready : t ∉ b.readyTasks) :
    b.step (.turn t) = b := if_neg unready

@[simp] theorem run_nil (b : Broker) : b.run [] = b := rfl

@[simp] theorem run_cons (b : Broker) (a : Action) (actions : List Action) :
    b.run (a :: actions) = (b.step a).run actions := rfl

theorem run_append (b : Broker) (actions more : List Action) :
    b.run (actions ++ more) = (b.run actions).run more := List.foldl_append

/-- What every step preserves holds at the end of a run. -/
theorem run_induction {P : Broker → Prop} (step : ∀ b a, P b → P (b.step a)) {b : Broker}
    (hb : P b) (actions : List Action) : P (b.run actions) := by
  induction actions generalizing b with
  | nil => exact hb
  | cons a actions ih => exact ih (step b a hb)

/-- What does not hold at the start of a run and holds at its end becomes true in one of its steps. -/
theorem exists_step_of_run {P : Broker → Prop} {b : Broker} {actions : List Action} (start : ¬P b)
    (last : P (b.run actions)) : ∃ before a after, actions = before ++ a :: after ∧
      ¬P (b.run before) ∧ P ((b.run before).step a) :=
  exists_step_of_foldl start last

theorem Reachable.start (s : Setup) : Reachable s.broker := ⟨s, [], rfl⟩

theorem Reachable.run {b : Broker} (hr : Reachable b) (actions : List Action) :
    Reachable (b.run actions) := by
  obtain ⟨s, before, rfl⟩ := hr
  exact ⟨s, before ++ actions, run_append _ _ _⟩

theorem Reachable.step {b : Broker} (hr : Reachable b) (a : Action) : Reachable (b.step a) :=
  hr.run [a]

/-- What holds at the start and is preserved by every step holds in every reachable state. -/
theorem Reachable.invariant {P : Broker → Prop} (start : ∀ s : Setup, P s.broker)
    (step : ∀ b a, Reachable b → P b → P (b.step a)) {b : Broker} (hr : Reachable b) : P b := by
  obtain ⟨s, actions, rfl⟩ := hr
  have h : Reachable (s.broker.run actions) ∧ P (s.broker.run actions) :=
    run_induction (P := fun b => Reachable b ∧ P b)
      (fun b a ⟨hb, hp⟩ => ⟨hb.step a, step b a hb hp⟩) ⟨.start s, start s⟩ actions
  exact h.2

section Conditions
variable {ok : Broker → Action → Prop}

theorem throughout_append {b : Broker} {actions more : List Action} :
    Throughout ok (actions ++ more) b ↔
      Throughout ok actions b ∧ Throughout ok more (b.run actions) := by
  induction actions generalizing b with
  | nil => simp [Throughout]
  | cons a actions ih => simp [Throughout, ih, and_assoc]

theorem ReachableBy.reachable {b : Broker} (hr : ReachableBy ok b) : Reachable b := by
  obtain ⟨s, actions, -, h⟩ := hr
  exact ⟨s, actions, h⟩

theorem ReachableBy.step {b : Broker} (hr : ReachableBy ok b) {a : Action} (ha : ok b a) :
    ReachableBy ok (b.step a) := by
  obtain ⟨s, actions, hok, rfl⟩ := hr
  refine ⟨s, actions ++ [a], throughout_append.2 ⟨hok, ha, trivial⟩, ?_⟩
  rw [run_append, run_cons, run_nil]

/-- The same for runs whose actions meet a condition, which the step may use. -/
theorem ReachableBy.invariant {P : Broker → Prop} (start : ∀ s : Setup, P s.broker)
    (step : ∀ b a, ReachableBy ok b → ok b a → P b → P (b.step a)) {b : Broker}
    (hr : ReachableBy ok b) : P b := by
  obtain ⟨s, actions, hok, rfl⟩ := hr
  suffices h : ∀ {b}, ReachableBy ok b → P b → Throughout ok actions b → P (b.run actions) from
    h ⟨s, [], trivial, rfl⟩ (start s) hok
  clear hok
  induction actions with
  | nil => exact fun _ hp _ => hp
  | cons a actions ih => exact fun hb hp hok => ih (hb.step hok.1) (step _ a hb hok.1 hp) hok.2

end Conditions

/-! Small runs, as the results below are shown at work. -/

def front : CameraId := ⟨"front", by decide⟩

def back : CameraId := ⟨"back", by decide⟩

/-- The actions happen to a broker whose opener hands out a device at every call. -/
def byHand (actions : List Action) : Broker :=
  ({ opener := .scripted 0 .closed [] } : Setup).broker.run actions

theorem Reachable.byHand (actions : List Action) : Reachable (byHand actions) := ⟨_, actions, rfl⟩

end Broker

end CameraBroker
