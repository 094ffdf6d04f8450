import CameraBroker.Event

/-! Opening a device with bounded retries: what a call does step by step over any backend, and
a call against a list of outcomes. -/
namespace CameraBroker

/-- What comes of one attempt, after `delay`. -/
structure OpenReply (δ : Type) where
  delay : Nat
  result : Except DeviceError δ

/-- Whoever yields devices of type `δ`. A reply may hang on the camera, the instant and a state,
which it changes. -/
abbrev Backend (σ δ : Type) := CameraId → (now : Nat) → σ → OpenReply δ × σ

/-- One step of a call: it asks the backend for a camera, for the `number`th time, or it sleeps. -/
inductive CallStep where
  | ask (camera : CameraId) (number instant : Nat)
  | sleep (ms : Nat)
deriving DecidableEq

/-- What became of a call, and the state in which it leaves the backend. -/
structure CallReport (σ δ : Type) where
  device : Option δ
  steps : List CallStep
  finish : Nat
  events : List Event
  backend : σ

namespace CallReport
variable {σ δ : Type}

/-- Other steps came before. -/
def after (steps : List CallStep) (events : List Event) (r : CallReport σ δ) : CallReport σ δ :=
  { r with steps := steps ++ r.steps, events := events ++ r.events }

def opened (r : CallReport σ δ) : Bool := r.device.isSome

/-- When the backend was asked. -/
def attempts (r : CallReport σ δ) : List Nat :=
  r.steps.filterMap fun
    | .ask _ _ instant => some instant
    | .sleep _ => none

end CallReport

namespace RetryPolicy
variable {σ δ : Type}

/-- The call from now on, with `left` attempts to come. -/
def attemptsLeft (p : RetryPolicy) (backend : Backend σ δ) (camera : CameraId) :
    (left now : Nat) → σ → CallReport σ δ
  | 0, now, s => ⟨none, [], now, [], s⟩
  | left + 1, now, s =>
    let number := p.attempts - left
    let (reply, s) := backend camera now s
    let finish := now + reply.delay
    match reply.result with
    | .ok d => ⟨some d, [.ask camera number now], finish,
        if 1 < number then [.openedOnAttempt camera number p.attempts] else [], s⟩
    | .error e => match p.judge number e with
      | .again => (p.attemptsLeft backend camera left (finish + p.interval) s).after
          [.ask camera number now, .sleep p.interval]
          [.attemptFailed camera number p.attempts e p.interval]
      | .giveUp => ⟨none, [.ask camera number now], finish, [.gaveUp camera number e], s⟩

def openWithRetry (p : RetryPolicy) (backend : Backend σ δ) (camera : CameraId) (now : Nat)
    (s : σ) : CallReport σ δ :=
  p.attemptsLeft backend camera p.attempts now s

end RetryPolicy

/-- What a backend that follows a list does with one attempt: after `delay` it succeeds or
fails. -/
structure Outcome where
  delay : Nat
  error : Option DeviceError
deriving DecidableEq

/-- Replies from a list. When the outcomes run out every attempt succeeds at once. -/
def Outcome.backend : Backend (List Outcome) Unit
  | _, _, [] => (⟨0, .ok ()⟩, [])
  | _, _, o :: rest => (⟨o.delay, match o.error with | none => .ok () | some e => .error e⟩, rest)

def RetryPolicy.call (p : RetryPolicy) (camera : CameraId) (outcomes : List Outcome) :
    CallReport (List Outcome) Unit :=
  p.openWithRetry Outcome.backend camera 0 outcomes

end CameraBroker
