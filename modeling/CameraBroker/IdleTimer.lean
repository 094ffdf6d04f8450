/-! Idle timers. Each bound handle holds a token, and while one is held the timer rests. The
last token's return starts a countdown over one window; if it elapses undisturbed the timer
fires once and counts as released. A refused notification revives it for another window. -/
namespace CameraBroker

/-- How long a session without a handle is kept, in milliseconds. -/
def idleWindow : Nat := 1000

/-- A sleeping countdown and the generation it was started in. -/
structure Countdown where
  generation : Nat
  due : Nat
deriving DecidableEq, Repr

structure IdleTimer where
  window : Nat
  tokens : Nat := 0
  /-- No token is handed out and no countdown can fire. -/
  released : Bool := false
  /-- Released on purpose: a refused notification does not revive it. -/
  retired : Bool := false
  /-- Grows whenever a countdown starts or is called off. -/
  generation : Nat := 0
  /-- Countdowns that still sleep. One of an earlier generation wakes without effect. -/
  countdowns : List Countdown := []
deriving DecidableEq, Repr

namespace IdleTimer

def callOff (t : IdleTimer) : IdleTimer := { t with generation := t.generation + 1 }

def start (now : Nat) (t : IdleTimer) : IdleTimer :=
  { t with
    generation := t.generation + 1
    countdowns := t.countdowns ++ [⟨t.generation + 1, now + t.window⟩] }

/-- Starts the countdown if no token is held. -/
def arm (now : Nat) (t : IdleTimer) : IdleTimer :=
  if t.tokens = 0 ∧ ¬t.released then t.start now else t

/-- Hands out a token, which calls the countdown off, unless the timer is released. -/
def acquire? (t : IdleTimer) : Option IdleTimer :=
  if t.released then none else some { t.callOff with tokens := t.tokens + 1 }

/-- Takes a token back. The last one starts the countdown. -/
def giveBack (now : Nat) (t : IdleTimer) : IdleTimer :=
  { t with tokens := t.tokens - 1 }.arm now

/-- Released for good. The answer says whether the timer was live. -/
def release (t : IdleTimer) : Bool × IdleTimer :=
  if t.released then (false, { t with retired := true })
  else (true, { t.callOff with released := true, retired := true })

/-- The first half of an expiry: a live timer is released, and its notification is due. -/
def expire? (t : IdleTimer) : Option IdleTimer :=
  if t.released then none else some { t.callOff with released := true }

/-- A countdown wakes and is gone. -/
def awaken (generation : Nat) (t : IdleTimer) : IdleTimer :=
  { t with countdowns := t.countdowns.filter fun c => c.generation ≠ generation }

/-- The first half of firing: only the current countdown of a live timer without tokens
releases it, and its notification is due. -/
def fire? (generation : Nat) (t : IdleTimer) : Option IdleTimer :=
  if t.released ∨ 0 < t.tokens ∨ t.generation ≠ generation then none
  else some { t with released := true }

/-- The second half: the notification was delivered, or it was refused and the timer counts
down again unless it was retired meanwhile. -/
def answered (now : Nat) (delivered : Bool) (t : IdleTimer) : IdleTimer :=
  if delivered ∨ t.retired then t else { t with released := false }.start now

/-- The generations whose countdown is due. -/
def due (now : Nat) (t : IdleTimer) : List Nat :=
  (t.countdowns.filter fun c => c.due ≤ now).map (·.generation)

/-- The generations whose countdown sleeps, and when it wakes. -/
def sleepers (t : IdleTimer) : List (Nat × Nat) := t.countdowns.map fun c => (c.generation, c.due)

theorem tokens_of_acquire {t u : IdleTimer} (h : t.acquire? = some u) :
    u.tokens = t.tokens + 1 := by
  unfold acquire? at h
  split at h
  · cases h
  · cases h; rfl

theorem released_of_expire {t u : IdleTimer} (h : t.expire? = some u) : u.released = true := by
  unfold expire? at h
  split at h
  · cases h
  · cases h; rfl

theorem released_of_fire {t u : IdleTimer} {g : Nat} (h : t.fire? g = some u) :
    u.released = true := by
  unfold fire? at h
  split at h
  · cases h
  · cases h; rfl

end IdleTimer

end CameraBroker
