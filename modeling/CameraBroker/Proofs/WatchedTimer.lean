import CameraBroker.Proofs.IdleWatch
import CameraBroker.Proofs.TimerMoves

/-! What each operation makes of a timer and of the watch that follows it. The start that the watch
remembers stands for the countdown of the current generation; all others wake without effect. -/
namespace CameraBroker

namespace IdleTimer
variable {n g : Nat} {t u : IdleTimer} {w : IdleWatch}

structure Agrees (n : Nat) (t : IdleTimer) (w : IdleWatch) : Prop where
  now : w.now = n
  window : w.window = t.window
  tokens : w.tokens = t.tokens
  released : w.released = t.released
  retired : w.retired = t.retired
  young : ∀ c ∈ t.countdowns, c.generation ≤ t.generation
  ahead : ∀ c ∈ t.countdowns, n ≤ c.due
  spent : t.released = true → w.started = none

def Current (t : IdleTimer) (w : IdleWatch) : Prop :=
  ∀ d, ⟨t.generation, d⟩ ∈ t.countdowns ↔ w.started.map (· + w.window) = some d

/-- The watch says what the timer does. A current countdown may have woken in vain while a token was
held. -/
structure Watched (n : Nat) (t : IdleTimer) (w : IdleWatch) : Prop extends t.Agrees n w where
  current : t.tokens = 0 ∨ t.released = true → t.Current w

theorem generation_awaken (g : Nat) (t : IdleTimer) : (t.awaken g).generation = t.generation := rfl

theorem mem_awaken {c : Countdown} :
    c ∈ (t.awaken g).countdowns ↔ c ∈ t.countdowns ∧ c.generation ≠ g := by
  simp [IdleTimer.awaken]

namespace Agrees

theorem unannounced (h : t.Agrees n w) (d : Nat) : ⟨t.generation + 1, d⟩ ∉ t.countdowns :=
  fun old => Nat.not_succ_le_self _ (h.young _ old)

theorem start (h : t.Agrees n w) (live : t.released = false) :
    (t.start n).Watched n w.start := by
  refine ⟨⟨h.now, h.window, h.tokens, h.released, h.retired, fun c hc => ?_, fun c hc => ?_,
    fun released => ?_⟩, fun _ d => ?_⟩
  · rcases List.mem_append.1 hc with old | new
    · exact Nat.le_succ_of_le (h.young c old)
    · rw [List.mem_singleton.1 new]
      exact Nat.le_refl _
  · rcases List.mem_append.1 hc with old | new
    · exact h.ahead c old
    · rw [List.mem_singleton.1 new]
      exact Nat.le_add_right _ _
  · cases live.symm.trans released
  · simp [IdleTimer.start, IdleWatch.start, h.unannounced, h.now, h.window, eq_comm]

theorem callOff (h : t.Agrees n w) : t.callOff.Agrees n { w with started := none } :=
  ⟨h.now, h.window, h.tokens, h.released, h.retired, fun c hc => Nat.le_succ_of_le (h.young c hc),
    h.ahead, fun _ => rfl⟩

theorem current_callOff (h : t.Agrees n w) : t.callOff.Current { w with started := none } :=
  fun d => by simp [IdleTimer.callOff, h.unannounced]

theorem withTokens (h : t.Agrees n w) (k : Nat) :
    { t with tokens := k }.Agrees n { w with tokens := k } :=
  ⟨h.now, h.window, rfl, h.released, h.retired, h.young, h.ahead, h.spent⟩

theorem withReleased (h : t.Agrees n w) {released : Bool}
    (spent : released = true → w.started = none) :
    { t with released }.Agrees n { w with released } :=
  ⟨h.now, h.window, h.tokens, rfl, h.retired, h.young, h.ahead, spent⟩

theorem retire (h : t.Agrees n w) :
    { t with retired := true }.Agrees n { w with retired := true } :=
  ⟨h.now, h.window, h.tokens, h.released, rfl, h.young, h.ahead, h.spent⟩

theorem awaken (h : t.Agrees n w) (g : Nat) : (t.awaken g).Agrees n w :=
  ⟨h.now, h.window, h.tokens, h.released, h.retired,
    fun c hc => h.young c (List.mem_filter.1 hc).1, fun c hc => h.ahead c (List.mem_filter.1 hc).1,
    h.spent⟩

theorem arm (h : t.Agrees n w) (spent : t.released = true → t.Current w) :
    (t.arm n).Watched n w.arm := by
  by_cases idle : t.tokens = 0 ∧ ¬t.released
  · have same : w.tokens = 0 ∧ ¬w.released := by rwa [h.tokens, h.released]
    rw [IdleTimer.arm, if_pos idle, IdleWatch.arm, if_pos same]
    exact h.start (by simpa using idle.2)
  · have same : ¬(w.tokens = 0 ∧ ¬w.released) := by rwa [h.tokens, h.released]
    rw [IdleTimer.arm, if_neg idle, IdleWatch.arm, if_neg same]
    refine ⟨h, fun still => spent ?_⟩
    rcases still with none | released
    · by_contra live
      exact idle ⟨none, live⟩
    · exact released

end Agrees

namespace Watched

/-- The watch's script and calls do not matter. -/
theorem scripted (h : t.Watched n w) (script : List Answer) (calls : List Nat) :
    t.Watched n { w with script, calls } :=
  ⟨⟨h.now, h.window, h.tokens, h.released, h.retired, h.young, h.ahead, h.spent⟩, h.current⟩

theorem arm (h : t.Watched n w) : (t.arm n).Watched n w.arm :=
  h.toAgrees.arm fun released => h.current (.inr released)

theorem acquire (h : t.Watched n w) (taken : t.acquire? = some u) : u.Watched n w.acquire := by
  unfold acquire? at taken
  split at taken
  · cases taken
  · rename_i live
    obtain rfl := Option.some.inj taken
    have live : ¬w.released = true := h.released ▸ live
    have same : w.acquire = { w with tokens := t.tokens + 1, started := none } := by
      rw [IdleWatch.acquire, if_neg live, h.tokens]
    rw [same]
    exact ⟨h.callOff.withTokens _, fun _ => h.current_callOff⟩

theorem refuse (h : t.Watched n w) (refused : t.acquire? = none) : w.acquire = w := by
  unfold acquire? at refused
  split at refused
  · rename_i released
    exact if_pos (h.released ▸ released)
  · cases refused

theorem drop (h : t.Watched n w) (held : 0 < t.tokens) : (t.giveBack n).Watched n w.drop := by
  have same : w.drop = { w with tokens := t.tokens - 1 }.arm := by
    rw [IdleWatch.drop, h.tokens, if_pos held]
  rw [same]
  exact (h.withTokens (t.tokens - 1)).arm fun released => h.current (.inr released)

/-- A live timer that is released has no countdown any more. -/
theorem spend (h : t.Watched n w) :
    { t.callOff with released := true }.Watched n { w with released := true, started := none } :=
  ⟨h.callOff.withReleased fun _ => rfl, fun _ => h.current_callOff⟩

theorem retire (h : t.Watched n w) :
    { t with retired := true }.Watched n { w with retired := true } :=
  ⟨h.toAgrees.retire, h.current⟩

theorem release (h : t.Watched n w) : t.release.2.Watched n w.release := by
  by_cases released : t.released = true
  · rw [IdleTimer.release, if_pos released, IdleWatch.release, if_pos (h.released.trans released)]
    exact h.retire
  · have live : ¬w.released = true := h.released ▸ released
    rw [IdleTimer.release, if_neg released, IdleWatch.release, if_neg live]
    exact h.spend.retire

/-- A refused notification starts the countdown again, even while a token is held. -/
theorem answered (h : t.Watched n w) (delivered : Bool) :
    (t.answered n delivered).Watched n (w.answered delivered) := by
  by_cases final : delivered ∨ t.retired
  · have same : delivered ∨ w.retired := by rwa [h.retired]
    rw [IdleTimer.answered, if_pos final, IdleWatch.answered, if_pos same]
    exact h
  · have same : ¬(delivered ∨ w.retired) := by rwa [h.retired]
    rw [IdleTimer.answered, if_neg final, IdleWatch.answered, if_neg same]
    have revived : { t with released := false }.Agrees n { w with released := false } :=
      h.toAgrees.withReleased fun live => absurd live Bool.false_ne_true
    exact revived.start rfl

/-- A countdown that does not fire was called off, or wakes in vain. -/
theorem awaken (h : t.Watched n w) (vain : (t.awaken g).fire? g = none) :
    (t.awaken g).Watched n w := by
  refine ⟨h.toAgrees.awaken g, fun still d => ?_⟩
  rw [mem_awaken, generation_awaken, h.current still d]
  by_cases old : t.generation = g
  · -- The current countdown of a live timer without tokens would fire.
    have released : t.released = true := by
      rcases still with free | released
      · have free : t.tokens = 0 := free
        simpa [fire?, IdleTimer.awaken, old, free] using vain
      · exact released
    rw [h.spent released]
    simp
  · exact and_iff_left old

/-- The countdown that fires is the one that the watch waits for. -/
theorem fire (h : t.Watched n w) (due : g ∈ t.due n) (fires : (t.awaken g).fire? g = some u) :
    w.Due ∧ u.Watched n { w with released := true, started := none } := by
  unfold fire? at fires
  split at fires
  · cases fires
  · rename_i able
    obtain rfl := Option.some.inj fires
    simp only [IdleTimer.awaken, not_or, Bool.not_eq_true, Nat.not_lt, Nat.le_zero,
      Decidable.not_not] at able
    obtain ⟨live, free, rfl⟩ := able
    constructor
    · obtain ⟨⟨g, d⟩, hc, rfl⟩ := List.mem_map.1 due
      obtain ⟨mem, past⟩ := List.mem_filter.1 hc
      obtain rfl : d = n := Nat.le_antisymm (of_decide_eq_true past) (h.ahead _ mem)
      refine ⟨h.tokens.trans free, h.released.trans live, ?_⟩
      rw [h.now]
      exact (h.current (.inl free) d).1 mem
    · have woken := h.toAgrees.awaken t.generation
      refine ⟨⟨h.now, h.window, h.tokens, rfl, h.retired, woken.young, woken.ahead, fun _ => rfl⟩,
        fun _ d => ?_⟩
      simp [mem_awaken, generation_awaken]

end Watched

def hear (a : Answer) (t : IdleTimer) : IdleTimer :=
  if a.first = some .release then { t with retired := true } else t

theorem Watched.reply (h : t.Watched n w) (spent : t.released = true) (a : Answer) :
    ((t.hear a).answered n a.delivered).Watched n (w.reply a) := by
  have heard : (t.hear a).Watched n (w.hear a) := by
    unfold IdleTimer.hear IdleWatch.hear
    split
    · rw [IdleWatch.release, if_pos (h.released.trans spent)]
      exact h.retire
    · exact h
  exact heard.answered a.delivered

end IdleTimer

namespace ScriptedTimer
variable {n : Nat} {t : IdleTimer} {w : IdleWatch} {s s' : ScriptedTimer} {past : List CallEvent}

def entries (past : List CallEvent) : List Nat :=
  past.reverse.filterMap fun
    | .entered t => some t
    | .returned _ _ => none

/-- While a timer is released, its callback cannot make it call again. -/
theorem notify_of_released (spent : t.released = true) (script : List Answer) :
    notify n script t past =
      ⟨n, (t.hear (.next script)).answered n (Answer.next script).delivered, script.tail,
        .returned n (Answer.next script).delivered :: .entered n :: past⟩ := by
  cases script with
  | nil => simp [notify, Answer.next, IdleTimer.hear]
  | cons a rest =>
    obtain ⟨first, delivered⟩ := a
    cases first with
    | none => simp [notify, Answer.next, IdleTimer.hear]
    | some call =>
      cases call <;>
        simp [notify, Answer.next, IdleTimer.hear, IdleTimer.arm, IdleTimer.acquire?,
          IdleTimer.release, IdleTimer.expire?, spent]

/-- A countdown that wakes fires, or is merely gone. -/
theorem wakeCountdown_cases (g : Nat) (s : ScriptedTimer) :
    ((s.timer.awaken g).fire? g = none ∧ s.wakeCountdown g = { s with timer := s.timer.awaken g }) ∨
      ∃ u, (s.timer.awaken g).fire? g = some u ∧
        s.wakeCountdown g = notify s.now s.script u s.history := by
  cases fires : (s.timer.awaken g).fire? g with
  | none => exact .inl ⟨rfl, by simp [wakeCountdown, fires]⟩
  | some u => exact .inr ⟨u, rfl, by simp [wakeCountdown, fires]⟩

/-- An expiry notifies, unless the timer is released. -/
theorem expire_cases (s : ScriptedTimer) :
    (s.timer.released = true ∧ s.expire.2 = s) ∨
      s.timer.released = false ∧ s.expire.2 =
        notify s.now s.script { s.timer.callOff with released := true } s.history := by
  cases released : s.timer.released with
  | true => exact .inl ⟨rfl, by simp [expire, IdleTimer.expire?, released]⟩
  | false => exact .inr ⟨rfl, by simp [expire, IdleTimer.expire?, released]⟩

def drop (s : ScriptedTimer) : ScriptedTimer := if 0 < s.timer.tokens then s.giveBack else s

structure Follows (s : ScriptedTimer) (w : IdleWatch) : Prop where
  watched : s.timer.Watched s.now w
  record : w.record = (s.now, s.script, s.calls)

theorem follows_notify (h : t.Watched n { w with released := true, started := none })
    (calls : w.calls = entries past) : (notify n w.script t past).Follows w.call := by
  have spent : t.released = true := h.released.symm
  have now : w.now = n := h.now
  rw [notify_of_released spent]
  refine ⟨(h.scripted _ _).reply spent _, w.record_call.trans (Prod.ext now (Prod.ext rfl ?_))⟩
  have longer : ∀ d, w.calls ++ [n] = entries (.returned n d :: .entered n :: past) := by
    intro d
    simp [entries, calls]
  rw [now]
  exact longer _

namespace Follows

theorem script (h : s.Follows w) : w.script = s.script := congrArg (·.2.1) h.record

theorem calls (h : s.Follows w) : w.calls = s.calls := congrArg (·.2.2) h.record

theorem arm (h : s.Follows w) : s.arm.Follows w.arm :=
  ⟨h.watched.arm, w.record_arm.trans h.record⟩

theorem acquire (h : s.Follows w) : s.acquire.2.Follows w.acquire := by
  unfold ScriptedTimer.acquire
  split
  · rename_i u taken
    exact ⟨h.watched.acquire taken, w.record_acquire.trans h.record⟩
  · rename_i refused
    rw [h.watched.refuse refused]
    exact h

theorem drop (h : s.Follows w) : s.drop.Follows w.drop := by
  unfold ScriptedTimer.drop
  split
  · rename_i held
    exact ⟨h.watched.drop held, w.record_drop.trans h.record⟩
  · rename_i free
    have free : ¬0 < w.tokens := h.watched.tokens ▸ free
    rw [IdleWatch.drop, if_neg free]
    exact h

theorem release (h : s.Follows w) : s.release.2.Follows w.release :=
  ⟨h.watched.release, w.record_release.trans h.record⟩

theorem expire (h : s.Follows w) : s.expire.2.Follows w.expire := by
  obtain ⟨released, still⟩ | ⟨live, notified⟩ := s.expire_cases
  · rw [still, IdleWatch.expire, if_pos (h.watched.released.trans released)]
    exact h
  · have live : ¬w.released = true := by simp [h.watched.released, live]
    rw [notified, IdleWatch.expire, if_neg live, ← h.script]
    exact follows_notify h.watched.spend h.calls

/-- A countdown that wakes calls the callback if the watch says so. -/
theorem turn {g : Nat} (h : s.Follows w) (due : g ∈ s.timer.due s.now) :
    ∃ w', (s.wakeCountdown g).Follows w' ∧ w'.now = w.now ∧ w'.settle = w.settle := by
  obtain ⟨vain, woken⟩ | ⟨u, fires, notified⟩ := s.wakeCountdown_cases g
  · rw [woken]
    exact ⟨w, ⟨h.watched.awaken vain, h.record⟩, rfl, rfl⟩
  · obtain ⟨rings, spent⟩ := h.watched.fire due fires
    rw [notified, ← h.script]
    exact ⟨w.call, follows_notify spent h.calls, congrArg (·.1) w.record_call,
      (IdleWatch.settle_of_due rings).symm⟩

/-- The watch has nothing due as long as every countdown sleeps. -/
theorem not_due_of_ahead (h : s.Follows w) {m : Nat}
    (asleep : ∀ c ∈ s.timer.countdowns, w.now + m < c.due) :
    ¬{ w with now := w.now + m }.Due := by
  rintro ⟨free, -, due⟩
  have current := (h.watched.current (.inl (h.watched.tokens.symm.trans free)) (w.now + m)).2 due
  exact Nat.lt_irrefl _ (asleep _ current)

/-- The clock moves on while every countdown sleeps. -/
theorem wait (h : s.Follows w) {limit : Nat} (later : s.now < n) (within : n ≤ limit)
    (alarms : ∀ c ∈ s.timer.countdowns, n ≤ c.due) :
    { s with now := n }.Follows { w with now := n } ∧
      { w with now := n }.pass (limit - n) = w.pass (limit - s.now) := by
  have now : w.now = s.now := h.watched.now
  refine ⟨⟨?_, ?_⟩, ?_⟩
  · exact ⟨⟨rfl, h.watched.window, h.watched.tokens, h.watched.released, h.watched.retired,
      h.watched.young, alarms, h.watched.spent⟩, h.watched.current⟩
  · exact Prod.ext rfl (Prod.ext h.script h.calls)
  · have quiet : ∀ m < n - s.now, ¬{ w with now := w.now + m }.Due := fun m less =>
      h.not_due_of_ahead fun c hc => by
        have := alarms c hc
        omega
    have split : limit - s.now = n - s.now + (limit - n) := by omega
    rw [split, IdleWatch.pass_of_quiet (limit - n) (n - s.now) quiet, now,
      Nat.add_sub_of_le (Nat.le_of_lt later)]

end Follows

end ScriptedTimer

end CameraBroker
