import CameraBroker.Proofs.TimerRuns

/-! What becomes of a notification that is refused. A timer without tokens notifies again exactly one
window later, unless somebody interferes. While a token is held its countdown wakes in vain, and
nothing follows. -/
namespace CameraBroker.ScriptedTimer

/-- One thing that happens to a timer. Time passes by turns of its countdowns and by waits. -/
inductive Step : ScriptedTimer → ScriptedTimer → Prop where
  | arm (s : ScriptedTimer) : Step s s.arm
  | acquire (s : ScriptedTimer) : Step s s.acquire.2
  | drop (s : ScriptedTimer) : Step s s.drop
  | release (s : ScriptedTimer) : Step s s.release.2
  | expire (s : ScriptedTimer) : Step s s.expire.2
  | time {limit : Nat} {s s' : ScriptedTimer} (move : Machine.Move limit s s') : Step s s'

/-- What does not interfere with a countdown: an acquire that is refused, the drop of a token that is
not the last, and time. -/
inductive Spares : ScriptedTimer → ScriptedTimer → Prop where
  | refuse {s : ScriptedTimer} (released : s.timer.released = true) : Spares s s.acquire.2
  | drop {s : ScriptedTimer} (others : s.timer.tokens ≠ 1) : Spares s s.drop
  | time {limit : Nat} {s s' : ScriptedTimer} (move : Machine.Move limit s s') : Spares s s'

/-- The step from `u` called the callback, which answered that it did not deliver. -/
def Refused (u v : ScriptedTimer) : Prop :=
  v.history = .returned v.now false :: .entered v.now :: u.history

def retryAt (v : ScriptedTimer) : Nat := v.now + v.timer.window

variable {u v s s' : ScriptedTimer} {w : IdleWatch}

section Steps

theorem Follows.move {limit : Nat} (h : s.Follows w) (move : Machine.Move limit s s') :
    ∃ w', s'.Follows w' := by
  cases move with
  | turn due =>
    obtain ⟨w', follows, -⟩ := h.turn due
    exact ⟨w', follows⟩
  | wait rests later within alarms =>
    obtain ⟨follows, -⟩ := h.wait later within fun c hc => alarms _ (List.mem_map.2 ⟨c, hc, rfl⟩)
    exact ⟨_, follows⟩

theorem Follows.step (h : s.Follows w) (step : Step s s') : ∃ w', s'.Follows w' := by
  cases step with
  | arm => exact ⟨_, h.arm⟩
  | acquire => exact ⟨_, h.acquire⟩
  | drop => exact ⟨_, h.drop⟩
  | release => exact ⟨_, h.release⟩
  | expire => exact ⟨_, h.expire⟩
  | time move => exact h.move move

theorem Spares.step (spares : Spares s s') : Step s s' := by
  cases spares with
  | refuse => exact .acquire s
  | drop => exact .drop s
  | time move => exact .time move

/-- Every state that a fresh timer comes to is followed by a watch. -/
theorem Follows.steps (h : s.Follows w) (steps : Relation.ReflTransGen Step s s') :
    ∃ w', s'.Follows w' := by
  induction steps with
  | refl => exact ⟨w, h⟩
  | tail _ step ih =>
    obtain ⟨w', follows⟩ := ih
    exact follows.step step

/-- An acquire that is refused changes nothing. -/
theorem acquire_of_released (released : s.timer.released = true) : s.acquire.2 = s := by
  rw [acquire, IdleTimer.acquire?_eq_none.2 released]

theorem now_le_of_move {limit : Nat} (move : Machine.Move limit s s') : s.now ≤ s'.now := by
  cases move with
  | @turn g due => exact Nat.le_of_eq (s.now_wakeCountdown g).symm
  | wait rests later => exact Nat.le_of_lt later

theorem now_drop (s : ScriptedTimer) : s.drop.now = s.now := by
  unfold drop
  split <;> rfl

theorem Spares.now_le (spares : Spares s s') : s.now ≤ s'.now := by
  cases spares with
  | refuse released => exact Nat.le_of_eq (congrArg (·.now) (acquire_of_released released).symm)
  | drop => exact Nat.le_of_eq (now_drop s).symm
  | time move => exact now_le_of_move move

theorem calls_eq (s : ScriptedTimer) : s.calls = entries s.history := rfl

theorem entries_append (more past : List CallEvent) :
    entries (more ++ past) = entries past ++ entries more := by
  simp [entries]

/-- Whatever happens, calls that were made stay on record. -/
theorem Proceeds.history (proceeds : s.Proceeds s') : ∃ more, s'.history = more ++ s.history := by
  induction proceeds with
  | refl => exact ⟨[], rfl⟩
  | tail _ progress ih =>
    obtain ⟨more, same⟩ := ih
    cases progress with
    | silent history => exact ⟨more, history.trans same⟩
    | @calls n delivered live history =>
      exact ⟨.returned n delivered :: .entered n :: more, by rw [history, same]; rfl⟩

theorem Spares.proceeds (spares : Spares s s') : s.Proceeds s' := by
  cases spares with
  | refuse => exact .single (.acquire s)
  | drop => exact (Performs.drop s).proceeds
  | time move => exact .single (.move move)

end Steps

section Refusal

/-- What the callback of a released timer that answers in vain leaves behind. -/
theorem Refused.timer_of_notify {n : Nat} {t : IdleTimer} {script : List Answer}
    (spent : t.released = true)
    (refused : Refused u (notify n script t u.history))
    (kept : (notify n script t u.history).timer.retired = false) :
    ∃ t' : IdleTimer, (notify n script t u.history).timer =
      { t' with released := false }.start (notify n script t u.history).now := by
  rw [Refused, notify_of_released spent] at refused
  rw [notify_of_released spent] at kept ⊢
  have vain : (Answer.next script).delivered = false := by
    simp only [List.cons.injEq, CallEvent.returned.injEq] at refused
    exact refused.1.2
  rw [IdleTimer.retired_answered] at kept
  refine ⟨t.hear (.next script), ?_⟩
  simp [IdleTimer.answered, vain, kept]

/-- A refused notification leaves a live timer that counts down over one window. -/
theorem Step.timer_of_refused (step : Step u v) (refused : Refused u v)
    (kept : v.timer.retired = false) :
    ∃ t : IdleTimer, v.timer = { t with released := false }.start v.now := by
  have longer : v.history ≠ u.history := by
    intro same
    have lengths := congrArg List.length (same.symm.trans refused)
    simp only [List.length_cons] at lengths
    omega
  cases step with
  | arm => exact absurd rfl longer
  | acquire =>
    refine absurd ?_ longer
    unfold ScriptedTimer.acquire
    split <;> rfl
  | drop =>
    refine absurd ?_ longer
    unfold ScriptedTimer.drop
    split <;> rfl
  | release => exact absurd rfl longer
  | expire =>
    obtain ⟨-, still⟩ | ⟨-, notified⟩ := u.expire_cases
    · exact absurd (congrArg (·.history) still) longer
    · rw [notified] at refused kept ⊢
      exact refused.timer_of_notify rfl kept
  | time move =>
    cases move with
    | @turn g due =>
      have turned : Machine.resume g u = u.wakeCountdown g := rfl
      rw [turned] at refused kept longer ⊢
      obtain ⟨-, woken⟩ | ⟨t, fires, notified⟩ := u.wakeCountdown_cases g
      · exact absurd (by rw [woken]) longer
      · rw [notified] at refused kept ⊢
        exact refused.timer_of_notify (IdleTimer.released_of_fire fires) kept
    | wait => exact absurd rfl longer

end Refusal

section Retry

structure Awaits (v s : ScriptedTimer) : Prop where
  live : s.timer.released = false
  current : ⟨s.timer.generation, v.retryAt⟩ ∈ s.timer.countdowns
  history : s.history = v.history

structure Retried (v s : ScriptedTimer) : Prop where
  due : v.retryAt ≤ s.now
  calls : ∃ later, s.calls = v.calls ++ v.retryAt :: later

/-- A countdown under way ends in a call, or goes on. -/
theorem Awaits.spares (h : v.Awaits s) (follows : s.Follows w) (free : s.timer.tokens = 0)
    (spares : Spares s s') : v.Awaits s' ∧ s'.timer.tokens = 0 ∨ v.Retried s' := by
  cases spares with
  | refuse released => cases h.live.symm.trans released
  | drop others =>
    have still : s.drop = s := if_neg (by omega)
    rw [still]
    exact .inl ⟨h, free⟩
  | time move =>
    cases move with
    | wait => exact .inl ⟨⟨h.live, h.current, h.history⟩, free⟩
    | @turn g due =>
      change v.Awaits (s.wakeCountdown g) ∧ (s.wakeCountdown g).timer.tokens = 0 ∨
        v.Retried (s.wakeCountdown g)
      obtain ⟨vain, woken⟩ | ⟨t, fires, notified⟩ := s.wakeCountdown_cases g
      · have other : s.timer.generation ≠ g := by
          rintro rfl
          simp [IdleTimer.fire?, IdleTimer.awaken, h.live, free] at vain
        rw [woken]
        exact .inl ⟨⟨h.live, IdleTimer.mem_awaken.2 ⟨h.current, other⟩, h.history⟩, free⟩
      · -- The only countdown of the current generation is the one that was started in `v`.
        have current : s.timer.generation = g := (IdleTimer.able_of_fire fires).2
        obtain ⟨⟨g', d⟩, hc, same⟩ := List.mem_map.1 due
        obtain ⟨mem, past⟩ := List.mem_filter.1 hc
        obtain rfl : g' = s.timer.generation := same.trans current.symm
        have watched := follows.watched.current (.inl free)
        have only : d = v.retryAt :=
          Option.some.inj (((watched d).1 mem).symm.trans ((watched v.retryAt).1 h.current))
        have now : s.now = v.retryAt := Nat.le_antisymm
          (follows.watched.ahead _ h.current) (only ▸ of_decide_eq_true past)
        have spent := IdleTimer.released_of_fire fires
        refine .inr ⟨?_, [], ?_⟩
        · exact Nat.le_of_eq (now.symm.trans (now_wakeCountdown g s).symm)
        · rw [notified, notify_of_released spent, calls_eq, calls_eq, now, h.history]
          simp [entries]

theorem Retried.spares (h : v.Retried s) (spares : Spares s s') : v.Retried s' := by
  obtain ⟨more, history⟩ := Proceeds.history spares.proceeds
  obtain ⟨later, calls⟩ := h.calls
  refine ⟨Nat.le_trans h.due spares.now_le, later ++ entries more, ?_⟩
  have grows : s'.calls = s.calls ++ entries more := by
    rw [calls_eq, calls_eq, history, entries_append]
  rw [grows, calls]
  exact List.append_assoc _ _ _

/-- As long as nobody interferes, the countdown that a refusal started is under way or has ended in a
call. -/
theorem Awaits.undisturbed (h : v.Awaits v) (follows : v.Follows w) (free : v.timer.tokens = 0)
    (spares : Relation.ReflTransGen Spares v s) :
    v.Awaits s ∧ s.timer.tokens = 0 ∨ v.Retried s := by
  suffices both : (∃ w', s.Follows w') ∧ (v.Awaits s ∧ s.timer.tokens = 0 ∨ v.Retried s) from
    both.2
  induction spares with
  | refl => exact ⟨⟨w, follows⟩, .inl ⟨h, free⟩⟩
  | tail _ spares ih =>
    obtain ⟨⟨w', follows⟩, still | retried⟩ := ih
    · exact ⟨follows.step spares.step, still.1.spares follows still.2 spares⟩
    · exact ⟨follows.step spares.step, .inr (retried.spares spares)⟩

/-- While a token is held, a live timer calls nobody. -/
theorem Spares.held (spares : Spares s s') (live : s.timer.released = false)
    (held : 0 < s.timer.tokens) :
    s'.timer.released = false ∧ 0 < s'.timer.tokens ∧ s'.history = s.history := by
  cases spares with
  | refuse released => cases live.symm.trans released
  | drop others =>
    have dropped : s.drop = s.giveBack := if_pos held
    rw [dropped]
    refine ⟨(IdleTimer.released_giveBack s.now).trans live, ?_, rfl⟩
    have fewer : s.giveBack.timer.tokens = s.timer.tokens - 1 := IdleTimer.tokens_giveBack s.now
    omega
  | time move =>
    cases move with
    | wait => exact ⟨live, held, rfl⟩
    | @turn g due =>
      change (s.wakeCountdown g).timer.released = false ∧ 0 < (s.wakeCountdown g).timer.tokens ∧
        (s.wakeCountdown g).history = s.history
      obtain ⟨-, woken⟩ | ⟨t, fires, -⟩ := s.wakeCountdown_cases g
      · rw [woken]
        exact ⟨live, held, rfl⟩
      · have none : s.timer.tokens = 0 := (IdleTimer.able_of_fire fires).1
        omega

theorem history_of_held (live : v.timer.released = false) (held : 0 < v.timer.tokens)
    (spares : Relation.ReflTransGen Spares v s) : s.history = v.history := by
  suffices all : s.timer.released = false ∧ 0 < s.timer.tokens ∧ s.history = v.history from
    all.2.2
  induction spares with
  | refl => exact ⟨live, held, rfl⟩
  | tail _ spares ih =>
    obtain ⟨live, held, same⟩ := ih
    obtain ⟨live', held', same'⟩ := spares.held live held
    exact ⟨live', held', same'.trans same⟩

end Retry

/-- Whatever was done with a timer before, a refused notification of a timer without tokens is followed
by another one exactly one window later, as long as nobody interferes, and time can pass until then.
If a token is held when the notification is refused, then nothing follows while one stays held. -/
theorem refusal_retried {now window : Nat} {script : List Answer}
    (before : Relation.ReflTransGen Step (fresh now window script) u) (step : Step u v)
    (refused : Refused u v) (kept : v.timer.retired = false) :
    (v.timer.tokens = 0 →
      (∀ s, Relation.ReflTransGen Spares v s → Machine.ready s = [] →
        (s.now < v.retryAt → s.calls = v.calls) ∧
        (v.retryAt ≤ s.now → ∃ later, s.calls = v.calls ++ v.retryAt :: later)) ∧
      ∃ s, Relation.ReflTransGen Spares v s ∧ Machine.ready s = [] ∧ s.now = v.retryAt) ∧
    (0 < v.timer.tokens → ∀ s, Relation.ReflTransGen Spares v s → s.calls = v.calls) := by
  obtain ⟨t, started⟩ := step.timer_of_refused refused kept
  have live : v.timer.released = false := by rw [started]; rfl
  obtain ⟨w, follows⟩ := (follows_fresh now window script).steps (before.tail step)
  have quiet : ∀ s : ScriptedTimer, s.history = v.history → s.calls = v.calls := by
    intro s same
    rw [calls, calls, same]
  refine ⟨fun free => ⟨fun s spares rests => ?_, ?_⟩, fun held s spares =>
    quiet s (history_of_held live held spares)⟩
  · have current : ⟨v.timer.generation, v.retryAt⟩ ∈ v.timer.countdowns := by
      rw [retryAt, started]
      simp [IdleTimer.start]
    have awaits : v.Awaits v := ⟨live, current, rfl⟩
    obtain ⟨awaits, -⟩ | retried := awaits.undisturbed follows free spares
    · have asleep := lt_due_of_rests rests _ awaits.current
      exact ⟨fun _ => quiet s awaits.history, fun late => absurd asleep (Nat.not_lt.2 late)⟩
    · exact ⟨fun early => absurd retried.due (Nat.not_le.2 early), fun _ => retried.calls⟩
  · have later : v.retryAt = v.now + v.timer.window := rfl
    obtain ⟨s, passes⟩ := exists_passes v.timer.window later
    exact ⟨s, passes.moves.lift id fun _ _ move => .time move, passes.rests, passes.now⟩

def refusedExpiry : ScriptedTimer := (fresh 0 1000 [{ delivered := false }]).expire.2

theorem refusal_retried_once : ∃ s, Relation.ReflTransGen Spares refusedExpiry s ∧
    s.now = 1000 ∧ ∃ later, s.calls = 0 :: 1000 :: later := by
  obtain ⟨retry, -⟩ := refusal_retried (v := refusedExpiry) .refl (.expire _) rfl rfl
  obtain ⟨calls, s, spares, rests, now⟩ := retry rfl
  have late : refusedExpiry.retryAt ≤ s.now := Nat.le_of_eq now.symm
  exact ⟨s, spares, now, (calls s spares rests).2 late⟩

/-- The same while a token is held. -/
def refusedWhileHeld : ScriptedTimer := (fresh 0 1000 [{ delivered := false }]).acquire.2

/-- A refused notification is not always followed by another one, although nobody interferes. -/
theorem held_token_stops_retry : ¬∀ (now window : Nat) (script : List Answer)
    (u v s : ScriptedTimer), Relation.ReflTransGen Step (fresh now window script) u → Step u v →
    Refused u v → v.timer.retired = false → Relation.ReflTransGen Spares v s →
    Machine.ready s = [] → v.retryAt ≤ s.now →
    ∃ later, s.calls = v.calls ++ v.retryAt :: later := by
  intro retried
  have before : Relation.ReflTransGen Step (fresh 0 1000 [{ delivered := false }])
      refusedWhileHeld := .single (.acquire _)
  have late : 1000 = refusedWhileHeld.expire.2.now + 1000 := rfl
  obtain ⟨s, passes⟩ := exists_passes 1000 late
  have spares : Relation.ReflTransGen Spares refusedWhileHeld.expire.2 s :=
    passes.moves.lift id fun _ _ move => .time move
  obtain ⟨later, again⟩ := retried 0 1000 _ refusedWhileHeld refusedWhileHeld.expire.2 s before
    (.expire _) rfl rfl spares passes.rests (Nat.le_of_eq passes.now.symm)
  have once : s.history = refusedWhileHeld.expire.2.history :=
    history_of_held rfl (by decide) spares
  rw [calls, once] at again
  have lengths := congrArg List.length again
  simp [calls] at lengths

end CameraBroker.ScriptedTimer
