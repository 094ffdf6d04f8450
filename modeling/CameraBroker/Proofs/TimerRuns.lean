import CameraBroker.Proofs.WatchedTimer
import Mathlib.Logic.Relation

/-! Runs of an idle timer. Between two operations time passes: the countdowns that are due wake in
any order, and the clock never moves past one that sleeps. Whatever the order, the callback is called
exactly when a watch calls it. -/
namespace CameraBroker

namespace Machine
variable {σ τ : Type} [Machine σ τ]

/-- What time brings before a limit: a turn of a task or, once no task can go on, a later instant
that nobody sleeps beyond. -/
inductive Move (limit : Nat) : σ → σ → Prop where
  | turn {s : σ} {t : τ} (ready : t ∈ Machine.ready s) : Move limit s (Machine.resume t s)
  | wait {s : σ} {n : Nat} (rests : Machine.ready s = []) (later : Machine.now s < n)
      (within : n ≤ limit) (alarms : ∀ x ∈ Machine.sleepers s, n ≤ x.2) :
      Move limit s (Machine.setNow n s)

structure Passes (limit : Nat) (s s' : σ) : Prop where
  moves : Relation.ReflTransGen (Move limit) s s'
  now : Machine.now s' = limit
  rests : Machine.ready s' = []

end Machine

namespace ScriptedTimer
variable {s s' : ScriptedTimer} {w : IdleWatch} {op : TimerOp} {ops : List TimerOp} {limit ms : Nat}

inductive Performs : TimerOp → ScriptedTimer → ScriptedTimer → Prop where
  | arm (s : ScriptedTimer) : Performs .arm s s.arm
  | acquire (s : ScriptedTimer) : Performs .acquire s s.acquire.2
  | drop (s : ScriptedTimer) : Performs .drop s s.drop
  | release (s : ScriptedTimer) : Performs .release s s.release.2
  | expire (s : ScriptedTimer) : Performs .expire s s.expire.2
  | pass {ms : Nat} {s s' : ScriptedTimer} (passes : Machine.Passes (s.now + ms) s s') :
      Performs (.pass ms) s s'

inductive Runs : List TimerOp → ScriptedTimer → ScriptedTimer → Prop where
  | nil (s : ScriptedTimer) : Runs [] s s
  | cons {op : TimerOp} {ops : List TimerOp} {s u s' : ScriptedTimer} (first : Performs op s u)
      (rest : Runs ops u s') : Runs (op :: ops) s s'

section Following

theorem Follows.moves (h : s.Follows w)
    (moves : Relation.ReflTransGen (Machine.Move limit) s s') :
    ∃ w', s'.Follows w' ∧ w'.pass (limit - s'.now) = w.pass (limit - s.now) := by
  -- A move may leave calls of the same instant to come, so the watches are compared at the limit.
  induction moves with
  | refl => exact ⟨w, h, rfl⟩
  | @tail u _ _ move ih =>
    obtain ⟨v, follows, same⟩ := ih
    rw [← same]
    cases move with
    | @turn g due =>
      obtain ⟨w', follows', now, settles⟩ := follows.turn due
      have still : (Machine.resume g u).now = u.now := by
        rw [← follows.watched.now, ← now]
        exact follows'.watched.now.symm
      exact ⟨w', follows', by rw [still, IdleWatch.pass, settles, IdleWatch.pass]⟩
    | wait rests later within alarms =>
      obtain ⟨follows', passes⟩ := follows.wait later within fun c hc =>
        alarms _ (List.mem_map.2 ⟨c, hc, rfl⟩)
      exact ⟨_, follows', passes⟩

theorem lt_due_of_rests (rests : Machine.ready s = []) :
    ∀ c ∈ s.timer.countdowns, s.now < c.due := by
  intro c hc
  by_contra past
  have due : c.generation ∈ Machine.ready s :=
    List.mem_map.2 ⟨c, List.mem_filter.2 ⟨hc, decide_eq_true (Nat.le_of_not_lt past)⟩, rfl⟩
  rw [rests] at due
  cases due

/-- While time passes, the callback is called exactly when the watch calls it. -/
theorem Follows.passes (h : s.Follows w) (passes : Machine.Passes (s.now + ms) s s') :
    s'.Follows (w.pass ms) := by
  obtain ⟨w', follows, same⟩ := h.moves passes.moves
  have now : s'.now = s.now + ms := passes.now
  have rests : ¬{ w' with now := w'.now + 0 }.Due := follows.not_due_of_ahead fun c hc => by
    rw [Nat.add_zero, follows.watched.now]
    exact lt_due_of_rests passes.rests c hc
  rw [now, Nat.sub_self, Nat.add_sub_cancel_left] at same
  have done : w' = w.pass ms := by
    rw [← same]
    exact (IdleWatch.settle_of_not_due rests).symm
  exact done ▸ follows

theorem Follows.performs (h : s.Follows w) (performs : Performs op s s') :
    s'.Follows (w.perform op) := by
  cases performs with
  | arm => exact h.arm
  | acquire => exact h.acquire
  | drop => exact h.drop
  | release => exact h.release
  | expire => exact h.expire
  | pass passes => exact h.passes passes

theorem Follows.runs (h : s.Follows w) (runs : Runs ops s s') : s'.Follows (w.run ops) := by
  induction runs generalizing w with
  | nil => exact h
  | cons first rest ih => exact ih (h.performs first)

end Following

section Existence

/-- What can still happen at one instant: answers that may be given, countdowns that may wake. -/
def load (s : ScriptedTimer) : Nat := s.script.length + s.timer.countdowns.length

theorem load_notify {n : Nat} {t : IdleTimer} {past : List CallEvent}
    (spent : t.released = true) (script : List Answer) :
    (notify n script t past).load ≤ script.length + t.countdowns.length := by
  have heard : (t.hear (.next script)).countdowns = t.countdowns := by
    unfold IdleTimer.hear
    split <;> rfl
  rw [notify_of_released spent]
  cases script with
  | nil => simp [load, IdleTimer.answered, Answer.next, IdleTimer.hear]
  | cons a rest =>
    unfold load IdleTimer.answered
    split
    · simp only [heard, List.tail_cons, List.length_cons]
      omega
    · simp only [IdleTimer.start, heard, List.tail_cons, List.length_append, List.length_cons,
        List.length_nil]
      omega

theorem load_wakeCountdown {g : Nat} (due : g ∈ s.timer.due s.now) :
    (s.wakeCountdown g).load < s.load := by
  have fewer : (s.timer.awaken g).countdowns.length < s.timer.countdowns.length := by
    obtain ⟨c, hc, generation⟩ := List.mem_map.1 due
    refine List.length_filter_lt_length_iff_exists.2 ⟨c, (List.mem_filter.1 hc).1, ?_⟩
    simp [generation]
  obtain ⟨-, woken⟩ | ⟨u, fires, notified⟩ := s.wakeCountdown_cases g
  · rw [woken]
    exact Nat.add_lt_add_left fewer _
  · have same := IdleTimer.countdowns_of_fire fires
    have spent : (notify s.now s.script u s.history).load ≤
        s.script.length + u.countdowns.length :=
      load_notify (IdleTimer.released_of_fire fires) s.script
    rw [notified]
    exact Nat.lt_of_le_of_lt spent (Nat.add_lt_add_left (same ▸ fewer) _)

theorem now_wakeCountdown (g : Nat) (s : ScriptedTimer) : (s.wakeCountdown g).now = s.now := by
  obtain ⟨-, woken⟩ | ⟨u, fires, notified⟩ := s.wakeCountdown_cases g
  · rw [woken]
  · rw [notified, notify_of_released (IdleTimer.released_of_fire fires)]

/-- The countdowns that are due wake one after the other, until none is due. -/
theorem exists_rests (limit : Nat) (s : ScriptedTimer) :
    ∃ s', Relation.ReflTransGen (Machine.Move limit) s s' ∧ s'.now = s.now ∧
      Machine.ready s' = [] := by
  cases ready : Machine.ready s with
  | nil => exact ⟨s, .refl, rfl, ready⟩
  | cons g more =>
    have due : g ∈ Machine.ready s := ready ▸ List.mem_cons_self
    have less := load_wakeCountdown due
    obtain ⟨s', moves, now, rests⟩ := exists_rests limit (s.wakeCountdown g)
    exact ⟨s', .head (.turn due) moves, now.trans (now_wakeCountdown g s), rests⟩
termination_by s.load

/-- Time can always pass. -/
theorem exists_passes (k : Nat) {s : ScriptedTimer} (later : limit = s.now + k) :
    ∃ s', Machine.Passes limit s s' := by
  induction k generalizing s with
  | zero =>
    obtain ⟨s', moves, now, rests⟩ := exists_rests limit s
    exact ⟨s', moves, now.trans later.symm, rests⟩
  | succ k ih =>
    obtain ⟨u, moves, now, rests⟩ := exists_rests limit s
    have wait : Machine.Move limit u { u with now := u.now + 1 } := by
      refine .wait rests (Nat.lt_succ_self _) (by omega) fun x hx => ?_
      obtain ⟨c, hc, rfl⟩ := List.mem_map.1 hx
      exact lt_due_of_rests rests c hc
    obtain ⟨s', passes⟩ := ih (s := { u with now := u.now + 1 }) (by
      rw [later, now, Nat.add_right_comm, Nat.add_assoc])
    exact ⟨s', moves.trans (.head wait passes.moves), passes.now, passes.rests⟩

theorem exists_runs (ops : List TimerOp) (s : ScriptedTimer) : ∃ s', Runs ops s s' := by
  induction ops generalizing s with
  | nil => exact ⟨s, .nil s⟩
  | cons op ops ih =>
    have first : ∃ u, Performs op s u := by
      cases op with
      | arm => exact ⟨_, .arm s⟩
      | acquire => exact ⟨_, .acquire s⟩
      | drop => exact ⟨_, .drop s⟩
      | release => exact ⟨_, .release s⟩
      | expire => exact ⟨_, .expire s⟩
      | pass ms =>
        obtain ⟨u, passes⟩ := exists_passes ms (s := s) rfl
        exact ⟨u, .pass passes⟩
    obtain ⟨u, first⟩ := first
    obtain ⟨s', rest⟩ := ih u
    exact ⟨s', .cons first rest⟩

end Existence

section Calls

inductive Sequential : List CallEvent → Prop where
  | nil : Sequential []
  | call {past : List CallEvent} (n : Nat) (delivered : Bool) (before : Sequential past) :
      Sequential (.returned n delivered :: .entered n :: past)

/-- The timer was released on purpose, or a notification of its was delivered. -/
def Done (s : ScriptedTimer) : Prop :=
  s.timer.retired = true ∨ ∃ n, .returned n true ∈ s.history

inductive Progress (s s' : ScriptedTimer) : Prop where
  | silent (history : s'.history = s.history)
      (released : s.timer.released = true → s'.timer.released = true)
      (retired : s'.timer.retired = s.timer.retired ∨
        s'.timer.retired = true ∧ s'.timer.released = true)
  | calls {n : Nat} {delivered : Bool} (live : s.timer.released = false)
      (history : s'.history = .returned n delivered :: .entered n :: s.history)
      (retired : s.timer.retired = true → s'.timer.retired = true)
      (last : delivered = true ∨ s'.timer.retired = true → s'.timer.released = true)

/-- The calls so far did not overlap, and a timer that is done is released. -/
structure Orderly (s : ScriptedTimer) : Prop where
  sequential : Sequential s.history
  released : s.Done → s.timer.released = true

theorem Progress.orderly (progress : Progress s s') (h : s.Orderly) : s'.Orderly := by
  cases progress with
  | silent history released retired =>
    refine ⟨history ▸ h.sequential, fun done => ?_⟩
    rcases retired with same | ⟨-, done⟩
    · exact released (h.released (by rwa [Done, history, same] at done))
    · exact done
  | @calls n delivered live history retired last =>
    refine ⟨history ▸ .call n delivered h.sequential, fun done => ?_⟩
    rcases done with retired | ⟨m, mem⟩
    · exact last (.inr retired)
    · rw [history] at mem
      rcases List.mem_cons.1 mem with same | mem
      · cases same
        exact last (.inl rfl)
      · have old : .returned m true ∈ s.history := (List.mem_cons.1 mem).resolve_left nofun
        cases live.symm.trans (h.released (.inr ⟨m, old⟩))

/-- A timer that is done calls nobody any more. -/
theorem Progress.quiet (progress : Progress s s') (h : s.Orderly) (done : s.Done) :
    s'.history = s.history ∧ s'.Done := by
  cases progress with
  | silent history released retired =>
    refine ⟨history, ?_⟩
    rcases retired with same | ⟨retired, -⟩
    · rwa [Done, history, same]
    · exact .inl retired
  | calls live => cases live.symm.trans (h.released done)

theorem Progress.retired (progress : Progress s s') (retired : s.timer.retired = true) :
    s'.timer.retired = true := by
  cases progress with
  | silent history released retires =>
    rcases retires with same | ⟨retired, -⟩
    · exact same.trans retired
    · exact retired
  | calls live history retires last => exact retires retired

/-- Only the timer's generation, tokens and countdowns change. -/
theorem Progress.of_timer {t : IdleTimer} {n : Nat} (released : t.released = s.timer.released)
    (retired : t.retired = s.timer.retired) : Progress s { s with now := n, timer := t } :=
  .silent rfl released.trans (.inl retired)

theorem progress_notify {t : IdleTimer} (live : s.timer.released = false)
    (spent : t.released = true) (retired : t.retired = s.timer.retired) :
    Progress s (notify s.now s.script t s.history) := by
  have heard : (t.hear (.next s.script)).released = true ∧
      (t.retired = true → (t.hear (.next s.script)).retired = true) := by
    unfold IdleTimer.hear
    split
    · exact ⟨spent, fun _ => rfl⟩
    · exact ⟨spent, id⟩
  rw [notify_of_released spent]
  refine .calls live rfl (fun before => ?_) fun final => ?_
  · rw [IdleTimer.retired_answered]
    exact heard.2 (retired.trans before)
  · rw [IdleTimer.retired_answered] at final
    rw [IdleTimer.answered, if_pos final]
    exact heard.1

namespace Progress

theorem wake (g : Nat) (s : ScriptedTimer) : Progress s (s.wakeCountdown g) := by
  obtain ⟨-, woken⟩ | ⟨u, fires, notified⟩ := s.wakeCountdown_cases g
  · rw [woken]
    exact .of_timer rfl rfl
  · have live : (s.timer.awaken g).released = false := IdleTimer.live_of_fire fires
    have retired : u.retired = (s.timer.awaken g).retired := IdleTimer.retired_of_fire fires
    rw [notified]
    exact progress_notify live (IdleTimer.released_of_fire fires) retired

theorem move (move : Machine.Move limit s s') : Progress s s' := by
  cases move with
  | turn due => exact .wake _ s
  | wait => exact .of_timer rfl rfl

theorem arm (s : ScriptedTimer) : Progress s s.arm := by
  unfold ScriptedTimer.arm IdleTimer.arm
  split
  · exact .of_timer rfl rfl
  · exact .of_timer rfl rfl

theorem acquire (s : ScriptedTimer) : Progress s s.acquire.2 := by
  unfold ScriptedTimer.acquire
  split
  · rename_i u taken
    unfold IdleTimer.acquire? at taken
    split at taken
    · cases taken
    · cases taken
      exact .of_timer rfl rfl
  · exact .of_timer rfl rfl

theorem release (s : ScriptedTimer) : Progress s s.release.2 := by
  refine .silent rfl (fun _ => IdleTimer.released_release) (.inr ⟨?_, IdleTimer.released_release⟩)
  unfold ScriptedTimer.release IdleTimer.release
  split <;> rfl

theorem expire (s : ScriptedTimer) : Progress s s.expire.2 := by
  obtain ⟨released, still⟩ | ⟨live, notified⟩ := s.expire_cases
  · rw [still]
    exact .of_timer rfl rfl
  · rw [notified]
    exact progress_notify live rfl rfl

end Progress

abbrev Proceeds : ScriptedTimer → ScriptedTimer → Prop := Relation.ReflTransGen Progress

theorem Performs.proceeds (performs : Performs op s s') : s.Proceeds s' := by
  cases performs with
  | arm => exact .single (.arm s)
  | acquire => exact .single (.acquire s)
  | drop =>
    unfold ScriptedTimer.drop
    split
    · let less := { s with timer := { s.timer with tokens := s.timer.tokens - 1 } }
      have first : Progress s less := .of_timer rfl rfl
      exact .head first (.single (.arm less))
    · exact .refl
  | release => exact .single (.release s)
  | expire => exact .single (.expire s)
  | pass passes => exact passes.moves.lift id fun _ _ => Progress.move

theorem Runs.proceeds (runs : Runs ops s s') : s.Proceeds s' := by
  induction runs with
  | nil => exact .refl
  | cons first rest ih => exact first.proceeds.trans ih

theorem Orderly.proceeds (h : s.Orderly) (proceeds : s.Proceeds s') : s'.Orderly := by
  induction proceeds with
  | refl => exact h
  | tail _ progress ih => exact progress.orderly ih

/-- Once a timer is done, it stays released and calls nobody. -/
theorem Orderly.quiet (h : s.Orderly) (done : s.Done) (proceeds : s.Proceeds s') :
    s'.history = s.history ∧ s'.timer.released = true := by
  have still : s'.history = s.history ∧ s'.Done ∧ s'.Orderly := by
    induction proceeds with
    | refl => exact ⟨rfl, done, h⟩
    | tail _ progress ih =>
      obtain ⟨history, done, h⟩ := ih
      obtain ⟨same, done⟩ := progress.quiet h done
      exact ⟨same.trans history, done, progress.orderly h⟩
  exact ⟨still.1, still.2.2.released still.2.1⟩

theorem retired_of_proceeds (retired : s.timer.retired = true) (proceeds : s.Proceeds s') :
    s'.timer.retired = true := by
  induction proceeds with
  | refl => exact retired
  | tail _ progress ih => exact progress.retired ih

/-- A timer that is released on purpose is retired from then on. -/
theorem Runs.retired (runs : Runs ops s s') (released : .release ∈ ops) :
    s'.timer.retired = true := by
  induction runs with
  | nil => cases released
  | cons first rest ih =>
    rcases List.mem_cons.1 released with rfl | later
    · -- It was the first operation, and what follows does not undo it.
      cases first
      refine retired_of_proceeds ?_ rest.proceeds
      unfold ScriptedTimer.release IdleTimer.release
      split <;> rfl
    · exact ih later

end Calls

def fresh (now window : Nat) (script : List Answer) : ScriptedTimer :=
  { now, timer := { window }, script }

theorem follows_fresh (now window : Nat) (script : List Answer) :
    (fresh now window script).Follows { now, window, script } := by
  refine ⟨⟨⟨rfl, rfl, rfl, rfl, rfl, nofun, nofun, fun _ => rfl⟩, fun _ d => ?_⟩, rfl⟩
  simp [fresh]

theorem orderly_fresh (now window : Nat) (script : List Answer) :
    (fresh now window script).Orderly := by
  refine ⟨.nil, fun done => ?_⟩
  obtain retired | ⟨n, mem⟩ := done
  · cases retired
  · cases mem

/-- Whatever is done with a timer, time can pass between. In every run the callback is called
exactly when a watch calls it, and it returns before it is entered again. Once the timer was released on
purpose, be it by its own callback, or a notification was delivered, it stays released and calls
nobody. -/
theorem fires_exactly (now window : Nat) (script : List Answer) (ops : List TimerOp) :
    (∃ s, Runs ops (fresh now window script) s) ∧
    ∀ s, Runs ops (fresh now window script) s →
      s.calls = (IdleWatch.run ops { now, window, script }).calls ∧
      s.timer.released = (IdleWatch.run ops { now, window, script }).released ∧
      Sequential s.history ∧
      (.release ∈ ops → s.timer.retired = true) ∧
      (s.timer.retired = true ∨ (∃ n, .returned n true ∈ s.history) →
        ∀ more s', Runs more s s' → s'.history = s.history ∧ s'.timer.released = true) := by
  refine ⟨exists_runs ops _, fun s runs => ?_⟩
  have follows := (follows_fresh now window script).runs runs
  have orderly := (orderly_fresh now window script).proceeds runs.proceeds
  exact ⟨follows.calls.symm, follows.watched.released.symm, orderly.sequential, runs.retired,
    fun done more s' later => orderly.quiet done later.proceeds⟩

/-- A timer is armed, its first notification is refused, and a token is taken for a while. -/
def refusedOnce : List TimerOp := [.arm, .pass 3, .acquire, .pass 5, .drop, .pass 4, .expire]

theorem fires_exactly_refusedOnce : ∃ s,
    Runs refusedOnce (fresh 0 2 [{ delivered := false }]) s ∧ s.calls = [2, 10] := by
  obtain ⟨⟨s, runs⟩, exact⟩ := fires_exactly 0 2 [{ delivered := false }] refusedOnce
  obtain ⟨calls, -⟩ := exact s runs
  have watched : (IdleWatch.run refusedOnce
      { now := 0, window := 2, script := [{ delivered := false }] }).calls = [2, 10] := by decide
  exact ⟨s, runs, calls.trans watched⟩

end ScriptedTimer

end CameraBroker
