import CameraBroker.Retry.Call
import Mathlib.Algebra.BigOperators.Intervals
import Mathlib.Logic.Function.Iterate

/-! How a call of an opener that retries goes. The backend is asked again after one interval until a
reply is final or no attempt is left, and the call ends with the last reply. -/
namespace CameraBroker

/-- Nothing is tried after this reply: it is a device, or an error that cannot pass. -/
def OpenReply.Final {δ : Type} (r : OpenReply δ) : Prop :=
  ∀ e, r.result = .error e → e.isRetryable = false

namespace RetryPolicy
variable {σ δ : Type} (p : RetryPolicy) (backend : Backend σ δ) (camera : CameraId)

/-- The instant of the attempt that follows one, and the backend's state then. -/
def next (x : Nat × σ) : Nat × σ :=
  (x.1 + (backend camera x.1 x.2).1.delay + p.interval, (backend camera x.1 x.2).2)

/-- The instant of the attempt that follows `i` others, and the backend's state then. -/
def moment (x : Nat × σ) (i : Nat) : Nat × σ := (p.next backend camera)^[i] x

def reply (x : Nat × σ) (i : Nat) : OpenReply δ :=
  (backend camera (p.moment backend camera x i).1 (p.moment backend camera x i).2).1

/-- Of at most `left` attempts the one that follows `last` others is the last: the others call for
another one, and after it none is left or its reply is final. -/
structure EndsAfter (x : Nat × σ) (left last : Nat) : Prop where
  within : last < left
  retried : ∀ i < last, ¬(p.reply backend camera x i).Final
  decided : last + 1 < left → (p.reply backend camera x last).Final

/-- Attempts with a pause between each two. Their numbers follow `first`. -/
def stepsUpTo (x : Nat × σ) (first last : Nat) : List CallStep :=
  ((List.range last).flatMap fun i =>
    [.ask camera (first + i + 1) (p.moment backend camera x i).1, .sleep p.interval]) ++
  [.ask camera (first + last + 1) (p.moment backend camera x last).1]

structure Reports (x : Nat × σ) (first last : Nat) (r : CallReport σ δ) : Prop where
  steps : r.steps = p.stepsUpTo backend camera x first last
  device : r.device = (p.reply backend camera x last).result.toOption
  finish : r.finish = (p.moment backend camera x last).1 + (p.reply backend camera x last).delay

variable {p backend camera} {x : Nat × σ} {left last number : Nat} {e : DeviceError}

theorem judge_eq_again :
    p.judge number e = .again ↔ e.isRetryable = true ∧ number < p.attempts := by
  simp [judge]

theorem judge_eq_giveUp :
    p.judge number e = .giveUp ↔ e.isRetryable = false ∨ p.attempts ≤ number := by
  cases retryable : e.isRetryable <;> simp [judge, retryable]

section moments

theorem moment_succ (i : Nat) : (p.moment backend camera x (i + 1)).1 =
    (p.moment backend camera x i).1 + (p.reply backend camera x i).delay + p.interval := by
  rw [moment, Function.iterate_succ_apply']
  rfl

/-- The time before an attempt is what the replies before it took and as many pauses. -/
theorem moment_eq_sum (i : Nat) : (p.moment backend camera x i).1 =
    x.1 + ∑ j ∈ Finset.range i, (p.reply backend camera x j).delay + i * p.interval := by
  induction i with
  | zero => simp [moment]
  | succ i ih =>
    rw [moment_succ, ih, Finset.sum_range_succ, Nat.succ_mul]
    omega

theorem stepsUpTo_zero (first : Nat) :
    p.stepsUpTo backend camera x first 0 = [.ask camera (first + 1) x.1] := rfl

theorem stepsUpTo_succ (first last : Nat) : p.stepsUpTo backend camera x first (last + 1) =
    [.ask camera (first + 1) x.1, .sleep p.interval] ++
      p.stepsUpTo backend camera (p.next backend camera x) (first + 1) last := by
  have shifted : ∀ i, first + (i + 1) + 1 = first + 1 + i + 1 := fun i => by omega
  simp [stepsUpTo, List.range_succ_eq_map, List.flatMap_map, shifted, moment]

theorem ask_of_mem_stepsUpTo {c : CameraId} {first instant : Nat}
    (mem : .ask c number instant ∈ p.stepsUpTo backend camera x first last) :
    c = camera ∧ first < number ∧ number ≤ first + last + 1 := by
  rcases List.mem_append.1 mem with before | final
  · obtain ⟨i, less, here⟩ := List.mem_flatMap.1 before
    have less := List.mem_range.1 less
    simp only [List.mem_cons, CallStep.ask.injEq, reduceCtorEq, List.not_mem_nil, or_false] at here
    exact ⟨here.1, by omega, by omega⟩
  · simp only [List.mem_singleton, CallStep.ask.injEq] at final
    exact ⟨final.1, by omega, by omega⟩

end moments

section attempts

theorem attemptsLeft_of_ok {d : δ} (yields : (p.reply backend camera x 0).result = .ok d) :
    ∃ events, p.attemptsLeft backend camera (left + 1) x.1 x.2 =
      ⟨some d, [.ask camera (p.attempts - left) x.1], x.1 + (p.reply backend camera x 0).delay,
        events, (p.next backend camera x).2⟩ := by
  have answer : (backend camera x.1 x.2).1 = p.reply backend camera x 0 := rfl
  simp [attemptsLeft, answer, yields, next]

theorem attemptsLeft_of_again (fails : (p.reply backend camera x 0).result = .error e)
    (verdict : p.judge (p.attempts - left) e = .again) :
    ∃ events, p.attemptsLeft backend camera (left + 1) x.1 x.2 =
      (p.attemptsLeft backend camera left (p.next backend camera x).1
        (p.next backend camera x).2).after
        [.ask camera (p.attempts - left) x.1, .sleep p.interval] events := by
  have answer : (backend camera x.1 x.2).1 = p.reply backend camera x 0 := rfl
  simp only [attemptsLeft, answer, fails, verdict, next]
  exact ⟨_, rfl⟩

theorem attemptsLeft_of_giveUp (fails : (p.reply backend camera x 0).result = .error e)
    (verdict : p.judge (p.attempts - left) e = .giveUp) :
    ∃ events, p.attemptsLeft backend camera (left + 1) x.1 x.2 =
      ⟨none, [.ask camera (p.attempts - left) x.1], x.1 + (p.reply backend camera x 0).delay,
        events, (p.next backend camera x).2⟩ := by
  have answer : (backend camera x.1 x.2).1 = p.reply backend camera x 0 := rfl
  simp [attemptsLeft, answer, fails, verdict, next]

/-- A reply that is followed by nothing ends the call. -/
theorem EndsAfter.first (decided : 0 < left → (p.reply backend camera x 0).Final) :
    p.EndsAfter backend camera x (left + 1) 0 :=
  ⟨left.succ_pos, nofun, fun more => decided (Nat.lt_of_succ_lt_succ more)⟩

/-- A reply that is not final puts the end off by one attempt. -/
theorem EndsAfter.later (again : ¬(p.reply backend camera x 0).Final)
    (rest : p.EndsAfter backend camera (p.next backend camera x) left last) :
    p.EndsAfter backend camera x (left + 1) (last + 1) := by
  refine ⟨Nat.succ_lt_succ rest.within, fun i less => ?_, fun more => ?_⟩
  · cases i with
    | zero => exact again
    | succ i => exact rest.retried i (Nat.lt_of_succ_lt_succ less)
  · exact rest.decided (Nat.lt_of_succ_lt_succ more)

/-- The attempts go on until a reply is final or none is left, and the last reply is what the call
comes to. -/
theorem attemptsLeft_reports (x : Nat × σ) (some : 0 < left) (within : left ≤ p.attempts) :
    ∃ last, p.EndsAfter backend camera x left last ∧ p.Reports backend camera x
      (p.attempts - left) last (p.attemptsLeft backend camera left x.1 x.2) := by
  induction left generalizing x with
  | zero => cases some
  | succ left ih =>
    have number : p.attempts - left = p.attempts - (left + 1) + 1 := by omega
    cases result : (p.reply backend camera x 0).result with
    | ok d =>
      obtain ⟨events, report⟩ := attemptsLeft_of_ok result
      refine ⟨0, .first fun _ e failed => (nomatch result.symm.trans failed), ?_⟩
      rw [report]
      exact ⟨by rw [stepsUpTo_zero, ← number], by rw [result]; rfl, rfl⟩
    | error e =>
      cases verdict : p.judge (p.attempts - left) e with
      | again =>
        obtain ⟨events, report⟩ := attemptsLeft_of_again result verdict
        obtain ⟨retryable, more⟩ := judge_eq_again.1 verdict
        have others : 0 < left := by omega
        obtain ⟨last, ends, rest⟩ := ih (p.next backend camera x) others (Nat.le_of_succ_le within)
        refine ⟨last + 1, .later (fun final => ?_) ends, ?_⟩
        · cases retryable.symm.trans (final e result)
        · rw [report]
          refine ⟨?_, rest.device, rest.finish⟩
          rw [stepsUpTo_succ, ← number, ← rest.steps]
          rfl
      | giveUp =>
        obtain ⟨events, report⟩ := attemptsLeft_of_giveUp result verdict
        have hopeless := judge_eq_giveUp.1 verdict
        refine ⟨0, .first fun more e' failed => ?_, ?_⟩
        · obtain rfl : e = e' := Except.error.inj (result.symm.trans failed)
          exact hopeless.resolve_right (by omega)
        · rw [report]
          exact ⟨by rw [stepsUpTo_zero, ← number], by rw [result]; rfl, rfl⟩

end attempts

/-- For every backend a call asks for its camera until a reply is final, but not more often than the
policy says and at least once. It pauses once between each two attempts and at no other time, yields
a device if and only if the last reply is one, and takes as long as the replies and the pauses
together. The numbers of its attempts fit the word that holds the policy's bound. -/
theorem opens_with_retries (p : RetryPolicy) (backend : Backend σ δ) (camera : CameraId) (now : Nat)
    (s : σ) :
    ∃ last, p.EndsAfter backend camera (now, s) (max p.maxAttempts 1) last ∧
      let report := p.openWithRetry backend camera now s
      report.steps = p.stepsUpTo backend camera (now, s) 0 last ∧
      report.device = (p.reply backend camera (now, s) last).result.toOption ∧
      report.finish = now +
        ∑ i ∈ Finset.range (last + 1), (p.reply backend camera (now, s) i).delay +
        last * p.interval ∧
      ∀ c number instant, .ask c number instant ∈ report.steps →
        c = camera ∧ 0 < number ∧ number ≤ max p.maxAttempts 1 ∧
          (p.maxAttempts < 2 ^ 32 → number < 2 ^ 32) := by
  have positive : 0 < p.attempts := Nat.le_max_right _ _
  obtain ⟨last, ends, reports⟩ : ∃ last, p.EndsAfter backend camera (now, s) p.attempts last ∧
      p.Reports backend camera (now, s) (p.attempts - p.attempts) last
        (p.attemptsLeft backend camera p.attempts now s) :=
    attemptsLeft_reports (now, s) positive (Nat.le_refl _)
  rw [Nat.sub_self] at reports
  refine ⟨last, ends, reports.steps, reports.device, ?_, fun c number instant mem => ?_⟩
  · rw [openWithRetry, reports.finish, moment_eq_sum, Finset.sum_range_succ]
    omega
  · rw [openWithRetry, reports.steps] at mem
    obtain ⟨same, above, below⟩ := ask_of_mem_stepsUpTo mem
    have within : last < max p.maxAttempts 1 := ends.within
    exact ⟨same, by omega, by omega, fun small => by omega⟩

/-- A camera that is busy, comes back too late, and then does not exist any more. -/
example :
    let camera : CameraId := ⟨"front", by decide⟩
    let report := call ⟨2 ^ 32 - 1, 100⟩ camera
      [⟨30, some (.busy camera)⟩, ⟨20, some (.disconnected camera "late")⟩,
        ⟨10, some (.notFound camera)⟩]
    report.attempts = [0, 130, 250] ∧ report.device = none ∧ report.finish = 260 := by
  decide

end RetryPolicy

end CameraBroker
