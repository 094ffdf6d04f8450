import CameraBroker.IdleTimer
import Mathlib.Tactic.ByContra

/-! What each operation does to an idle timer: which of them release it, and which keep its tokens.
A live timer without tokens always has a countdown under way. -/
namespace CameraBroker

namespace IdleTimer

structure Sane (t : IdleTimer) : Prop where
  armed : t.released = false → t.tokens = 0 → ∃ c ∈ t.countdowns, c.generation = t.generation
  retired : t.retired = true → t.released = true

section
variable {t u : IdleTimer} (now : Nat)

@[simp] theorem released_arm : (t.arm now).released = t.released := by
  unfold arm
  split <;> rfl

@[simp] theorem tokens_arm : (t.arm now).tokens = t.tokens := by
  unfold arm
  split <;> rfl

@[simp] theorem released_giveBack : (t.giveBack now).released = t.released :=
  released_arm now

@[simp] theorem tokens_giveBack : (t.giveBack now).tokens = t.tokens - 1 :=
  tokens_arm now

@[simp] theorem retired_giveBack : (t.giveBack now).retired = t.retired := by
  unfold giveBack arm
  split <;> rfl

@[simp] theorem released_release : t.release.2.released = true := by
  unfold release
  split <;> simp_all

@[simp] theorem retired_release : t.release.2.retired = true := by
  unfold release
  split <;> rfl

@[simp] theorem tokens_release : t.release.2.tokens = t.tokens := by
  unfold release
  split <;> rfl

theorem released_of_acquire (h : t.acquire? = some u) : u.released = t.released := by
  unfold acquire? at h
  split at h
  · cases h
  · cases h
    rfl

theorem retired_of_acquire (h : t.acquire? = some u) : u.retired = t.retired := by
  unfold acquire? at h
  split at h
  · cases h
  · cases h
    rfl

theorem acquire?_eq_none : t.acquire? = none ↔ t.released = true := by
  unfold acquire?
  cases t.released <;> simp

theorem tokens_of_expire (h : t.expire? = some u) : u.tokens = t.tokens := by
  unfold expire? at h
  split at h
  · cases h
  · cases h
    rfl

theorem tokens_of_fire {generation : Nat} (h : t.fire? generation = some u) :
    u.tokens = t.tokens ∧ t.tokens = 0 := by
  unfold fire? at h
  split at h
  · cases h
  · rename_i ready
    cases h
    simp only [not_or, Nat.not_lt, Nat.le_zero] at ready
    exact ⟨rfl, ready.2.1⟩

theorem retired_of_expire (h : t.expire? = some u) : u.retired = t.retired := by
  unfold expire? at h
  split at h
  · cases h
  · cases h
    rfl

theorem retired_of_fire {generation : Nat} (h : t.fire? generation = some u) :
    u.retired = t.retired := by
  unfold fire? at h
  split at h
  · cases h
  · cases h
    rfl

theorem countdowns_of_fire {generation : Nat} (h : t.fire? generation = some u) :
    u.countdowns = t.countdowns := by
  unfold fire? at h
  split at h
  · cases h
  · cases h
    rfl

theorem live_of_fire {generation : Nat} (h : t.fire? generation = some u) :
    t.released = false := by
  by_contra released
  simp [fire?, released] at h

theorem able_of_fire {generation : Nat} (h : t.fire? generation = some u) :
    t.tokens = 0 ∧ t.generation = generation := by
  by_contra unable
  have none : t.fire? generation = .none := by
    refine if_pos (.inr ?_)
    omega
  cases none.symm.trans h

@[simp] theorem tokens_answered (delivered : Bool) :
    (t.answered now delivered).tokens = t.tokens := by
  unfold answered
  split <;> rfl

namespace Sane

theorem not_retired (h : t.Sane) (live : t.released = false) : t.retired = false := by
  cases retired : t.retired with
  | false => rfl
  | true => cases (h.retired retired).symm.trans live

theorem of_released (h : t.released = true) : t.Sane :=
  ⟨fun live => by simp [h] at live, fun _ => h⟩

theorem start (h : t.retired = true → t.released = true) : (t.start now).Sane := by
  refine ⟨fun _ _ => ⟨⟨t.generation + 1, now + t.window⟩, ?_, rfl⟩, h⟩
  simp [IdleTimer.start]

theorem arm (h : t.retired = true → t.released = true) : (t.arm now).Sane := by
  unfold IdleTimer.arm
  split
  · exact .start now h
  · rename_i held
    refine ⟨fun live none => absurd ⟨none, ?_⟩ held, h⟩
    simp [live]

theorem giveBack (h : t.Sane) : (t.giveBack now).Sane := .arm now h.retired

theorem acquire (h : t.Sane) (taken : t.acquire? = some u) : u.Sane := by
  have more := tokens_of_acquire taken
  have same := released_of_acquire taken
  refine ⟨fun _ none => by omega, fun retired => ?_⟩
  unfold acquire? at taken
  split at taken
  · cases taken
  · cases taken
    exact same ▸ h.retired retired

theorem release (t : IdleTimer) : t.release.2.Sane := .of_released released_release

theorem awaken (h : t.Sane) {generation : Nat}
    (none : (t.awaken generation).fire? generation = none) : (t.awaken generation).Sane := by
  refine ⟨fun live rest => ?_, h.retired⟩
  obtain ⟨c, hc, current⟩ := h.armed live rest
  have other : t.generation ≠ generation := by
    rintro rfl
    have live : t.released = false := live
    have rest : t.tokens = 0 := rest
    simp [fire?, IdleTimer.awaken, live, rest] at none
  refine ⟨c, List.mem_filter.2 ⟨hc, ?_⟩, current⟩
  simpa [current] using other

theorem answered (h : t.Sane) (delivered : Bool) : (t.answered now delivered).Sane := by
  unfold IdleTimer.answered
  split
  · exact h
  · rename_i refused
    refine .start now fun retired => absurd (Or.inr retired) refused

end Sane

@[simp] theorem retired_answered (delivered : Bool) :
    (t.answered now delivered).retired = t.retired := by
  unfold answered
  split <;> rfl

/-- A released timer that nobody retired stays released only if its notification was delivered. -/
theorem delivered_of_answered {delivered : Bool} (live : t.retired = false)
    (h : (t.answered now delivered).released = true) : delivered = true := by
  cases delivered with
  | true => rfl
  | false => simp [answered, live, start] at h

end

end IdleTimer

end CameraBroker
