import CameraBroker.Proofs.RefusedNotices
import Mathlib.Data.List.Nodup

/-! An idle timer that several clones use at once. Any of them may act while the callback is under
way, and a countdown that was called off may wake all the same. It has no effect then, and a live
timer that has nothing else to wait for has exactly one that has. -/
namespace CameraBroker

namespace IdleTimer
variable {t u : IdleTimer} {g n : Nat}

def current (t : IdleTimer) : List Countdown :=
  t.countdowns.filter fun c => c.generation = t.generation

/-- Countdowns have generations of their own, none of which is still to come, and a released timer
has no current one. -/
structure Tidy (t : IdleTimer) : Prop where
  retired : t.retired = true → t.released = true
  young : ∀ c ∈ t.countdowns, c.generation ≤ t.generation
  distinct : (t.countdowns.map (·.generation)).Nodup
  spent : t.released = true → t.current = []

theorem mem_current {c : Countdown} :
    c ∈ t.current ↔ c ∈ t.countdowns ∧ c.generation = t.generation := by
  simp [current]

/-- A countdown of an earlier generation wakes in vain. -/
theorem fire?_of_ne (old : g ≠ t.generation) : (t.awaken g).fire? g = none :=
  if_pos (.inr (.inr (Ne.symm old)))

/-- A current countdown wakes in vain only while a token is held, if the timer is live. -/
theorem awaken_vain (live : t.released = false) (free : t.tokens = 0)
    (vain : (t.awaken g).fire? g = none) : g ≠ t.generation := by
  rintro rfl
  simp [fire?, IdleTimer.awaken, live, free] at vain

theorem current_awaken (g : Nat) (t : IdleTimer) :
    (t.awaken g).current = if g = t.generation then [] else t.current := by
  unfold current IdleTimer.awaken
  rw [List.filter_filter]
  split
  · rename_i same
    refine List.filter_eq_nil_iff.2 fun c _ => ?_
    simp [same]
  · rename_i other
    refine List.filter_congr fun c _ => ?_
    by_cases current : c.generation = t.generation
    · simp [current, Ne.symm other]
    · simp [current]

namespace Tidy

theorem unannounced (h : t.Tidy) {c : Countdown} (mem : c ∈ t.countdowns) :
    c.generation ≠ t.generation + 1 := by
  have := h.young c mem
  omega

theorem current_callOff (h : t.Tidy) : t.callOff.current = [] :=
  List.filter_eq_nil_iff.2 fun _ mem same => h.unannounced mem (of_decide_eq_true same)

theorem current_start (h : t.Tidy) : (t.start n).current = [⟨t.generation + 1, n + t.window⟩] := by
  have old : t.countdowns.filter (fun c => c.generation = t.generation + 1) = [] :=
    h.current_callOff
  rw [current, IdleTimer.start, List.filter_append, old]
  simp

/-- All current countdowns have the same generation, so that there is at most one. -/
theorem length_current (h : t.Tidy) : t.current.length ≤ 1 := by
  have distinct : (t.current.map (·.generation)).Nodup :=
    h.distinct.sublist (List.filter_sublist.map _)
  have same : t.current.map (·.generation) = List.replicate t.current.length t.generation :=
    List.eq_replicate_iff.2 ⟨List.length_map _, fun k mem => by
      obtain ⟨c, hc, rfl⟩ := List.mem_map.1 mem
      exact (mem_current.1 hc).2⟩
  rw [same] at distinct
  exact List.nodup_replicate.1 distinct

theorem withTokens (h : t.Tidy) (k : Nat) : { t with tokens := k }.Tidy :=
  ⟨h.retired, h.young, h.distinct, h.spent⟩

theorem callOff (h : t.Tidy) : t.callOff.Tidy :=
  ⟨h.retired, fun c mem => Nat.le_succ_of_le (h.young c mem), h.distinct,
    fun _ => h.current_callOff⟩

theorem release (h : t.Tidy) (spent : t.current = []) : { t with released := true }.Tidy :=
  ⟨fun _ => rfl, h.young, h.distinct, fun _ => spent⟩

theorem start (h : t.Tidy) (live : t.released = false) : (t.start n).Tidy := by
  refine ⟨h.retired, fun c mem => ?_, ?_, fun released => nomatch live.symm.trans released⟩
  · rcases List.mem_append.1 mem with old | new
    · exact Nat.le_succ_of_le (h.young c old)
    · rw [List.mem_singleton.1 new]
      exact Nat.le_refl _
  · simp only [IdleTimer.start, List.map_append, List.map_cons, List.map_nil]
    refine List.nodup_append.2 ⟨h.distinct, List.nodup_singleton _, fun a old b new => ?_⟩
    obtain ⟨c, mem, rfl⟩ := List.mem_map.1 old
    rw [List.mem_singleton.1 new]
    exact h.unannounced mem

theorem revive (h : t.Tidy) (unretired : t.retired = false) : { t with released := false }.Tidy :=
  ⟨fun retired => (nomatch unretired.symm.trans retired), h.young, h.distinct, nofun⟩

theorem awaken (h : t.Tidy) (g : Nat) : (t.awaken g).Tidy := by
  have fewer : (t.awaken g).countdowns.Sublist t.countdowns := List.filter_sublist
  refine ⟨h.retired, fun c mem => h.young c (fewer.subset mem), h.distinct.sublist (fewer.map _),
    fun released => ?_⟩
  have none : (t.awaken g).current.Sublist t.current := fewer.filter _
  exact List.sublist_nil.1 (h.spent released ▸ none)

end Tidy

end IdleTimer

/-- An idle timer, the tokens of it that are alive, and how many of its callbacks are under way. -/
structure SharedTimer where
  now : Nat := 0
  timer : IdleTimer
  /-- The tokens that are alive, by number. -/
  live : List Nat := []
  issued : Nat := 0
  calls : Nat := 0
  /-- When it was last armed with no token held, had a token dropped or a notification refused. -/
  roused : Option Nat := none

namespace SharedTimer

def wake (generation : Nat) (s : SharedTimer) : SharedTimer :=
  match (s.timer.awaken generation).fire? generation with
  | some t => { s with timer := t, calls := s.calls + 1 }
  | none => { s with timer := s.timer.awaken generation }

/-- One thing that happens to a timer that is shared, by whichever clone, or by its own callback.
Time does not wait for countdowns that are due, and one that was called off may be gone at any
time. -/
inductive Step : SharedTimer → SharedTimer → Prop where
  | arm (s : SharedTimer) : Step s
      { s with
        timer := s.timer.arm s.now
        roused := if s.live = [] then some s.now else s.roused }
  | acquire {s : SharedTimer} {t : IdleTimer} (taken : s.timer.acquire? = some t) : Step s
      { s with timer := t, live := s.issued :: s.live, issued := s.issued + 1 }
  | drop {s : SharedTimer} {token : Nat} (mem : token ∈ s.live) : Step s
      { s with
        timer := s.timer.giveBack s.now, live := s.live.erase token, roused := some s.now }
  | release (s : SharedTimer) : Step s { s with timer := s.timer.release.2 }
  | expire {s : SharedTimer} {t : IdleTimer} (expires : s.timer.expire? = some t) : Step s
      { s with timer := t, calls := s.calls + 1 }
  | wake {s : SharedTimer} {c : Countdown} (mem : c ∈ s.timer.countdowns) (due : c.due ≤ s.now) :
      Step s (s.wake c.generation)
  | abort {s : SharedTimer} {g : Nat} (old : g ≠ s.timer.generation) : Step s
      { s with timer := s.timer.awaken g }
  | answer {s : SharedTimer} {calls : Nat} (called : s.calls = calls + 1) (delivered : Bool) :
      Step s { s with
        timer := s.timer.answered s.now delivered, calls
        roused := if delivered then s.roused else some s.now }
  | elapse (s : SharedTimer) (ms : Nat) : Step s { s with now := s.now + ms }

abbrev Steps : SharedTimer → SharedTimer → Prop := Relation.ReflTransGen Step

def fresh (now window : Nat) : SharedTimer := { now, timer := { window } }

variable {s s' : SharedTimer}

/-- Tokens are counted, countdowns are told apart, and at most one callback is under way. -/
structure Counted (s : SharedTimer) : Prop where
  tidy : s.timer.Tidy
  tokens : s.timer.tokens = s.live.length
  distinct : s.live.Nodup
  issued : ∀ token ∈ s.live, token < s.issued
  answering : s.calls = 0 ∨ s.calls = 1 ∧ s.timer.released = true

/-- A live timer without tokens that was roused counts down from then on. -/
def Rings (s : SharedTimer) : Prop :=
  s.timer.released = false → s.live = [] → ∀ n, s.roused = some n →
    s.timer.current = [⟨s.timer.generation, n + s.timer.window⟩]

structure Sound (s : SharedTimer) : Prop extends s.Counted where
  rings : s.Rings

theorem sound_fresh (now window : Nat) : (fresh now window).Sound :=
  ⟨⟨⟨nofun, nofun, List.nodup_nil, nofun⟩, rfl, List.nodup_nil, nofun, .inl rfl⟩, nofun⟩

namespace Counted

theorem start (h : s.Counted) (live : s.timer.released = false) :
    Sound { s with timer := s.timer.start s.now, roused := some s.now } := by
  refine ⟨⟨h.tidy.start live, h.tokens, h.distinct, h.issued, h.answering⟩, ?_⟩
  rintro - - n ⟨⟩
  exact h.tidy.current_start

/-- Arming rouses a timer without tokens, and does nothing else. -/
theorem arm (h : s.Counted) {roused : Option Nat} (latest : s.live = [] → roused = some s.now) :
    Sound { s with timer := s.timer.arm s.now, roused } := by
  by_cases idle : s.timer.tokens = 0 ∧ ¬s.timer.released
  · have free : s.live = [] := List.length_eq_zero_iff.1 (h.tokens.symm.trans idle.1)
    rw [IdleTimer.arm, if_pos idle, latest free]
    exact h.start (by simpa using idle.2)
  · rw [IdleTimer.arm, if_neg idle]
    refine ⟨⟨h.tidy, h.tokens, h.distinct, h.issued, h.answering⟩, fun live free => ?_⟩
    have none : s.timer.tokens = 0 := h.tokens.trans (List.length_eq_zero_iff.2 free)
    have live : s.timer.released = false := live
    exact absurd ⟨none, by simp [live]⟩ idle

theorem withTimer (h : s.Counted) {t : IdleTimer} (tidy : t.Tidy)
    (tokens : t.tokens = s.timer.tokens) {calls : Nat}
    (answering : calls = 0 ∨ calls = 1 ∧ t.released = true) {roused : Option Nat} :
    Counted { s with timer := t, calls, roused } :=
  ⟨tidy, tokens.trans h.tokens, h.distinct, h.issued, answering⟩

/-- A timer that is released does not ring. -/
theorem sound_of_released (h : s.Counted) (released : s.timer.released = true) : s.Sound :=
  ⟨h, fun live => nomatch live.symm.trans released⟩

end Counted

namespace Sound

theorem acquire (h : s.Sound) {t : IdleTimer} (taken : s.timer.acquire? = some t) : Sound
    { s with timer := t, live := s.issued :: s.live, issued := s.issued + 1 } := by
  unfold IdleTimer.acquire? at taken
  split at taken
  · cases taken
  · cases taken
    refine ⟨⟨h.tidy.callOff.withTokens _, congrArg (· + 1) h.tokens, ?_, ?_, h.answering⟩, nofun⟩
    · exact List.nodup_cons.2 ⟨fun old => Nat.lt_irrefl _ (h.issued _ old), h.distinct⟩
    · intro token mem
      rcases List.mem_cons.1 mem with rfl | old
      · exact Nat.lt_succ_self _
      · exact Nat.lt_succ_of_lt (h.issued token old)

theorem drop (h : s.Sound) {token : Nat} (mem : token ∈ s.live) : Sound
    { s with
      timer := s.timer.giveBack s.now, live := s.live.erase token, roused := some s.now } := by
  have fewer : Counted { s with
      timer := { s.timer with tokens := s.timer.tokens - 1 }, live := s.live.erase token } := by
    refine ⟨h.tidy.withTokens _, ?_, h.distinct.erase token, fun k hk => ?_, h.answering⟩
    · simp [h.tokens, List.length_erase_of_mem mem]
    · exact h.issued k (List.mem_of_mem_erase hk)
  exact fewer.arm fun _ => rfl

theorem release (h : s.Sound) : Sound { s with timer := s.timer.release.2 } := by
  have tidy : s.timer.release.2.Tidy := by
    unfold IdleTimer.release
    split
    · rename_i released
      exact ⟨fun _ => released, h.tidy.young, h.tidy.distinct, h.tidy.spent⟩
    · exact ⟨fun _ => rfl, h.tidy.callOff.young, h.tidy.distinct, fun _ => h.tidy.current_callOff⟩
  have released : s.timer.release.2.released = true := IdleTimer.released_release
  exact (h.withTimer tidy IdleTimer.tokens_release
    (h.answering.imp_right fun called => ⟨called.1, released⟩)).sound_of_released released

/-- While the timer is live, no callback is under way. -/
theorem calls_of_live (h : s.Sound) (live : s.timer.released = false) : s.calls = 0 :=
  h.answering.resolve_right fun called => nomatch live.symm.trans called.2

theorem call (h : s.Sound) {t : IdleTimer} (live : s.timer.released = false) (tidy : t.Tidy)
    (tokens : t.tokens = s.timer.tokens) (released : t.released = true) :
    Sound { s with timer := t, calls := s.calls + 1 } := by
  have one : s.calls + 1 = 1 := congrArg (· + 1) (h.calls_of_live live)
  exact (h.withTimer tidy tokens (.inr ⟨one, released⟩)).sound_of_released released

theorem expire (h : s.Sound) {t : IdleTimer} (expires : s.timer.expire? = some t) :
    Sound { s with timer := t, calls := s.calls + 1 } := by
  have released := IdleTimer.released_of_expire expires
  have tokens := IdleTimer.tokens_of_expire expires
  unfold IdleTimer.expire? at expires
  split at expires
  · cases expires
  · rename_i live
    cases expires
    have tidy := h.tidy.callOff.release h.tidy.current_callOff
    exact h.call (by simpa using live) tidy tokens released

/-- Of the countdowns that wake without effect, none is the one that a live timer waits for. -/
theorem vain (h : s.Sound) {g : Nat} (vain : (s.timer.awaken g).fire? g = none) :
    Sound { s with timer := s.timer.awaken g } := by
  refine ⟨h.withTimer (h.tidy.awaken g) rfl h.answering, fun live free n roused => ?_⟩
  have live : s.timer.released = false := live
  have none : s.timer.tokens = 0 := h.tokens.trans (List.length_eq_zero_iff.2 free)
  have other := IdleTimer.awaken_vain live none vain
  exact (s.timer.current_awaken g).trans ((if_neg other).trans (h.rings live free n roused))

theorem wake (h : s.Sound) (g : Nat) : (s.wake g).Sound := by
  unfold SharedTimer.wake
  split
  · rename_i t fires
    have tidy : t.Tidy := by
      unfold IdleTimer.fire? at fires
      split at fires
      · cases fires
      · rename_i ready
        cases fires
        simp only [IdleTimer.awaken, not_or, Decidable.not_not] at ready
        exact (h.tidy.awaken g).release ((s.timer.current_awaken g).trans (if_pos ready.2.2.symm))
    have live : (s.timer.awaken g).released = false := IdleTimer.live_of_fire fires
    exact h.call live tidy (IdleTimer.tokens_of_fire fires).1
      (IdleTimer.released_of_fire fires)
  · exact h.vain ‹_›

theorem answer (h : s.Sound) {calls : Nat} (called : s.calls = calls + 1) (delivered : Bool) : Sound
    { s with
      timer := s.timer.answered s.now delivered, calls
      roused := if delivered then s.roused else some s.now } := by
  obtain ⟨one, released⟩ := h.answering.resolve_left (by omega)
  obtain rfl : calls = 0 := by omega
  by_cases final : delivered ∨ s.timer.retired
  · rw [IdleTimer.answered, if_pos final]
    exact ⟨h.withTimer h.tidy rfl (.inl rfl), fun live =>
      absurd (live.symm.trans released) Bool.false_ne_true⟩
  · rw [IdleTimer.answered, if_neg final]
    simp only [not_or, Bool.not_eq_true] at final
    rw [final.1]
    have revived : Counted { s with timer := { s.timer with released := false }, calls := 0 } :=
      h.withTimer (h.tidy.revive final.2) rfl (.inl rfl)
    exact revived.start rfl

theorem step (h : s.Sound) (step : Step s s') : s'.Sound := by
  cases step with
  | arm => exact h.arm fun free => if_pos free
  | acquire taken => exact h.acquire taken
  | drop mem => exact h.drop mem
  | release => exact h.release
  | expire expires => exact h.expire expires
  | wake => exact h.wake _
  | abort old => exact h.vain (IdleTimer.fire?_of_ne old)
  | answer called delivered => exact h.answer called delivered
  | elapse => exact ⟨⟨h.tidy, h.tokens, h.distinct, h.issued, h.answering⟩, h.rings⟩

theorem steps (h : s.Sound) (steps : Steps s s') : s'.Sound := by
  induction steps with
  | refl => exact h
  | tail _ step ih => exact ih.step step

end Sound

end SharedTimer

namespace IdleTimer
variable {t u : IdleTimer}

structure Ages (t u : IdleTimer) : Prop where
  generation : t.generation ≤ u.generation
  window : u.window = t.window

namespace Ages

theorem refl (t : IdleTimer) : t.Ages t := ⟨Nat.le_refl _, rfl⟩

theorem trans {v : IdleTimer} (h : t.Ages u) (later : u.Ages v) : t.Ages v :=
  ⟨Nat.le_trans h.generation later.generation, later.window.trans h.window⟩

theorem start (n : Nat) (t : IdleTimer) : t.Ages (t.start n) := ⟨Nat.le_succ _, rfl⟩

theorem arm (n : Nat) (t : IdleTimer) : t.Ages (t.arm n) := by
  unfold IdleTimer.arm
  split
  · exact .start n t
  · exact .refl t

theorem giveBack (n : Nat) (t : IdleTimer) : t.Ages (t.giveBack n) :=
  have armed := Ages.arm n { t with tokens := t.tokens - 1 }
  ⟨armed.generation, armed.window⟩

theorem acquire (taken : t.acquire? = some u) : t.Ages u := by
  unfold acquire? at taken
  split at taken
  · cases taken
  · cases taken
    exact ⟨Nat.le_succ _, rfl⟩

theorem release (t : IdleTimer) : t.Ages t.release.2 := by
  unfold IdleTimer.release
  split
  · exact ⟨Nat.le_refl _, rfl⟩
  · exact ⟨Nat.le_succ _, rfl⟩

theorem expire (expires : t.expire? = some u) : t.Ages u := by
  unfold expire? at expires
  split at expires
  · cases expires
  · cases expires
    exact ⟨Nat.le_succ _, rfl⟩

theorem fire {g : Nat} (fires : (t.awaken g).fire? g = some u) : t.Ages u := by
  unfold fire? at fires
  split at fires
  · cases fires
  · cases fires
    exact ⟨Nat.le_refl _, rfl⟩

theorem answered (n : Nat) (delivered : Bool) (t : IdleTimer) :
    t.Ages (t.answered n delivered) := by
  unfold IdleTimer.answered
  split
  · exact .refl t
  · exact ⟨Nat.le_succ _, rfl⟩

end Ages

end IdleTimer

namespace SharedTimer
variable {s s' : SharedTimer}

theorem wake_cases (g : Nat) (s : SharedTimer) :
    s.wake g = { s with timer := s.timer.awaken g } ∨
      ∃ t, (s.timer.awaken g).fire? g = some t ∧
        s.wake g = { s with timer := t, calls := s.calls + 1 } := by
  cases fires : (s.timer.awaken g).fire? g with
  | none => exact .inl (by simp [wake, fires])
  | some t => exact .inr ⟨t, rfl, by simp [wake, fires]⟩

theorem Step.ages (step : Step s s') : s.timer.Ages s'.timer := by
  cases step with
  | arm => exact .arm _ _
  | acquire taken => exact .acquire taken
  | drop => exact .giveBack _ _
  | release => exact .release _
  | expire expires => exact .expire expires
  | @wake c =>
    obtain vain | ⟨t, fires, called⟩ := s.wake_cases c.generation
    · rw [vain]
      exact ⟨Nat.le_refl _, rfl⟩
    · rw [called]
      exact .fire fires
  | abort => exact ⟨Nat.le_refl _, rfl⟩
  | answer => exact .answered _ _ _
  | elapse => exact .refl _

theorem Steps.ages (steps : Steps s s') : s.timer.Ages s'.timer := by
  induction steps with
  | refl => exact .refl _
  | tail _ step ih => exact ih.trans step.ages

/-- A countdown that was called off or replaced stays without effect, however late it wakes. -/
theorem Sound.wake_old (h : s.Sound) {c : Countdown} (mem : c ∈ s.timer.countdowns)
    (old : c.generation ≠ s.timer.generation) (steps : Steps s s') :
    s'.wake c.generation = { s' with timer := s'.timer.awaken c.generation } := by
  have young := h.tidy.young c mem
  have later := steps.ages.generation
  have vain : (s'.timer.awaken c.generation).fire? c.generation = none :=
    IdleTimer.fire?_of_ne (by omega)
  simp [SharedTimer.wake, vain]

/-- Whatever the clones of a timer do, and whatever its callback answers, its tokens are counted, so
that giving one back never falls below zero. A retired timer is released. Of its countdowns at most
one is current, and the others are without effect for good. If a live timer without tokens was ever
roused, then its current countdown is due one window after that. -/
theorem representation {now window : Nat} (steps : Steps (fresh now window) s) :
    (s.timer.tokens = s.live.length ∧ s.live.Nodup ∧
      ∀ token ∈ s.live, (s.timer.giveBack s.now).tokens + 1 = s.timer.tokens) ∧
    (s.timer.retired = true → s.timer.released = true) ∧
    (s.timer.current.length ≤ 1 ∧
      ∀ c ∈ s.timer.countdowns, c.generation ≠ s.timer.generation → ∀ s', Steps s s' →
        s'.wake c.generation = { s' with timer := s'.timer.awaken c.generation }) ∧
    (s.timer.released = false → s.live = [] → ∀ n, s.roused = some n →
      s.timer.current = [⟨s.timer.generation, n + window⟩]) := by
  have h : s.Sound := (sound_fresh now window).steps steps
  have same : s.timer.window = window := steps.ages.window
  refine ⟨⟨h.tokens, h.distinct, fun token mem => ?_⟩, h.tidy.retired,
    ⟨h.tidy.length_current, fun c mem old s' later => h.wake_old mem old later⟩, same ▸ h.rings⟩
  have held := List.length_pos_of_mem mem
  rw [IdleTimer.tokens_giveBack, h.tokens]
  omega

/-- A token is given back while a refused notification counts down, and a countdown that was called
off has woken before. -/
theorem representation_refused_while_held : ∃ s, Steps (fresh 0 10) s ∧ s.live = [] ∧
    s.timer.countdowns = [⟨4, 20⟩, ⟨5, 22⟩] ∧ s.timer.current = [⟨5, 22⟩] := by
  have held : Steps (fresh 0 10) _ :=
    .tail (.tail (.tail .refl (.arm _)) (.acquire rfl)) (.elapse _ 10)
  have woken : Steps (fresh 0 10) _ := .tail held (.wake (List.mem_singleton_self _) (by decide))
  have refused : Steps (fresh 0 10) _ := .tail (.tail woken (.expire rfl)) (.answer rfl false)
  have dropped : Steps (fresh 0 10) _ :=
    .tail (.tail refused (.elapse _ 2)) (.drop (List.mem_singleton_self _))
  exact ⟨_, dropped, rfl, rfl, (representation dropped).2.2.2 rfl rfl 12 rfl⟩

section Scripted
variable {v : ScriptedTimer}

structure Plays (s : SharedTimer) (v : ScriptedTimer) : Prop where
  calls : s.calls = 0
  now : v.now = s.now
  timer : v.timer = s.timer

/-- The callback may act on its timer, and then it answers. -/
theorem exists_plays_notify (called : s.calls = 1) (spent : s.timer.released = true)
    (script : List Answer) (past : List CallEvent) :
    ∃ s', Steps s s' ∧ s'.Plays (ScriptedTimer.notify s.now script s.timer past) := by
  rw [ScriptedTimer.notify_of_released spent]
  by_cases retires : (Answer.next script).first = some .release
  · have heard : s.timer.hear (.next script) = s.timer.release.2 := by
      simp [IdleTimer.hear, retires, IdleTimer.release, spent]
    have answered := Step.answer (s := { s with timer := s.timer.release.2 }) called
      (Answer.next script).delivered
    exact ⟨_, .tail (.single (.release s)) answered, rfl, rfl, by rw [heard]⟩
  · have heard : s.timer.hear (.next script) = s.timer := by simp [IdleTimer.hear, retires]
    exact ⟨_, .single (.answer called (Answer.next script).delivered), rfl, rfl, by rw [heard]⟩

/-- The operations of a scripted timer, and time, are steps of a shared one. -/
theorem exists_plays_step (h : s.Sound) (calls : s.calls = 0) {script : List Answer}
    {past : List CallEvent} (step : ScriptedTimer.Step ⟨s.now, s.timer, script, past⟩ v) :
    ∃ s', Steps s s' ∧ s'.Plays v := by
  have called : s.calls + 1 = 1 := congrArg (· + 1) calls
  cases step with
  | arm => exact ⟨_, .single (.arm s), calls, rfl, rfl⟩
  | acquire =>
    cases taken : s.timer.acquire? with
    | none =>
      refine ⟨s, .refl, calls, ?_, ?_⟩ <;> simp [ScriptedTimer.acquire, taken]
    | some t =>
      refine ⟨_, .single (.acquire taken), calls, ?_, ?_⟩ <;> simp [ScriptedTimer.acquire, taken]
  | drop =>
    unfold ScriptedTimer.drop
    split
    · rename_i held
      have some : 0 < s.live.length := h.tokens ▸ held
      obtain ⟨token, mem⟩ := List.exists_mem_of_length_pos some
      exact ⟨_, .single (.drop mem), calls, rfl, rfl⟩
    · exact ⟨s, .refl, calls, rfl, rfl⟩
  | release => exact ⟨_, .single (.release s), calls, rfl, rfl⟩
  | expire =>
    obtain ⟨-, still⟩ | ⟨live, notified⟩ :=
      ScriptedTimer.expire_cases ⟨s.now, s.timer, script, past⟩
    · rw [still]
      exact ⟨s, .refl, calls, rfl, rfl⟩
    · rw [notified]
      have live : s.timer.released = false := live
      have expires : s.timer.expire? = some { s.timer.callOff with released := true } := by
        simp [IdleTimer.expire?, live]
      obtain ⟨s', steps, plays⟩ := exists_plays_notify
        (s := { s with timer := { s.timer.callOff with released := true }, calls := s.calls + 1 })
        called rfl script past
      exact ⟨s', .head (.expire expires) steps, plays⟩
  | time move =>
    cases move with
    | turn due =>
      obtain ⟨c, mem, rfl⟩ := List.mem_map.1 due
      obtain ⟨mem, late⟩ := List.mem_filter.1 mem
      have wakes := Step.wake mem (of_decide_eq_true late)
      change ∃ s', Steps s s' ∧ s'.Plays (ScriptedTimer.wakeCountdown c.generation _)
      obtain ⟨vain, woken⟩ | ⟨t, fires, notified⟩ :=
        ScriptedTimer.wakeCountdown_cases c.generation ⟨s.now, s.timer, script, past⟩
      · rw [woken]
        have vain : (s.timer.awaken c.generation).fire? c.generation = none := vain
        simp only [wake, vain] at wakes
        exact ⟨_, .single wakes, calls, rfl, rfl⟩
      · rw [notified]
        have fires : (s.timer.awaken c.generation).fire? c.generation = some t := fires
        have spent := IdleTimer.released_of_fire fires
        simp only [wake, fires] at wakes
        obtain ⟨s', steps, plays⟩ := exists_plays_notify
          (s := { s with timer := t, calls := s.calls + 1 }) called spent script past
        exact ⟨s', .head wakes steps, plays⟩
    | wait rests later =>
      have passed := Nat.add_sub_cancel' (Nat.le_of_lt later)
      exact ⟨_, .single (.elapse s _), calls, passed.symm, rfl⟩

/-- What can become of a scripted timer can become of a shared one. -/
theorem exists_steps_plays {now window : Nat} {script : List Answer}
    (steps : Relation.ReflTransGen ScriptedTimer.Step (ScriptedTimer.fresh now window script) v) :
    ∃ s, Steps (fresh now window) s ∧ s.Plays v := by
  induction steps with
  | refl => exact ⟨_, .refl, rfl, rfl, rfl⟩
  | @tail u v _ step ih =>
    obtain ⟨s, before, calls, now, timer⟩ := ih
    obtain ⟨_, _, script, past⟩ := u
    cases now
    cases timer
    obtain ⟨s', more, plays⟩ := exists_plays_step ((sound_fresh _ _).steps before) calls step
    exact ⟨s', before.trans more, plays⟩

end Scripted

end SharedTimer

end CameraBroker
