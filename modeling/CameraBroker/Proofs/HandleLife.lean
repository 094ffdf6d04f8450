import CameraBroker.Handle.Bench
import CameraBroker.Proofs.HandleMoves

/-! The life of a handle. Streams publish what they like and lose their publishers, clones of the
handle are made and dropped, and connects, failures, disconnects and observers take their turns in
any order. Whatever they do, the state moves forward, one connect succeeds at most, and a failure
is the last word. -/
namespace CameraBroker

namespace Handle

def IsEnded (x : Handle) : Prop := x.state = .disconnected ∧ x.binding = none

/-- A disconnect closes nothing. -/
theorem closed_of_disconnect {x : Handle} (closed : x.disconnect.state = .closed) :
    x.state = .closed := by
  unfold disconnect moveTo move? at closed
  cases hx : x.state <;> simp [HandleState.canMoveTo, HandleState.rank, unbind, hx] at closed ⊢

end Handle

namespace HandleBench

inductive Act where
  | create (camera : CameraId)
  | share (handle : HandleId)
  | forget (handle : HandleId)
  | addStream (state : DeviceState)
  | publish (device : DeviceId) (state : DeviceState)
  | dropPublisher (device : DeviceId)
  | connect (handle : HandleId) (device : DeviceId) (takeToken : Bool)
  | fail (handle : HandleId) (reason : OpenFailure)
  | disconnect (handle : HandleId)
  | observe (handle : HandleId)
  | wakeCountdown (generation : Nat)
  | elapse (ms : Nat)
deriving DecidableEq

def act (b : HandleBench) : Act → HandleBench
  | .create c => b.create c
  | .share i => b.share i
  | .forget i => b.forget i
  | .addStream state => b.addStream state
  | .publish d state => b.onStream (·.publish state) d
  | .dropPublisher d => b.onStream (·.drop) d
  | .connect i d takeToken => (b.connect i d takeToken).2
  | .fail i reason => b.fail i reason
  | .disconnect i => b.disconnect i
  | .observe i => b.observe i
  | .wakeCountdown generation => b.wakeCountdown generation
  | .elapse ms => { b with now := b.now + ms }

def run (acts : List Act) (b : HandleBench) : HandleBench := acts.foldl act b

theorem run_append (b : HandleBench) (acts more : List Act) :
    b.run (acts ++ more) = (b.run acts).run more := List.foldl_append

/-- What one thing does to the handle `h`, as far as its life goes. -/
inductive Does (a : Act) (h : HandleId) (x : Handle) : Handle → Prop where
  | keep {y : Handle} (state : y.state = x.state) (failure : y.failure = x.failure)
      (binding : y.binding = x.binding ∨ y.binding = none) : Does a h x y
  | disconnect : Does a h x x.disconnect
  | observe (s : Stream) {k : Binding} (bound : x.binding = some k) : Does a h x (x.observe s)
  | fail (reason : OpenFailure) (asked : a = .fail h reason) (waits : x.state = .unopened) :
      Does a h x { x with state := .disconnected, failure := some reason }
  | connect {d : DeviceId} {takeToken : Bool} (token : Option TimerId)
      (asked : a = .connect h d takeToken) (waits : x.state = .unopened) :
      Does a h x (x.taken d token)

section Steps
variable (b : HandleBench) (h i : HandleId)

theorem handles_giveBack (token : Option TimerId) : (b.giveBack token).handles = b.handles := by
  cases token <;> rfl

theorem handles_wakeCountdown (generation : Nat) :
    (b.wakeCountdown generation).handles = b.handles := by
  unfold wakeCountdown
  dsimp only
  split <;> rfl

theorem connect?_eq (x : Handle) (d : DeviceId) (token : Option TimerId) :
    x.connect? d token = if x.state = .unopened then some (x.taken d token) else none := by
  unfold Handle.connect? Handle.move?
  cases hx : x.state <;> simp [HandleState.canMoveTo, HandleState.rank, Handle.taken]

variable {b} {h} {x : Handle}

/-- A connect succeeds if the handle waits, and otherwise it changes no handle. -/
theorem connect_cases (hx : b.handles[i]? = some x) (d : DeviceId) (takeToken : Bool) :
    x.state = .unopened ∧ (b.connect i d takeToken).1 = true ∧
      (∃ token, (b.connect i d takeToken).2.handles = b.handles.set i (x.taken d token)) ∨
    x.state ≠ .unopened ∧ (b.connect i d takeToken).1 = false ∧
      (b.connect i d takeToken).2.handles = b.handles := by
  unfold connect
  rw [hx]
  dsimp only
  cases token : if takeToken then b.timer.acquire? else none with
  | none =>
    by_cases waits : x.state = .unopened
    · simp [connect?_eq, waits, setHandle]
      exact ⟨none, rfl⟩
    · simp [connect?_eq, waits, handles_giveBack]
  | some t =>
    by_cases waits : x.state = .unopened
    · simp [connect?_eq, waits, setHandle]
      exact ⟨some benchTimer, rfl⟩
    · simp [connect?_eq, waits, handles_giveBack]

/-- What happens adds a handle, or changes one at most, in one of these ways. -/
theorem act_handles (b : HandleBench) (a : Act) :
    (∃ c : CameraId, (b.act a).handles = b.handles ++ [{ camera := c }]) ∨
    (b.act a).handles = b.handles ∨
    ∃ (j : HandleId) (x y : Handle), b.handles[j]? = some x ∧
      (b.act a).handles = b.handles.set j y ∧ Does a j x y := by
  cases a with
  | create c => exact .inl ⟨c, rfl⟩
  | share j =>
    simp only [act, share]
    split
    · exact .inr (.inl rfl)
    · rename_i x hx
      exact .inr (.inr ⟨j, x, _, hx, rfl, .keep rfl rfl (.inl rfl)⟩)
  | forget j =>
    simp only [act, forget]
    split
    · exact .inr (.inl rfl)
    · rename_i x hx
      split
      · exact .inr (.inr ⟨j, x, _, hx, handles_giveBack _ _, .keep rfl rfl (.inr rfl)⟩)
      · exact .inr (.inr ⟨j, x, _, hx, rfl, .keep rfl rfl (.inl rfl)⟩)
  | addStream state => exact .inr (.inl rfl)
  | publish d state => exact .inr (.inl rfl)
  | dropPublisher d => exact .inr (.inl rfl)
  | connect j d takeToken =>
    cases hx : b.handles[j]? with
    | none => exact .inr (.inl (by simp [act, connect, hx]))
    | some x =>
      rcases connect_cases j hx d takeToken with ⟨waits, -, token, handles⟩ | ⟨-, -, handles⟩
      · exact .inr (.inr ⟨j, x, _, hx, handles, .connect token rfl waits⟩)
      · exact .inr (.inl handles)
  | fail j reason =>
    simp only [act, fail]
    split
    · exact .inr (.inl rfl)
    · rename_i x hx
      by_cases waits : x.state = .unopened
      · rw [Handle.fail?, if_pos waits]
        exact .inr (.inr ⟨j, x, _, hx, rfl, .fail reason rfl waits⟩)
      · rw [Handle.fail?, if_neg waits]
        exact .inr (.inl rfl)
  | disconnect j =>
    simp only [act, disconnect]
    split
    · exact .inr (.inl rfl)
    · rename_i x hx
      refine .inr (.inr ⟨j, x, x.disconnect, hx, ?_, .disconnect⟩)
      rw [handles_giveBack]
      split <;> rfl
  | observe j =>
    simp only [act, observe]
    split
    · exact .inr (.inl rfl)
    · rename_i x hx
      split
      · exact .inr (.inl rfl)
      · rename_i s follows
        obtain ⟨k, bound, -⟩ := Option.bind_eq_some_iff.1 follows
        refine .inr (.inr ⟨j, x, x.observe s, hx, ?_, .observe s bound⟩)
        split
        · rfl
        · exact handles_giveBack _ _
  | wakeCountdown generation => exact .inr (.inl (b.handles_wakeCountdown generation))
  | elapse ms => exact .inr (.inl rfl)

theorem act_does (hx : b.handles[h]? = some x) (a : Act) :
    ∃ y, (b.act a).handles[h]? = some y ∧ Does a h x y := by
  obtain ⟨hh, -⟩ := List.getElem?_eq_some_iff.1 hx
  rcases b.act_handles a with ⟨c, handles⟩ | handles | ⟨j, z, y, hz, handles, does⟩
  · exact ⟨x, by rw [handles, List.getElem?_append_left hh, hx], .keep rfl rfl (.inl rfl)⟩
  · exact ⟨x, by rw [handles, hx], .keep rfl rfl (.inl rfl)⟩
  · by_cases hj : j = h
    · subst hj
      obtain rfl : z = x := Option.some.inj (hz.symm.trans hx)
      exact ⟨y, by rw [handles, List.getElem?_set_self hh], does⟩
    · exact ⟨x, by rw [handles, List.getElem?_set_ne hj, hx], .keep rfl rfl (.inl rfl)⟩

/-- A handle that is new has just been created. -/
theorem act_created {y : Handle} {a : Act} (new : b.handles[h]? = none)
    (hy : (b.act a).handles[h]? = some y) : ∃ c : CameraId, y = { camera := c } := by
  rcases b.act_handles a with ⟨c, handles⟩ | handles | ⟨j, z, y', hz, handles, -⟩
  · rw [handles] at hy
    rcases View.of_getElem?_concat hy with old | ⟨-, rfl⟩
    · cases new.symm.trans old
    · exact ⟨c, rfl⟩
  · rw [handles, new] at hy
    cases hy
  · rw [handles] at hy
    have old : h < b.handles.length := by
      simpa using (List.getElem?_eq_some_iff.1 hy).1
    exact absurd old (Nat.not_lt.2 (List.getElem?_eq_none_iff.1 new))

end Steps

section Deeds
variable {a : Act} {h : HandleId} {x y : Handle}

theorem eq_or_lt_of_rank_le {a b : HandleState} (h : a.rank ≤ b.rank) :
    b = a ∨ a.rank < b.rank := by
  revert h
  cases a <;> cases b <;> decide

/-- The state stays or moves forward. -/
theorem Does.forward (does : Does a h x y) : y.state = x.state ∨ x.state.rank < y.state.rank := by
  cases does with
  | keep state failure binding => exact .inl state
  | disconnect => exact eq_or_lt_of_rank_le (Handle.Fades.disconnect x).forward
  | observe s bound => exact eq_or_lt_of_rank_le (Handle.Fades.observe s x).forward
  | fail reason asked waits => exact .inr (by simp [waits, HandleState.rank])
  | connect token asked waits => exact .inr (by simp [waits, Handle.taken, HandleState.rank])

/-- The reason of a failure is left alone once the handle is resolved. -/
theorem Does.failure (does : Does a h x y) (resolved : x.state ≠ .unopened) :
    y.failure = x.failure := by
  cases does with
  | keep state failure binding => exact failure
  | disconnect => exact x.failure_moveTo _
  | observe s bound => exact x.failure_observe s
  | fail reason asked waits => exact absurd waits resolved
  | connect token asked waits => exact absurd waits resolved

/-- A reason is recorded by the failure that gives the handle up. -/
theorem Does.recorded (does : Does a h x y) {reason : OpenFailure} (before : x.failure ≠ some reason)
    (recorded : y.failure = some reason) :
    a = .fail h reason ∧ x.state = .unopened ∧ y.state = .disconnected := by
  cases does with
  | keep state failure binding => exact absurd (failure ▸ recorded) before
  | disconnect => exact absurd ((x.failure_moveTo _).symm.trans recorded) before
  | observe s bound => exact absurd ((x.failure_observe s).symm.trans recorded) before
  | fail given asked waits =>
    cases recorded
    exact ⟨asked, waits, rfl⟩
  | connect token asked waits => exact absurd recorded before

/-- A handle that waits follows no device. -/
theorem Does.free (does : Does a h x y) (free : x.state = .unopened → x.binding = none) :
    y.state = .unopened → y.binding = none := by
  intro waits
  cases does with
  | keep state failure binding =>
    rcases binding with same | none
    · exact same.trans (free (state.symm.trans waits))
    · exact none
  | disconnect => rfl
  | @observe s k bound =>
    have before : x.state = .unopened :=
      Broker.eq_unopened_of_rank_le (waits ▸ (Handle.Fades.observe s x).forward)
    cases (free before).symm.trans bound
  | fail reason asked before => cases waits
  | connect token asked before => cases waits

/-- A handle that has ended stays so. -/
theorem Does.ended (does : Does a h x y) (ended : x.IsEnded) : y.IsEnded := by
  obtain ⟨state, unbound⟩ := ended
  have resolved : x.state ≠ .unopened := by simp [state]
  cases does with
  | keep same failure binding => exact ⟨same.trans state, binding.elim (·.trans unbound) id⟩
  | disconnect => exact ⟨by simp [Handle.disconnect, Handle.moveTo, Handle.move?, state,
      HandleState.canMoveTo, Handle.unbind], rfl⟩
  | observe s bound => cases unbound.symm.trans bound
  | fail reason asked waits => exact absurd waits resolved
  | connect token asked waits => exact absurd waits resolved

/-- An open handle that is bound to nothing becomes bound only when it becomes connected, and it is
not closed then. -/
theorem Does.connected (does : Does a h x y) (before : ¬(x.state = .closed ∨ x.binding ≠ none))
    (after : y.state = .closed ∨ y.binding ≠ none) : y.state = .connected := by
  have unclosed : x.state ≠ .closed := fun closed => before (.inl closed)
  have unbound : x.binding = none := by
    by_contra bound
    exact before (.inr bound)
  cases does with
  | keep state failure binding =>
    have same : y.binding = none := binding.elim (·.trans unbound) id
    exact absurd after (by simp [state, unclosed, same])
  | disconnect =>
    rcases x.state_disconnect with disconnected | closed
    · rcases after with closed | bound
      · cases disconnected.symm.trans closed
      · exact absurd rfl bound
    · exact absurd (x.closed_of_disconnect closed) unclosed
  | observe s bound => cases unbound.symm.trans bound
  | fail reason asked waits => exact absurd after (by simp [unbound])
  | connect token asked waits => rfl

end Deeds

end HandleBench

structure Handle.Ages (x y : Handle) : Prop where
  forward : y.state = x.state ∨ x.state.rank < y.state.rank
  failure : x.state ≠ .unopened → y.failure = x.failure
  ended : x.IsEnded → y.IsEnded

namespace Handle.Ages
variable {x y z : Handle}

theorem refl (x : Handle) : x.Ages x := ⟨.inl rfl, fun _ => rfl, id⟩

/-- Once resolved, a handle stays resolved. -/
theorem resolved (h : x.Ages y) (resolved : x.state ≠ .unopened) : y.state ≠ .unopened := by
  intro waits
  rcases h.forward with same | more
  · exact resolved (same.symm.trans waits)
  · rw [waits] at more
    exact absurd more (Nat.not_lt_zero _)

theorem trans (h : x.Ages y) (k : y.Ages z) : x.Ages z := by
  refine ⟨?_, fun resolved => (k.failure (h.resolved resolved)).trans (h.failure resolved),
    k.ended ∘ h.ended⟩
  rcases h.forward with same | more
  · exact same ▸ k.forward
  · rcases k.forward with same | further
    · exact .inr (same ▸ more)
    · exact .inr (Nat.lt_trans more further)

end Handle.Ages

namespace HandleBench

theorem Does.ages {a : Act} {h : HandleId} {x y : Handle} (does : Does a h x y) : x.Ages y :=
  ⟨does.forward, does.failure, does.ended⟩

/-! Whole runs. -/

section Runs
variable {start b : HandleBench} {h : HandleId} {x y : Handle}

theorem run_ages (hx : b.handles[h]? = some x) (acts : List Act) :
    ∃ y, (b.run acts).handles[h]? = some y ∧ x.Ages y := by
  induction acts generalizing b x with
  | nil => exact ⟨x, hx, .refl x⟩
  | cons a acts ih =>
    obtain ⟨y, hy, does⟩ := act_does hx a
    obtain ⟨z, hz, ages⟩ := ih hy
    exact ⟨z, hz, does.ages.trans ages⟩

theorem ages_between {before after : List Act} (hy : (start.run before).handles[h]? = some y)
    (hx : (start.run (before ++ after)).handles[h]? = some x) : y.Ages x := by
  rw [run_append] at hx
  obtain ⟨z, hz, ages⟩ := run_ages hy after
  obtain rfl : x = z := Option.some.inj (hx.symm.trans hz)
  exact ages

/-- A handle that waits follows no device. -/
theorem free_run (fresh : start.handles = []) (acts : List Act)
    (hx : (start.run acts).handles[h]? = some x) (waits : x.state = .unopened) :
    x.binding = none := by
  suffices free : ∀ (b : HandleBench), (∀ (h : HandleId) (x : Handle), b.handles[h]? = some x →
      x.state = .unopened → x.binding = none) →
      ∀ (h : HandleId) (x : Handle), (b.run acts).handles[h]? = some x →
        x.state = .unopened → x.binding = none from
    free start (fun h x hx => by simp [fresh] at hx) h x hx waits
  clear hx waits
  induction acts with
  | nil => exact fun b free => free
  | cons a acts ih =>
    intro b free
    refine ih (b.act a) fun h y hy => ?_
    cases hx : b.handles[h]? with
    | none =>
      obtain ⟨c, rfl⟩ := act_created hx hy
      exact fun _ => rfl
    | some x =>
      obtain ⟨z, hz, does⟩ := act_does hx a
      obtain rfl : y = z := Option.some.inj (hy.symm.trans hz)
      exact does.free (free h x hx)

/-- What becomes true of a handle does so when it is created, or by what is done to it. -/
theorem becomes {P : Handle → Prop} {acts : List Act} (fresh : start.handles = [])
    (hx : (start.run acts).handles[h]? = some x) (holds : P x) :
    (∃ c : CameraId, P { camera := c }) ∨ ∃ before a after y z, acts = before ++ a :: after ∧
      (start.run before).handles[h]? = some y ∧
      (start.run (before ++ [a])).handles[h]? = some z ∧ ¬P y ∧ P z ∧ Does a h y z := by
  have last : ∃ z, (acts.foldl act start).handles[h]? = some z ∧ P z := ⟨x, hx, holds⟩
  obtain ⟨before, a, after, rfl, not, z, hz, becomes⟩ := exists_step_of_foldl
    (P := fun b : HandleBench => ∃ z, b.handles[h]? = some z ∧ P z) (by simp [fresh]) last
  cases hy : (start.run before).handles[h]? with
  | none =>
    obtain ⟨c, rfl⟩ := act_created hy hz
    exact .inl ⟨c, becomes⟩
  | some y =>
    obtain ⟨z', hz', does⟩ := act_does hy a
    obtain rfl : z = z' := Option.some.inj (hz.symm.trans hz')
    exact .inr ⟨before, a, after, y, z, rfl, hy, by rw [run_append]; exact hz,
      fun holds => not ⟨y, hy, holds⟩, becomes, does⟩

/-- A connect that succeeds finds the handle waiting. -/
theorem waits_of_connect {d : DeviceId} {takeToken : Bool}
    (yes : (b.connect h d takeToken).1 = true) :
    ∃ y, b.handles[h]? = some y ∧ y.state = .unopened ∧
      ∃ z, (b.act (.connect h d takeToken)).handles[h]? = some z ∧ z.state = .connected := by
  cases hy : b.handles[h]? with
  | none => simp [connect, hy] at yes
  | some y =>
    obtain ⟨hh, -⟩ := List.getElem?_eq_some_iff.1 hy
    rcases connect_cases h hy d takeToken with ⟨waits, -, token, handles⟩ | ⟨-, no, -⟩
    · exact ⟨y, rfl, waits, y.taken d token,
        (congrArg (·[h]?) handles).trans (List.getElem?_set_self hh), rfl⟩
    · cases no.symm.trans yes

end Runs

/-- The life of the handle `h`, which is `x` at the end of a run. -/
structure Life (start : HandleBench) (acts : List Act) (h : HandleId) (x : Handle) : Prop where
  /-- A state that it had is its state still, or lies behind it. -/
  forward : ∀ before after y, acts = before ++ after →
    (start.run before).handles[h]? = some y →
      y.state = x.state ∨ y.state.rank < x.state.rank
  /-- A connect that succeeds leads from the first state to the second. -/
  connects : ∀ before d takeToken after, acts = before ++ .connect h d takeToken :: after →
    ((start.run before).connect h d takeToken).1 = true →
      ∃ y, (start.run before).handles[h]? = some y ∧ y.state = .unopened ∧
      ∃ z, (start.run (before ++ [.connect h d takeToken])).handles[h]? = some z ∧
        z.state = .connected
  /-- No two connects succeed. -/
  once : ∀ before d takeToken after before' d' takeToken' after',
    acts = before ++ .connect h d takeToken :: after →
    acts = before' ++ .connect h d' takeToken' :: after' →
    ((start.run before).connect h d takeToken).1 = true →
    ((start.run before').connect h d' takeToken').1 = true → before = before'
  /-- Only a handle that was connected is closed. -/
  closed : x.state = .closed → ∃ before after y, acts = before ++ after ∧
    (start.run before).handles[h]? = some y ∧ y.state = .connected
  /-- A failure is on record if it has given the handle up. -/
  recorded : ∀ reason, x.failure = some reason ↔ ∃ before after y z,
    acts = before ++ .fail h reason :: after ∧
    (start.run before).handles[h]? = some y ∧ y.state = .unopened ∧
    (start.run (before ++ [.fail h reason])).handles[h]? = some z ∧ z.state = .disconnected
  /-- A record stays as it is. -/
  kept : ∀ before after y reason, acts = before ++ after →
    (start.run before).handles[h]? = some y → y.failure = some reason →
      x.failure = some reason
  /-- A handle that failed is disconnected, and it is and was bound to nothing. -/
  failed : x.failure ≠ none → x.state = .disconnected ∧ ∀ before after y,
    acts = before ++ after → (start.run before).handles[h]? = some y → y.binding = none

section Theorems
variable {start : HandleBench} {h : HandleId} {x : Handle}

/-- After a connect that succeeded the handle no longer waits, so that the next one fails. -/
theorem not_connect_again {before mid : List Act} {d d' : DeviceId} {takeToken again : Bool}
    (first : ((start.run before).connect h d takeToken).1 = true) :
    ((start.run (before ++ .connect h d takeToken :: mid)).connect h d' again).1 ≠ true := by
  intro second
  obtain ⟨-, -, -, z, hz, connected⟩ := waits_of_connect first
  obtain ⟨y, hy, waits, -⟩ := waits_of_connect second
  have later : start.run (before ++ .connect h d takeToken :: mid) =
      ((start.run before).act (.connect h d takeToken)).run mid := run_append _ _ _
  rw [later] at hy
  obtain ⟨y', hy', ages⟩ := run_ages hz mid
  obtain rfl : y = y' := Option.some.inj (hy.symm.trans hy')
  exact ages.resolved (by simp [connected]) waits

theorem act_fail {b : HandleBench} (hx : b.handles[h]? = some x) (waits : x.state = .unopened)
    (reason : OpenFailure) : (b.act (.fail h reason)).handles[h]? =
      some { x with state := .disconnected, failure := some reason } := by
  obtain ⟨hh, -⟩ := List.getElem?_eq_some_iff.1 hx
  have fails : b.act (.fail h reason) =
      (b.setHandle h { x with state := .disconnected, failure := some reason }).emit
        (.handleFailed h x.camera reason) := by
    simp only [act, fail]
    rw [hx]
    dsimp only
    rw [Handle.fail?, if_pos waits]
  rw [fails]
  exact List.getElem?_set_self hh

/-- A failure is on record because it gave up a handle that waited. -/
theorem given_up (fresh : start.handles = []) {acts : List Act} {reason : OpenFailure}
    (hx : (start.run acts).handles[h]? = some x) (recorded : x.failure = some reason) :
    ∃ before after y z, acts = before ++ .fail h reason :: after ∧
      (start.run before).handles[h]? = some y ∧ y.state = .unopened ∧
      (start.run (before ++ [.fail h reason])).handles[h]? = some z ∧ z.IsEnded := by
  rcases becomes (P := fun x => x.failure = some reason) fresh hx recorded with
    ⟨c, nothing⟩ | ⟨before, a, after, y, z, rfl, hy, hz, not, given, does⟩
  · cases nothing
  · obtain ⟨rfl, waits, -⟩ := does.recorded not given
    refine ⟨before, after, y, z, rfl, hy, waits, hz, ?_⟩
    rw [run_append] at hz
    obtain rfl := Option.some.inj ((act_fail hy waits reason).symm.trans hz)
    have unbound : y.binding = none := free_run fresh before hy waits
    exact ⟨rfl, unbound⟩

theorem ended_of_failure (fresh : start.handles = []) {acts : List Act} {reason : OpenFailure}
    (hx : (start.run acts).handles[h]? = some x) (recorded : x.failure = some reason) :
    x.IsEnded := by
  obtain ⟨before, after, y, z, rfl, -, -, hz, ended⟩ := given_up fresh hx recorded
  rw [List.append_cons] at hx
  exact (ages_between hz hx).ended ended

/-- A handle that failed was bound to nothing, neither while it waited nor later. -/
theorem unbound_of_failure (fresh : start.handles = []) {before after : List Act} {y : Handle}
    {reason : OpenFailure} (hx : (start.run (before ++ after)).handles[h]? = some x)
    (recorded : x.failure = some reason) (hy : (start.run before).handles[h]? = some y) :
    y.binding = none := by
  obtain ⟨first, last, w, z, split, hw, waits, hz, ended⟩ := given_up fresh hx recorded
  rcases List.append_eq_append_iff.1 split with ⟨mid, rfl, -⟩ | ⟨mid, rfl, tail⟩
  · refine free_run fresh before hy ?_
    by_contra resolved
    exact (ages_between hy hw).resolved resolved waits
  · cases mid with
    | nil =>
      rw [List.append_nil] at hy
      obtain rfl : y = w := Option.some.inj (hy.symm.trans hw)
      exact free_run fresh first hy waits
    | cons a mid =>
      obtain ⟨rfl, -⟩ := List.cons.inj tail
      rw [List.append_cons] at hy
      exact ((ages_between hz hy).ended ended).2

/-- Every handle of a bench that started without handles lives such a life, whatever happens. -/
theorem handle_life (start : HandleBench) (fresh : start.handles = []) (acts : List Act)
    (h : HandleId) (x : Handle) (hx : (start.run acts).handles[h]? = some x) :
    start.Life acts h x where
  forward := by
    rintro before after y rfl hy
    exact ((ages_between hy hx).forward).imp Eq.symm id
  connects := by
    rintro before d takeToken after rfl yes
    obtain ⟨y, hy, waits, z, hz, connected⟩ := waits_of_connect yes
    exact ⟨y, hy, waits, z, by rw [run_append]; exact hz, connected⟩
  once := by
    rintro before d takeToken after before' d' takeToken' after' rfl split yes yes'
    rcases List.append_eq_append_iff.1 split with ⟨mid, rfl, tail⟩ | ⟨mid, rfl, tail⟩
    · cases mid with
      | nil => exact (List.append_nil _).symm
      | cons a mid =>
        obtain ⟨rfl, -⟩ := List.cons.inj tail
        exact absurd yes' (not_connect_again yes)
    · cases mid with
      | nil => exact List.append_nil _
      | cons a mid =>
        obtain ⟨rfl, -⟩ := List.cons.inj tail
        exact absurd yes (not_connect_again yes')
  closed := by
    intro closed
    rcases becomes (P := fun x => x.state = .closed ∨ x.binding ≠ none) fresh hx (.inl closed) with
      ⟨c, nothing⟩ | ⟨before, a, after, y, z, rfl, hy, hz, not, holds, does⟩
    · exact absurd nothing (by simp)
    · exact ⟨before ++ [a], after, z, by simp, hz, does.connected not holds⟩
  recorded := by
    intro reason
    constructor
    · intro recorded
      obtain ⟨before, after, y, z, split, hy, waits, hz, ended⟩ := given_up fresh hx recorded
      exact ⟨before, after, y, z, split, hy, waits, hz, ended.1⟩
    · rintro ⟨before, after, y, z, rfl, hy, waits, hz, disconnected⟩
      rw [List.append_cons] at hx
      have recorded : z.failure = some reason := by
        rw [run_append] at hz
        obtain rfl := Option.some.inj ((act_fail hy waits reason).symm.trans hz)
        rfl
      exact ((ages_between hz hx).failure (by simp [disconnected])).trans recorded
  kept := by
    rintro before after y reason rfl hy recorded
    have ended := ended_of_failure fresh hy recorded
    exact ((ages_between hy hx).failure (by simp [ended.1])).trans recorded
  failed := by
    intro failed
    obtain ⟨reason, recorded⟩ := Option.ne_none_iff_exists'.1 failed
    refine ⟨(ended_of_failure fresh hx recorded).1, ?_⟩
    rintro before after y rfl hy
    exact unbound_of_failure fresh hx recorded hy

end Theorems

def oneStream : HandleBench :=
  { timer := { window := 1000 }, streams := [{ state := .open }] }

/-- The first handle is connected, its device goes away, and nobody can connect it again. The second
one fails. -/
def twoLives : List Act :=
  [.create Broker.front, .create Broker.front, .connect 0 0 true, .observe 0,
    .publish 0 .closing, .observe 0, .connect 0 0 true, .fail 1 .superseded, .connect 1 0 true,
    .disconnect 1, .publish 0 .closed, .observe 0]

theorem handle_life_twoLives : ∃ x y, oneStream.Life twoLives 0 x ∧ x.state = .closed ∧
    oneStream.Life twoLives 1 y ∧ y.failure = some .superseded := by
  have first : ((oneStream.run twoLives).handles[0]?).map (·.state) = some .closed := by decide
  have second : ((oneStream.run twoLives).handles[1]?).map (·.failure) =
      some (some .superseded) := by decide
  obtain ⟨x, hx, closed⟩ := Option.map_eq_some_iff.1 first
  obtain ⟨y, hy, failed⟩ := Option.map_eq_some_iff.1 second
  exact ⟨x, y, handle_life oneStream rfl twoLives 0 x hx, closed,
    handle_life oneStream rfl twoLives 1 y hy, failed⟩

end HandleBench

end CameraBroker
