import CameraBroker.Proofs.RoundsLeft

/-! The loop makes progress. In a run that nothing disturbs it begins at most four rounds for each
request that waits, and once what it waits for comes to an end it is done with all of them. A round
that is done with none has helped the oldest open on in one of three ways, each at most once. -/
namespace CameraBroker

namespace Broker

def after (b : Broker) (actions : Nat → Action) : Nat → Broker
  | 0 => b
  | t + 1 => (b.after actions t).step (actions t)

theorem after_succ (b : Broker) (actions : Nat → Action) (t : Nat) :
    b.after actions (t + 1) = (b.after actions t).step (actions t) := rfl

/-- How many rounds the loop has begun by then. -/
def rounds (b : Broker) (actions : Nat → Action) : Nat → Nat
  | 0 => 0
  | t + 1 => b.rounds actions t + if (b.after actions t).BeginsRound (actions t) then 1 else 0

/-- What the loop waits for comes to an end: it gets its turns, the opener's calls come back, and the
devices of the sessions that it closes are gone from some time on. -/
structure Fair (b : Broker) (actions : Nat → Action) : Prop where
  turns : ∀ t, ∃ u, t ≤ u ∧ actions u = .turn .loop
  opens : ∀ t h call, (b.after actions t).loop.stage = .opening h call →
    ∃ u, t ≤ u ∧ (b.after actions u).loop.stage = .reading
  closes : ∀ t, ∀ i ∈ (b.after actions t).loop.stage.left,
    ∃ u, ∀ v, u ≤ v → (b.after actions v).isSessionGone i = true

structure Iteration (b : Broker) (actions : Nat → Action) (t u : Nat) : Prop where
  begins : (b.after actions t).BeginsRound (actions t)
  later : t < u
  finished : (b.after actions u).loop.stage = .reading
  first : ∀ v, t < v → v < u → (b.after actions v).loop.stage ≠ .reading

structure ClosesAll (b : Broker) (actions : Nat → Action) (t u : Nat) (sessions : List SessionId) :
    Prop where
  out : ∀ i ∈ sessions, i ∈ (b.after actions t).loop.active ∧ i ∉ (b.after actions u).loop.active
  down : ∀ i ∈ sessions, ∃ v, t ≤ v ∧ v < u ∧ (b.after actions v).view.IsDown i

/-- How a round can help an open on without being done with it. -/
inductive Headway where
  | room
  | replacement
  | session

/-- In a round from `t` to `u` the loop takes up the open of a handle and closes the sessions of other
cameras, closes the session whose device is lost, or adds the session that its camera does not have. -/
inductive Helps (b : Broker) (actions : Nat → Action) (h : HandleId) (t u : Nat) : Headway → Prop where
  | room {x : Handle} (evaluates : (b.after actions t).Evaluates h false x)
      (crowded : ((b.after actions t).conflicting x.camera).1 ≠ [])
      (closes : b.ClosesAll actions t u ((b.after actions t).conflicting x.camera).1) :
      Helps b actions h t u .room
  | replacement {share : Bool} {x : Handle} {i : SessionId}
      (evaluates : (b.after actions t).Evaluates h share x)
      (alone : share = false → ((b.after actions t).conflicting x.camera).1 = [])
      (session : (b.after actions t).activeFor? x.camera = some i)
      (dead : (b.after actions t).view.IsClosing i) (closes : b.ClosesAll actions t u [i]) :
      Helps b actions h t u .replacement
  | session {share : Bool} {x : Handle} {i : SessionId}
      (evaluates : (b.after actions t).Evaluates h share x)
      (alone : share = false → ((b.after actions t).conflicting x.camera).1 = [])
      (none : (b.after actions t).activeFor? x.camera = none)
      (added : (b.after actions u).activeFor? x.camera = some i) :
      Helps b actions h t u .session

/-- What an endless run comes to that nothing disturbs. -/
structure Progresses (b : Broker) (actions : Nat → Action) : Prop where
  bounded : ∀ t, b.rounds actions t ≤ 4 * b.waiting.length
  emptied : ∀ t, 4 * b.waiting.length ≤ b.rounds actions t → (b.after actions t).waiting = []
  drains : b.Fair actions → ∃ t, ∀ u, t ≤ u → (b.after actions u).waiting = []
  helps : ∀ t u, b.Iteration actions t u →
    (b.after actions u).waiting.length < (b.after actions t).waiting.length ∨
      (b.after actions u).waiting = (b.after actions t).waiting ∧ ∃ h way, b.Helps actions h t u way
  once : ∀ h way t u t' u', b.Iteration actions t u → b.Iteration actions t' u' →
    b.Helps actions h t u way → b.Helps actions h t' u' way → t = t'

/-! A loop that waits for something. -/

section
variable {b b' : Broker} {a : Action} {sessions left : List SessionId} {after : AfterClose}

/-- Nothing but its own turns moves the loop. -/
theorem Reachable.loop_step (hr : b.Reachable) (other : a ≠ .turn .loop) :
    (b.step a).loop = b.loop :=
  (View.Aside.of_meanwhile (beside_step hr.sound.devicesFit other).view).loop

theorem ne_nil_of_await {v : View} {ss ls : List SessionId} {after' : AfterClose}
    (stage : (v.await ss ls after').loop.stage = .closing sessions left after) : left ≠ [] := by
  have next : LoopStage.afterWait ss ls after' = .closing sessions left after := stage
  cases ls with
  | nil => cases after' <;> cases next
  | cons i ls =>
    cases next
    exact List.cons_ne_nil i ls

theorem ne_nil_of_retire {v : View} {ss active ls : List SessionId} {after' : AfterClose}
    (stage : (v.retire ss active ls after').loop.stage = .closing sessions left after) :
    left ≠ [] :=
  ne_nil_of_await (v := (v.setActive active).startCloses ss) stage

theorem Opens.not_closing {w v : View} {h : HandleId} {c : CameraId} (opens : Opens b' h c v w)
    {ss ls : List SessionId} : w.loop.stage ≠ .closing ss ls after := by
  cases opens <;> exact nofun

theorem Rule.ne_nil_of_closing {w : View} (rule : Rule b b' w)
    (old : ∀ {ss ls after}, b.loop.stage = .closing ss ls after → ls ≠ [])
    (stage : w.loop.stage = .closing sessions left after) : left ≠ [] := by
  cases rule with
  | idle => exact old stage
  | start => cases stage
  | finish => exact ne_nil_of_retire stage
  | close => exact ne_nil_of_retire stage
  | closeAll => exact ne_nil_of_retire stage
  | opener _ _ opens => exact absurd stage opens.not_closing
  | await => exact ne_nil_of_await stage
  | serve _ _ _ serves =>
    cases serves with
    | stale => cases stage
    | makeRoom => exact ne_nil_of_retire stage
    | replace => exact ne_nil_of_retire stage
    | attach => cases stage
    | deny => cases stage
    | ask _ _ _ opens => exact absurd stage opens.not_closing

/-- A loop that waits for sessions waits for one at least. -/
theorem Reachable.left_ne_nil (hr : b.Reachable)
    (stage : b.loop.stage = .closing sessions left after) : left ≠ [] := by
  refine hr.view_invariant (P := fun v => ∀ {sessions left after},
    v.loop.stage = .closing sessions left after → left ≠ []) nofun ?_ ?_ stage
  · intro kept v w _ move hv ss ls after stage
    rw [(View.Aside.of_background move).loop] at stage
    exact hv stage
  · intro b b' _ turn hv ss ls after stage
    exact turn.rule.ne_nil_of_closing hv stage

theorem resumeLoop_closing (stage : b.loop.stage = .closing sessions left after) :
    b.resumeLoop.loop.stage =
      .afterWait sessions (left.filter fun i => !b.isSessionGone i) after := by
  rw [resumeLoop, stage]
  exact congrArg (·.loop.stage) (b.view_awaitClosed sessions left after)

/-- A loop that waits for sessions goes on waiting for some of them, or reads, or stops. -/
theorem Reachable.closing_step (hr : b.Reachable) (a : Action)
    (stage : b.loop.stage = .closing sessions left after) :
    (∃ left', left' ⊆ left ∧ (b.step a).loop.stage = .closing sessions left' after) ∨
      (b.step a).loop.stage = .reading ∨ (b.step a).loop.stage = .stopped := by
  by_cases turn : a = .turn .loop
  · subst turn
    rcases loop_turn hr.sound with stays | ⟨turns, -⟩
    · exact .inl ⟨left, List.Subset.refl _, by rw [stays, stage]⟩
    · rw [turns, resumeLoop_closing stage]
      have sub : left.filter (fun i => !b.isSessionGone i) ⊆ left := List.filter_sublist.subset
      cases rest : left.filter fun i => !b.isSessionGone i with
      | nil => cases after <;> simp [LoopStage.afterWait]
      | cons i more => exact .inl ⟨i :: more, rest ▸ sub, rfl⟩
  · exact .inl ⟨left, List.Subset.refl _, by rw [hr.loop_step turn, stage]⟩

/-- Once all of them are gone it does not wait any longer. -/
theorem Reachable.closing_turn (hr : b.Reachable)
    (stage : b.loop.stage = .closing sessions left after)
    (gone : ∀ i ∈ left, b.isSessionGone i = true) :
    (b.step (.turn .loop)).loop.stage = .reading ∨
      (b.step (.turn .loop)).loop.stage = .stopped := by
  obtain ⟨i, more, rfl⟩ := List.exists_cons_of_ne_nil (hr.left_ne_nil stage)
  have ready : b.loopReady = true := by
    simp [loopReady, stage, gone i List.mem_cons_self]
  have none : (i :: more).filter (fun i => !b.isSessionGone i) = [] :=
    List.filter_eq_nil_iff.2 fun j hj => by simp [gone j hj]
  rw [step_loop ready, resumeLoop_closing stage, none]
  cases after <;> simp [LoopStage.afterWait]

end

section
variable {b : Broker} {actions : Nat → Action} {t u v : Nat} {h : HandleId} {c : CameraId}

theorem Reachable.after (hr : b.Reachable) (actions : Nat → Action) (t : Nat) :
    (b.after actions t).Reachable := by
  induction t with
  | zero => exact hr
  | succ t ih => exact ih.step (actions t)

/-- A handle is for the same camera ever after. -/
theorem Reachable.wanted_after (hr : b.Reachable)
    (camera : (b.after actions t).view.wanted[h]? = some c) (later : t ≤ u) :
    (b.after actions u).view.wanted[h]? = some c := by
  induction later with
  | refl => exact camera
  | @step u later ih => exact (hr.after actions u).wanted_step ih (actions u)

section Calm
variable (hr : b.Reachable) (calm : ∀ t, (b.after actions t).Undisturbed (actions t))
include hr calm

theorem roundsLeft_after (t : Nat) :
    (b.after actions t).roundsLeft + b.rounds actions t ≤ b.roundsLeft := by
  induction t with
  | zero => exact Nat.le_refl _
  | succ t ih =>
    have step := (hr.after actions t).roundsLeft_step (calm t)
    have more : b.rounds actions (t + 1) = b.rounds actions t +
      if (b.after actions t).BeginsRound (actions t) then 1 else 0 := rfl
    rw [after_succ, more]
    omega

theorem roundsLeft_antitone (later : t ≤ u) :
    (b.after actions u).roundsLeft ≤ (b.after actions t).roundsLeft := by
  induction later with
  | refl => exact Nat.le_refl _
  | @step u later ih =>
    have step := (hr.after actions u).roundsLeft_step (calm u)
    exact Nat.le_trans (Nat.le_trans (Nat.le_add_right _ _) step) ih

theorem waiting_sublist (later : t ≤ u) :
    (b.after actions u).waiting.Sublist (b.after actions t).waiting := by
  induction later with
  | refl => exact List.Sublist.refl _
  | @step u later ih =>
    refine List.Sublist.trans ?_ ih
    rw [after_succ]
    cases (hr.after actions u).stride (calm u) with
    | empties none => exact none ▸ List.nil_sublist _
    | serves head => exact head ▸ List.sublist_cons_self _ _
    | overtakes mem close sub fewer => exact sub
    | keeps same pace => exact same ▸ List.Sublist.refl _

/-- A step that is done with none of the requests goes on for the oldest open. -/
theorem pace_of_length (busy : (b.after actions t).waiting ≠ [])
    (length : (b.after actions (t + 1)).waiting.length = (b.after actions t).waiting.length) :
    (b.after actions (t + 1)).waiting = (b.after actions t).waiting ∧
      (b.after actions t).Pace (actions t) (b.after actions (t + 1)) := by
  rw [after_succ] at length ⊢
  cases (hr.after actions t).stride (calm t) with
  | empties none =>
    rw [none] at length
    exact absurd (List.eq_nil_of_length_eq_zero length.symm) busy
  | serves head =>
    rw [head, List.length_cons] at length
    omega
  | overtakes mem close sub fewer => omega
  | keeps same pace => exact ⟨same, pace⟩

/-- While no request is done with, each step goes on for the oldest open. -/
theorem pace_of_same (busy : (b.after actions t).waiting ≠ [])
    (length : (b.after actions u).waiting.length = (b.after actions t).waiting.length)
    (start : t ≤ v) (before : v + 1 ≤ u) :
    (b.after actions v).waiting = (b.after actions t).waiting ∧
      (b.after actions v).Pace (actions v) (b.after actions (v + 1)) := by
  have here := waiting_sublist hr calm start
  have next := (waiting_sublist hr calm (Nat.le_add_right v 1)).length_le
  have rest := (waiting_sublist hr calm before).length_le
  have same : (b.after actions v).waiting = (b.after actions t).waiting := by
    refine here.eq_of_length ?_
    have shorter := here.length_le
    omega
  refine ⟨same, (pace_of_length hr calm (same.symm ▸ busy) ?_).2⟩
  rw [same]
  rw [same] at next
  omega

/-! What a round has done by its end. -/

section Rounds
variable (round : b.Iteration actions t u)
  (length : (b.after actions u).waiting.length = (b.after actions t).waiting.length)
include round length

/-- In a round that asks for no device the loop waits for the sessions that it closes. -/
theorem closes_until (idle : (b.after actions (t + 1)).loop.stage.opens? = none)
    (start : t + 1 ≤ v) (before : v ≤ u) :
    (b.after actions v).loop.stage.opens? = none ∧
      (b.after actions v).loop.active = (b.after actions (t + 1)).loop.active ∧
      ∀ i ∈ (b.after actions (t + 1)).loop.stage.left, i ∈ (b.after actions v).loop.stage.left ∨
        ∃ w, t ≤ w ∧ w < v ∧ (b.after actions w).view.IsDown i := by
  induction start with
  | refl => exact ⟨idle, rfl, fun i => .inl⟩
  | @step v start ih =>
    obtain ⟨calls, active, left⟩ := ih (Nat.le_of_lt before)
    have waits := round.first v (Nat.lt_of_succ_le start) before
    cases (pace_of_same hr calm round.begins.busy length (Nat.le_of_succ_le start) before).2 with
    | rests quiet same kept awaits eases =>
      refine ⟨same.trans calls, kept.trans active, fun i hi => ?_⟩
      rcases left i hi with waited | ⟨w, from', before', down⟩
      · rcases awaits i waited with still | down
        · exact .inl still
        · exact .inr ⟨v, Nat.le_of_succ_le start, Nat.lt_succ_self v, down⟩
      · exact .inr ⟨w, from', Nat.lt_succ_of_lt before', down⟩
    | makesRoom evaluates => exact absurd evaluates.stage waits
    | replaces evaluates => exact absurd evaluates.stage waits
    | asks evaluates => exact absurd evaluates.stage waits
    | joins called => cases calls.symm.trans called

/-- The sessions that a round closes are closed when it is over. -/
theorem closesAll_of_idle (idle : (b.after actions (t + 1)).loop.stage.opens? = none)
    {sessions : List SessionId} (active : ∀ i ∈ sessions, i ∈ (b.after actions t).loop.active)
    (out : ∀ i ∈ sessions, i ∉ (b.after actions (t + 1)).loop.active ∧
      (i ∈ (b.after actions (t + 1)).loop.stage.left ∨ (b.after actions t).view.IsDown i)) :
    b.ClosesAll actions t u sessions := by
  obtain ⟨-, kept, left⟩ :=
    closes_until hr calm round length idle (Nat.succ_le_of_lt round.later) (Nat.le_refl u)
  refine ⟨fun i hi => ⟨active i hi, kept ▸ (out i hi).1⟩, fun i hi => ?_⟩
  rcases (out i hi).2 with waited | down
  · rcases left i waited with still | down
    · rw [round.finished] at still
      cases still
    · exact down
  · exact ⟨t, Nat.le_refl t, round.later, down⟩

/-- In a round that asks for a device, a session for it has joined the active ones in the end. -/
theorem joins_of_calls (called : (b.after actions (t + 1)).loop.stage.opens? = some h)
    (camera : (b.after actions t).view.wanted[h]? = some c) :
    ∃ i, (b.after actions u).view.sessionFor? c = some i ∧
      (b.after actions u).view.roundsFor c = 1 := by
  by_contra missing
  have calls : ∀ v, t + 1 ≤ v → v ≤ u → (b.after actions v).loop.stage.opens? = some h ∧
      (b.after actions v).view.wanted[h]? = some c := by
    intro v start before
    induction start with
    | refl => exact ⟨called, (hr.after actions t).wanted_step camera (actions t)⟩
    | @step v start ih =>
      obtain ⟨calls, camera⟩ := ih (Nat.le_of_lt before)
      have camera' := (hr.after actions v).wanted_step camera (actions v)
      have waits := round.first v (Nat.lt_of_succ_le start) before
      cases (pace_of_same hr calm round.begins.busy length (Nat.le_of_succ_le start) before).2 with
      | rests quiet same kept awaits eases => exact ⟨same.trans calls, camera'⟩
      | makesRoom evaluates => exact absurd evaluates.stage waits
      | replaces evaluates => exact absurd evaluates.stage waits
      | asks evaluates => exact absurd evaluates.stage waits
      | @joins g c' called' asked stage i session one others =>
        obtain rfl : h = g := Option.some.inj (calls.symm.trans called')
        obtain rfl : c = c' := Option.some.inj (camera.symm.trans asked.camera)
        -- The loop reads again, so the round is over.
        have began : t < v := Nat.lt_of_succ_le start
        have last : v + 1 = u := by
          by_contra other
          exact round.first (v + 1) (by omega) (by omega) stage
        exact absurd ⟨i, last ▸ session, last ▸ one⟩ missing
  obtain ⟨calls, -⟩ := calls u (Nat.succ_le_of_lt round.later) (Nat.le_refl u)
  rw [round.finished] at calls
  cases calls

/-- A round that is done with none of the requests has helped the oldest open on. -/
theorem helps_of_length : (b.after actions u).waiting = (b.after actions t).waiting ∧
    ∃ h way, Helps b actions h t u way := by
  have sub := waiting_sublist hr calm (Nat.le_of_lt round.later)
  refine ⟨sub.eq_of_length length, ?_⟩
  have first := pace_of_same hr calm round.begins.busy length (Nat.le_refl t)
    (Nat.succ_le_of_lt round.later)
  cases first.2 with
  | rests quiet => exact absurd round.begins quiet
  | @makesRoom h x evaluates waits crowded idle out others rounds =>
    rw [view_others] at crowded out
    refine ⟨h, .room, .room evaluates crowded ?_⟩
    refine closesAll_of_idle hr calm round length idle (fun i hi => ?_) out
    rw [← view_others] at hi
    exact (List.mem_filter.1 hi).1
  | @replaces h share x i evaluates waits alone session dead idle out others rounds =>
    refine ⟨h, .replacement, .replacement evaluates (fun exclusive => ?_) ?_ dead ?_⟩
    · rw [← view_others, alone exclusive]
    · rwa [← view_sessionFor?]
    · refine closesAll_of_idle hr calm round length idle (fun j hj => ?_) fun j hj => ?_
      · exact List.mem_singleton.1 hj ▸ (View.sessionFor?_cameraOf session).1
      · exact List.mem_singleton.1 hj ▸ out
  | @asks h share x evaluates waits none calls active alone eases =>
    obtain ⟨i, session, -⟩ := joins_of_calls hr calm round length calls evaluates.wanted
    refine ⟨h, .session, .session evaluates (fun exclusive => ?_) ?_ (i := i) ?_⟩
    · rw [← view_others, alone exclusive]
    · rwa [← view_sessionFor?]
    · rwa [← view_sessionFor?]
  | joins calls =>
    rw [round.begins.stage] at calls
    cases calls

end Rounds

/-! Each way of helping an open is taken at most once. -/

/-- As long as an open that was taken up waits, everything behind it waits too. -/
theorem waiting_of_evaluates {share : Bool} {x : Handle}
    (evaluates : (b.after actions t).Evaluates h share x) (later : t ≤ u) {share' : Bool}
    (still : .open h share' ∈ (b.after actions u).waiting) :
    (b.after actions u).waiting = (b.after actions t).waiting := by
  induction later with
  | refl => rfl
  | @step u later ih =>
    have before := ih ((waiting_sublist hr calm (Nat.le_add_right u 1)).subset still)
    rw [Nat.succ_eq_add_one, after_succ] at still ⊢
    cases (hr.after actions u).stride (calm u) with
    | empties none =>
      rw [none] at still
      cases still
    | serves head =>
      obtain ⟨rest, first⟩ := evaluates.head
      have once := (hr.after actions u).waiting_nodup
      cases head.symm.trans (before.trans first)
      rw [head] at once
      exact absurd (mem_handles still) (List.nodup_cons.1 once).1
    | overtakes mem close sub fewer =>
      rw [before] at mem
      cases close.symm.trans (evaluates.opens _ mem)
    | keeps same pace => exact same.trans before

/-- What was done for an open that was taken up stays done while it waits. -/
theorem eases_of_evaluates {share : Bool} {x : Handle}
    (evaluates : (b.after actions t).Evaluates h share x) (start : t ≤ u) (later : u ≤ v)
    {share' : Bool} (still : .open h share' ∈ (b.after actions v).waiting) :
    (b.after actions u).view.Eases x.camera (b.after actions v).view := by
  induction later with
  | refl => exact .refl _ _
  | @step v later ih =>
    have before := (waiting_sublist hr calm (Nat.le_add_right v 1)).subset still
    have began := Nat.le_trans start later
    have same := waiting_of_evaluates hr calm evaluates began before
    have same' := waiting_of_evaluates hr calm evaluates (Nat.le_succ_of_le began) still
    obtain ⟨rest, head⟩ := evaluates.head
    have busy : (b.after actions v).waiting ≠ [] := by
      rw [same, head]
      exact nofun
    have pace := (pace_of_length hr calm busy (by rw [same', same])).2
    have camera := hr.wanted_after evaluates.wanted began
    have next := pace.eases (same.trans head) camera
    have first := ih before
    exact ⟨Nat.le_trans next.rounds first.rounds, next.others ∘ first.others⟩

/-- A round that helps an open on has changed what it found. -/
theorem not_helps_again {way : Headway} (round : b.Iteration actions t u)
    (helps : b.Helps actions h t u way) (later : u ≤ v) (w : Nat) :
    ¬b.Helps actions h v w way := by
  intro again
  have start := Nat.le_of_lt round.later
  have next : t + 1 ≤ v := Nat.le_trans (Nat.succ_le_of_lt round.later) later
  have camera : ∀ {share share' : Bool} {x y : Handle}, (b.after actions t).Evaluates h share x →
      (b.after actions v).Evaluates h share' y → y.camera = x.camera := by
    intro share share' x y evaluates evaluates'
    have there := hr.wanted_after evaluates.wanted (Nat.le_trans start later)
    exact Option.some.inj (evaluates'.wanted.symm.trans there)
  have pace : ∀ {share share' : Bool} {x : Handle}, (b.after actions t).Evaluates h share x →
      .open h share' ∈ (b.after actions v).waiting →
      (b.after actions u).waiting.length = (b.after actions t).waiting.length ∧
        (b.after actions t).Pace (actions t) (b.after actions (t + 1)) := by
    intro share share' x evaluates still
    have here := (waiting_sublist hr calm later).subset still
    have length := congrArg List.length (waiting_of_evaluates hr calm evaluates start here)
    exact ⟨length, (pace_of_same hr calm round.begins.busy length (Nat.le_refl t)
      (Nat.succ_le_of_lt round.later)).2⟩
  cases helps with
  | room evaluates crowded closes =>
    cases again with
    | room evaluates' crowded' closes' =>
      have still := evaluates'.mem
      have cleared := (pace evaluates still).2.others_of_crowded round.begins evaluates
        (by rwa [view_others])
      have eases := eases_of_evaluates hr calm evaluates (Nat.le_add_right t 1) next still
      rw [camera evaluates evaluates', ← view_others] at crowded'
      exact crowded' (eases.others cleared)
  | replacement evaluates alone session dead closes =>
    cases again with
    | replacement evaluates' alone' session' dead' closes' =>
      have still := evaluates'.mem
      have two := (pace evaluates still).2.rounds_of_dead round.begins evaluates
        (fun exclusive => by rw [view_others, alone exclusive]) (by rwa [view_sessionFor?])
      have eases := eases_of_evaluates hr calm evaluates (Nat.le_add_right t 1) next still
      rw [← view_sessionFor?] at session'
      have three := View.roundsFor_of_closing session' dead'
      have fewer := eases.rounds
      rw [← camera evaluates evaluates'] at two fewer
      omega
  | session evaluates alone none added =>
    cases again with
    | session evaluates' alone' none' added' =>
      have still := evaluates'.mem
      obtain ⟨length, pace⟩ := pace evaluates still
      have calls := pace.calls_of_missing round.begins evaluates
        (fun exclusive => by rw [view_others, alone exclusive]) (by rwa [view_sessionFor?])
      obtain ⟨i, -, one⟩ := joins_of_calls hr calm round length calls evaluates.wanted
      have eases := eases_of_evaluates hr calm evaluates start later still
      rw [← view_sessionFor?] at none'
      have two := View.roundsFor_of_none none'
      have fewer := eases.rounds
      rw [← camera evaluates evaluates'] at one fewer
      omega

/-- Rounds follow each other, so one of two that help the same open in the same way is the other. -/
theorem helps_once {way : Headway} {t' u' : Nat} (round : b.Iteration actions t u)
    (round' : b.Iteration actions t' u') (helps : b.Helps actions h t u way)
    (helps' : b.Helps actions h t' u' way) : t = t' := by
  rcases Nat.lt_trichotomy t t' with before | same | before
  · have finished : u ≤ t' := by
      by_contra inside
      exact round.first t' before (by omega) round'.begins.stage
    exact absurd helps' (not_helps_again hr calm round helps finished u')
  · exact same
  · have finished : u' ≤ t := by
      by_contra inside
      exact round'.first t before (by omega) round.begins.stage
    exact absurd helps (not_helps_again hr calm round' helps' finished u)

end Calm

/-! What waits is done with in the end. -/

section Fairness
variable (hr : b.Reachable) (fair : b.Fair actions)

include hr fair in
/-- The loop gets its turn, and until then nothing moves it. -/
theorem next_turn (t : Nat) : ∃ u, t ≤ u ∧ actions u = .turn .loop ∧
    (b.after actions u).loop = (b.after actions t).loop := by
  obtain ⟨u, later, turn⟩ := fair.turns t
  obtain ⟨n, rfl⟩ := Nat.exists_eq_add_of_le later
  clear later
  induction n generalizing t with
  | zero => exact ⟨t, Nat.le_refl t, turn, rfl⟩
  | succ n ih =>
    by_cases now : actions t = .turn .loop
    · exact ⟨t, Nat.le_refl t, now, rfl⟩
    · obtain ⟨u, later, turn, same⟩ := ih (t + 1) (by rwa [Nat.add_right_comm])
      exact ⟨u, by omega, turn, same.trans ((hr.after actions t).loop_step now)⟩

include fair in
/-- There is a time from which on all of these devices are gone. -/
theorem gone_from {left : List SessionId}
    (sub : left ⊆ (b.after actions t).loop.stage.left) :
    ∃ u, ∀ v, u ≤ v → ∀ i ∈ left, (b.after actions v).isSessionGone i = true := by
  induction left with
  | nil => exact ⟨0, fun v _ i hi => by cases hi⟩
  | cons j left ih =>
    obtain ⟨first, rest⟩ := List.cons_subset.1 sub
    obtain ⟨u, gone⟩ := fair.closes t j first
    obtain ⟨w, others⟩ := ih rest
    refine ⟨max u w, fun v late i hi => ?_⟩
    rcases List.mem_cons.1 hi with rfl | hi
    · exact gone v (by omega)
    · exact others v (by omega) i hi

include hr fair

/-- The loop does not wait for sessions forever. -/
theorem closing_ends {sessions left : List SessionId} {after : AfterClose}
    (stage : (b.after actions t).loop.stage = .closing sessions left after) :
    ∃ u, t ≤ u ∧ ((b.after actions u).loop.stage = .reading ∨
      (b.after actions u).loop.stage = .stopped) := by
  have here : left ⊆ (b.after actions t).loop.stage.left := by
    rw [stage]
    exact List.Subset.refl _
  obtain ⟨w, gone⟩ := gone_from fair here
  have until' : ∀ v, t ≤ v →
      (∃ u, t ≤ u ∧ ((b.after actions u).loop.stage = .reading ∨
        (b.after actions u).loop.stage = .stopped)) ∨
      ∃ left', left' ⊆ left ∧ (b.after actions v).loop.stage = .closing sessions left' after := by
    intro v later
    induction later with
    | refl => exact .inr ⟨left, List.Subset.refl _, stage⟩
    | @step v later ih =>
      rcases ih with finished | ⟨left', sub, stage'⟩
      · exact .inl finished
      · rcases (hr.after actions v).closing_step (actions v) stage' with ⟨more, sub', next⟩ | finished
        · exact .inr ⟨more, List.Subset.trans sub' sub, next⟩
        · exact .inl ⟨v + 1, Nat.le_succ_of_le later, finished⟩
  obtain ⟨u, later, turn, same⟩ := next_turn hr fair (max t w)
  rcases until' u (by omega) with finished | ⟨left', sub, stage'⟩
  · exact finished
  · refine ⟨u + 1, by omega, ?_⟩
    rw [after_succ, turn]
    exact (hr.after actions u).closing_turn stage' fun i hi => gone u (by omega) i (sub hi)

/-- The loop reads again whatever it is at, unless it is over. -/
theorem reads_again (t : Nat) : ∃ u, t ≤ u ∧ ((b.after actions u).loop.stage = .reading ∨
    (b.after actions u).loop.stage.isEnding = true) := by
  cases stage : (b.after actions t).loop.stage with
  | fresh =>
    obtain ⟨u, later, turn, same⟩ := next_turn hr fair t
    have stage' : (b.after actions u).loop.stage = .fresh := by rw [same, stage]
    have ready : (b.after actions u).loopReady = true := by simp [loopReady, stage']
    refine ⟨u + 1, by omega, .inl ?_⟩
    rw [after_succ, turn, step_loop ready, resumeLoop, stage']
    rfl
  | reading => exact ⟨t, Nat.le_refl t, .inl stage⟩
  | opening h call =>
    obtain ⟨u, later, reads⟩ := fair.opens t h call stage
    exact ⟨u, later, .inl reads⟩
  | closing sessions left after =>
    obtain ⟨u, later, reads | stops⟩ := closing_ends hr fair stage
    · exact ⟨u, later, .inl reads⟩
    · exact ⟨u, later, .inr (by rw [stops]; rfl)⟩
  | stopped => exact ⟨t, Nat.le_refl t, .inr (by rw [stage]; rfl)⟩
  | crashed => exact ⟨t, Nat.le_refl t, .inr (by rw [stage]; rfl)⟩

/-- As long as something waits, there is another round. -/
theorem begins_again (t : Nat) : ∃ u, t ≤ u ∧ ((b.after actions u).waiting = [] ∨
    (b.after actions u).BeginsRound (actions u)) := by
  obtain ⟨u, later, reads | ending⟩ := reads_again hr fair t
  · obtain ⟨v, later', turn, same⟩ := next_turn hr fair u
    refine ⟨v, by omega, ?_⟩
    by_cases none : (b.after actions v).waiting = []
    · exact .inl none
    · exact .inr ⟨turn, by rw [same, reads], none⟩
  · exact ⟨u, later, .inl ((hr.after actions u).sound.ending ending).2.1⟩

end Fairness

/-- In every endless run from a reachable state in which nothing is asked any more, no device of an
active session starts to close and the opener returns devices that are not closing or closed, the
loop begins at most four rounds for each request that waits in the beginning, and none waits after as
many. If it gets its turns and what it waits for comes to an end, no request waits in the end. A round
that is done with no request has helped the oldest open on: it has closed the sessions of other
cameras, or the one whose device was lost, or has added the one that its camera did not have. It does
so at most once each for every open. -/
theorem waiting_drains (hr : b.Reachable)
    (calm : ∀ t, (b.after actions t).Undisturbed (actions t)) : b.Progresses actions := by
  have most : b.roundsLeft ≤ 4 * b.waiting.length :=
    Nat.le_trans b.roundsLeft_le (roundsOf_le b.waiting)
  have empty : ∀ t, (b.after actions t).roundsLeft = 0 → (b.after actions t).waiting = [] := by
    intro t zero
    by_contra busy
    obtain ⟨r, rest, head⟩ := List.exists_cons_of_ne_nil busy
    have more := roundsLeft_cons head
    omega
  refine ⟨fun t => ?_, fun t all => empty t ?_, fun fair => ?_, fun t u round => ?_,
    fun h way t u t' u' round round' => helps_once hr calm round round'⟩
  · have spent := roundsLeft_after hr calm t
    omega
  · have spent := roundsLeft_after hr calm t
    omega
  · -- The rounds that are left go down with each round, and there is another one while any is left.
    have drains : ∀ n t, (b.after actions t).roundsLeft ≤ n →
        ∃ u, (b.after actions u).waiting = [] := by
      intro n
      induction n with
      | zero => exact fun t none => ⟨t, empty t (Nat.le_zero.1 none)⟩
      | succ n ih =>
        intro t left
        obtain ⟨u, later, none | begins⟩ := begins_again hr fair t
        · exact ⟨u, none⟩
        · have before := roundsLeft_antitone hr calm later
          have spent := (hr.after actions u).roundsLeft_step (calm u)
          rw [if_pos begins] at spent
          exact ih (u + 1) (by rw [after_succ]; omega)
    obtain ⟨t, none⟩ := drains _ 0 (Nat.le_refl _)
    refine ⟨t, fun u later => ?_⟩
    exact List.sublist_nil.1 (none ▸ waiting_sublist hr calm later)
  · by_cases length : (b.after actions u).waiting.length = (b.after actions t).waiting.length
    · exact .inr (helps_of_length hr calm round length)
    · have shorter := (waiting_sublist hr calm (Nat.le_of_lt round.later)).length_le
      exact .inl (by omega)

end

def displacing : Broker :=
  byHand [.turn .loop, .open front true, .turn .loop, .turn .loop, .turn .loop, .open back false]

/-- The loop makes room, the session closes, and after that the loop has every turn. -/
def displaced (t : Nat) : Action := if t = 1 then .turn (.close 0) else .turn .loop

theorem displaced_rest (t : Nat) : displacing.after displaced (6 + t) =
    displacing.after displaced 6 := by
  induction t with
  | zero => rfl
  | succ t ih =>
    have turn : displaced (6 + t) = .turn .loop := if_neg (by omega)
    rw [← Nat.add_assoc, after_succ, turn, ih]
    decide +kernel

theorem waiting_drains_displacing : displacing.waiting.length = 1 ∧
    (∀ t, displacing.rounds displaced t ≤ 4) ∧
      ∃ t, ∀ u, t ≤ u → (displacing.after displaced u).waiting = [] := by
  have late : ∀ t, 6 ≤ t → displacing.after displaced t = displacing.after displaced 6 := by
    intro t later
    obtain ⟨n, rfl⟩ := Nat.exists_eq_add_of_le later
    exact displaced_rest n
  have calm : ∀ t, (displacing.after displaced t).Undisturbed (displaced t) := by
    intro t
    have works : ∀ b' : Broker, ∀ i, b'.view.isClosing i = false → b'.Works i := fun b' i up =>
      not_isClosing_iff.1 fun down => by
        rw [View.isClosing_iff.2 down] at up
        cases up
    by_cases later : 6 ≤ t
    · have turn : displaced t = .turn .loop := if_neg (by omega)
      have same : (displacing.after displaced 6).step (.turn .loop) =
          displacing.after displaced 6 := displaced_rest 1
      rw [turn, late t later]
      refine ⟨by rw [same], fun i _ up => by rwa [same], fun i new old => ?_⟩
      rw [same] at new
      exact absurd new old
    · have checks : ∀ t < 6, (displacing.after displaced (t + 1)).acceptedRequests =
          (displacing.after displaced t).acceptedRequests ∧
          ∀ i ∈ (displacing.after displaced t).loop.active ++
            (displacing.after displaced (t + 1)).loop.active,
            (displacing.after displaced (t + 1)).view.isClosing i = false := by decide +kernel
      obtain ⟨accepted, up⟩ := checks t (by omega)
      exact ⟨accepted, fun i hi _ => works _ i (up i (List.mem_append_left _ hi)),
        fun i hi _ => works _ i (up i (List.mem_append_right _ hi))⟩
  have fair : displacing.Fair displaced := by
    refine ⟨fun t => ⟨6 + t, by omega, if_neg (by omega)⟩, fun t h call _ => ?_, fun t i hi => ?_⟩
    · exact ⟨6 + t, by omega, by rw [displaced_rest]; decide +kernel⟩
    · refine ⟨6, fun v later => ?_⟩
      have checks : ∀ t < 7, ∀ i ∈ (displacing.after displaced t).loop.stage.left,
          (displacing.after displaced 6).isSessionGone i = true := by decide +kernel
      rw [late v later]
      by_cases early : t < 7
      · exact checks t early i hi
      · rw [late t (by omega)] at hi
        exact checks 6 (by omega) i hi
  have reachable : displacing.Reachable := .byHand _
  have progresses := waiting_drains reachable calm
  have one : displacing.waiting.length = 1 := by decide
  refine ⟨one, fun t => ?_, progresses.drains fair⟩
  have most := progresses.bounded t
  omega

end Broker

end CameraBroker
