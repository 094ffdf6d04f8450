import CameraBroker.Proofs.ActiveSessions
import CameraBroker.Proofs.Rounds
import CameraBroker.Proofs.Waiting

/-! A close-all is a barrier. Whatever was accepted before it is answered and let go, and whatever
was accepted after it is as it was. -/
namespace CameraBroker

/-! Requests are serviced in the order of arrival, so that a close-all is told from the others by how
many came before it. -/

section Order
variable {α : Type} [DecidableEq α] {x : α} {done before after : List α}

/-- An item that occurs more often in a prefix than before its place is there with all before it. -/
theorem concat_prefix_of_count_lt (order : done <+: before ++ x :: after)
    (more : before.count x < done.count x) : before ++ [x] <+: done := by
  have place : before ++ [x] <+: before ++ x :: after := ⟨after, by simp⟩
  rcases List.prefix_or_prefix_of_prefix place order with h | h
  · exact h
  · rcases List.prefix_concat_iff.1 h with rfl | h
    · exact List.prefix_refl _
    · exact absurd (h.sublist.count_le x) (Nat.not_le.2 more)

/-- A prefix that ends with an item and has it once more than what comes before its place. -/
theorem eq_concat_of_count {front : List α} (order : front ++ [x] <+: before ++ x :: after)
    (once : (front ++ [x]).count x = before.count x + 1) : front = before := by
  have more : before.count x < (front ++ [x]).count x := by omega
  rcases List.prefix_concat_iff.1 (concat_prefix_of_count_lt order more) with h | h
  · exact (List.append_cancel_right h).symm
  · have few := h.sublist.count_le x
    simp only [List.count_append, List.count_singleton_self] at few once
    omega

end Order

namespace View
variable {v w : View} {i : SessionId} {g : HandleId}

/-- A close that is due stays due as long as the session binds a handle. -/
theorem Background.due {kept : HandleId → Prop} (h : Background kept v w)
    (due : { session := i } ∈ v.closes) (current : w.Current i g) :
    { session := i } ∈ w.closes := by
  cases h with
  | device hx xy => exact due
  | refusedOpen c => exact due
  | «open» c share room => exact due
  | close hi room => exact due
  | closeAll room => exact due
  | leave => exact due
  | @beginClose k j hk stage hs gone =>
    have other : j ≠ i := by
      rintro rfl
      obtain ⟨t, ht, held⟩ := current
      obtain ⟨t', -, rfl⟩ : ∃ t', v.ties[j]? = some t' ∧ ({ closing := true } : Tie) = t := by
        simpa [View.setCloseStage, View.shut] using ht
      cases held
    exact mem_modify_of_ne hk due fun same => other (congrArg SessionClose.session same)
  | @endClose k c hk hc =>
    refine mem_modify_of_ne hk due ?_
    rintro rfl
    exact hc rfl

theorem Meanwhile.due {kept : HandleId → Prop} (h : Meanwhile kept v w)
    (due : { session := i } ∈ v.closes) (current : w.Current i g) :
    { session := i } ∈ w.closes := by
  induction h with
  | refl => exact due
  | tail _ move ih => exact move.due (ih ((Loosens.background move).current i g current)) current

end View

namespace Broker
variable {b b' : Broker} {w : View} {h : HandleId}

theorem Opens.closes {c : CameraId} {v : View} (opens : Opens b' h c v w) :
    w.closes = v.closes := by
  cases opens with
  | giveUp lost resolved =>
    unfold View.popHead
    split <;> rfl
  | pause lost attempt due => rfl
  | «begin» lost camera simulated state release attempt due => rfl
  | call lost due => rfl
  | simulated stage hx up => rfl
  | manual stage camera manual release => rfl
  | crash stage => rfl

/-- The loop takes back no close. -/
theorem Rule.closes (rule : Rule b b' w) : b.view.closes ⊆ w.closes := by
  cases rule with
  | idle => exact List.Subset.refl _
  | start stage => exact List.Subset.refl _
  | finish stage done noClient leaves => exact List.subset_append_left _ _
  | close stage first leaves => exact List.subset_append_left _ _
  | closeAll stage noClose last resolved leaves => exact List.subset_append_left _ _
  | serve stage head camera serves =>
    cases serves with
    | stale answered => exact List.Subset.refl _
    | makeRoom waits exclusive conflict some leaves => exact List.subset_append_left _ _
    | replace waits active leaves => exact List.subset_append_left _ _
    | attach waits active ht resolved kept => exact List.Subset.refl _
    | deny waits resolved => exact List.Subset.refl _
    | ask waits alone none opens =>
      rw [opens.closes]
      exact List.Subset.refl _
  | opener stage camera opens =>
    rw [opens.closes]
    exact List.Subset.refl _
  | await stage sub down => exact List.Subset.refl _

/-! Handles that are let go. -/

/-- As long as the handle is connected, the close of the session that binds it is due. -/
def LetsGo (b : Broker) (h : HandleId) : Prop :=
  b.Connected h → ∀ i, b.view.Current i h → { session := i } ∈ b.closes

theorem Reachable.letsGo_step (hr : Reachable b) (resolved : b.Resolves h) (going : b.LetsGo h)
    (a : Action) : (b.step a).LetsGo h := by
  rintro ⟨y, hy, state⟩ i current
  obtain ⟨x, hx, answered⟩ := resolved
  obtain ⟨z, hz, touches⟩ := hr.touches a hx
  obtain rfl : y = z := Option.some.inj (hy.symm.trans hz)
  have before := (touches.connected state).resolve_right fun waits => answered waits.1
  have due := going ⟨x, hx, before⟩ i (hr.current_before ⟨x, hx, answered⟩ current)
  rcases hr.step_cases a with beside | turn
  · exact beside.view.due due current
  · exact turn.rule.closes due

theorem Reachable.letsGo_run (hr : Reachable b) (resolved : b.Resolves h) (going : b.LetsGo h)
    (actions : List Action) : (b.run actions).LetsGo h := by
  induction actions generalizing b with
  | nil => exact going
  | cons a actions ih =>
    exact ih (hr.step a) (hr.resolves_step resolved a) (hr.letsGo_step resolved going a)

/-- At rest no close is due, and the handle is let go. -/
theorem Reachable.not_connected_of_rest (hr : Reachable b) (going : b.LetsGo h)
    (rest : b.readyTasks = []) : ¬b.Connected h := by
  rintro ⟨x, hx, state⟩
  obtain ⟨k, hk⟩ := Option.ne_none_iff_exists'.1 ((hr.fits h x hx).bound state)
  obtain ⟨i, s, hs, current, -⟩ := hr.held hx hk
  exact not_fresh_of_rest rest i (going ⟨x, hx, state⟩ i ((current_of_session hs).2 current))

/-! The turn that services a close-all. -/

/-- No client does that. -/
theorem not_disconnect_of_clears {a : Action} {before after : List Request} {left : List SessionId}
    (clears : b.Clears (b.step a) before after left) : a ≠ .disconnect h := by
  rintro rfl
  obtain ⟨split, mem, -⟩ := lastCloseAll?_eq_some clears.last
  have same : (b.step (.disconnect h)).view = b.view := b.view_disconnect h
  have waiting : b.waiting = after := by
    rw [← clears.waiting, ← view_waiting, ← view_waiting, same]
  rw [List.self_eq_append_left.1 (waiting.symm.trans split)] at mem
  cases mem

/-- A handle that waits and has its answer then has failed, and the close-all is why. -/
theorem Reachable.failure_of_clears (hr : Reachable b) {a : Action} {before after : List Request}
    {left : List SessionId} (clears : b.Clears (b.step a) before after left) {x : Handle}
    (hx : b.handles[h]? = some x) (waits : x.state = .unopened) (resolved : (b.step a).Resolves h) :
    ∃ y, (b.step a).handles[h]? = some y ∧ y.state ≠ .unopened ∧
      y.failure = some .superseded := by
  obtain ⟨y, hy, touches⟩ := hr.touches a hx
  obtain ⟨z, hz, answered⟩ := resolved
  obtain rfl : y = z := Option.some.inj (hy.symm.trans hz)
  obtain ⟨split, mem, -⟩ := lastCloseAll?_eq_some clears.last
  rw [← clears.waiting] at split
  have only : ∀ r, b.waiting = r :: (b.step a).waiting → r = .closeAll := by
    intro r served
    rw [split, ← List.singleton_append] at served
    rw [List.append_cancel_right served] at mem
    exact (List.mem_singleton.1 mem).symm
  refine ⟨y, hy, answered, ?_⟩
  cases touches with
  | leave same => exact absurd (same.state.trans waits) answered
  | disconnect why =>
    rcases why with asked | ⟨i, current⟩
    · exact absurd asked (not_disconnect_of_clears clears)
    · exact absurd current (hr.bindings.not_current ⟨x, hx, waits⟩ i)
  | observe hk hs => cases ((hr.fits h x hx).free waits).symm.trans hk
  | fail reason served => cases only _ served
  | supersede served mem => simp [Handle.failed, Handle.fail?, waits]
  | attach served noClose noCloseAll active hs unanswered timer => cases only _ served

/-- A connected handle is bound to a session that was active, or whose close was due. -/
theorem Reachable.letsGo_of_clears (hr : Reachable b) {a : Action} {before after : List Request}
    {left : List SessionId} (clears : b.Clears (b.step a) before after left) :
    (b.step a).LetsGo h := by
  intro connected i current
  obtain ⟨j, t, ht, held, bound⟩ :=
    ((hr.step a).binds_of_connected h connected).resolve_left clears.alive
  obtain rfl := (hr.step a).bindings.once current ⟨t, ht, held⟩
  have none : (b.step a).view.loop.active = [] := clears.active
  rw [none] at bound
  exact bound.resolve_left List.not_mem_nil

/-! The wait for the sessions. -/

/-- A loop that waits for sessions does nothing else. -/
theorem Rule.of_left (rule : Rule b b' w) (busy : b.loop.stage.left ≠ []) :
    w = b.view ∨ ∃ sessions left left' after, b.loop.stage = .closing sessions left after ∧
      (∀ i ∈ left, i ∈ sessions → i ∉ left' → b.view.IsDown i) ∧
        w = b.view.await sessions left' after := by
  have other : ∀ s : LoopStage, s.left = [] → b.loop.stage ≠ s := by
    rintro s none same
    exact busy (same ▸ none)
  cases rule with
  | idle => exact .inl rfl
  | start stage => exact absurd stage (other _ rfl)
  | finish stage done noClient leaves => exact absurd stage (other _ rfl)
  | close stage first leaves => exact absurd stage (other _ rfl)
  | closeAll stage noClose last resolved leaves => exact absurd stage (other _ rfl)
  | serve stage head camera serves => exact absurd stage (other _ rfl)
  | opener stage camera opens => exact absurd stage (other _ rfl)
  | await stage sub down => exact .inr ⟨_, _, _, _, stage, down, rfl⟩

theorem Reachable.serviced_of_left (hr : Reachable b) (busy : b.loop.stage.left ≠ []) (a : Action) :
    (b.step a).servicedRequests = b.servicedRequests ∧ (b.step a).loop.stage ≠ .crashed := by
  have alive : b.loop.stage ≠ .crashed := fun crashed => busy (by rw [crashed]; rfl)
  rw [← view_servicedRequests, ← view_servicedRequests]
  rcases hr.step_cases a with beside | turn
  · have loop : (b.step a).loop = b.loop := (View.Aside.of_meanwhile beside.view).loop
    exact ⟨beside.view.serviced, loop ▸ alive⟩
  · rcases turn.rule.of_left busy with same | ⟨sessions, left, left', after, -, -, same⟩
    · have loop : (b.step a).loop = b.loop := congrArg View.loop same
      exact ⟨by rw [same], loop ▸ alive⟩
    · have stage : (b.step a).loop.stage = .afterWait sessions left' after :=
        congrArg (fun v => v.loop.stage) same
      refine ⟨by rw [same]; rfl, ?_⟩
      rw [stage]
      exact LoopStage.afterWait_ne_crashed _ _ _

/-- Nothing is serviced while the loop waits for sessions. -/
theorem Reachable.serviced_of_waits (hr : Reachable b) (alive : b.loop.stage ≠ .crashed)
    {actions : List Action}
    (busy : Throughout (fun b _ => b.loop.stage.left ≠ []) actions b) :
    (b.run actions).servicedRequests = b.servicedRequests ∧
      (b.run actions).loop.stage ≠ .crashed := by
  induction actions generalizing b with
  | nil => exact ⟨rfl, alive⟩
  | cons a actions ih =>
    obtain ⟨same, still⟩ := hr.serviced_of_left busy.1 a
    obtain ⟨later, last⟩ := ih (hr.step a) still busy.2
    exact ⟨later.trans same, last⟩

def Lost (b : Broker) (d : DeviceId) : Prop := ∃ x, b.hw.devices[d]? = some x ∧ x.IsGone

/-- The device is gone, or the loop waits for a session of it. -/
def Expects (b : Broker) (d : DeviceId) : Prop :=
  b.Lost d ∨ ∃ i ∈ b.loop.stage.left, ∃ f, b.view.faces[i]? = some f ∧ f.device = d

theorem Reachable.lost_step (hr : Reachable b) {a : Action} (keeps : KeepsClosed b a) {d : DeviceId}
    (lost : b.Lost d) : (b.step a).Lost d := by
  obtain ⟨x, hx, gone⟩ := lost
  obtain ⟨y, hy, passes⟩ := hr.device_step hx a
  refine ⟨y, hy, ?_⟩
  cases passes with
  | goesOn becomes => exact gone.becomes becomes (keeps.view d x y hx hy)
  | opens simulated up =>
    -- A device that can still be opened is not gone.
    rcases gone with closed | ⟨manual, -⟩
    · rw [closed] at up
      cases up
    · cases simulated.symm.trans manual

theorem Reachable.lost_run (hr : Reachable b) {actions : List Action}
    (keeps : Throughout KeepsClosed actions b) {d : DeviceId} (lost : b.Lost d) :
    (b.run actions).Lost d := by
  induction actions generalizing b with
  | nil => exact lost
  | cons a actions ih => exact ih (hr.step a) keeps.2 (hr.lost_step keeps.1 lost)

/-- The device of a session that is down is gone. -/
theorem Reachable.lost_of_isDown (hr : Reachable b) {i : SessionId} {f : Face}
    (hf : b.view.faces[i]? = some f) (down : b.view.IsDown i) : b.Lost f.device := by
  obtain ⟨x, hx, -⟩ := hr.sound.faces f (List.mem_of_getElem? hf)
  exact ⟨x, hx, down f x hf hx⟩

theorem Reachable.expects_step (hr : Reachable b) {a : Action} (keeps : KeepsClosed b a)
    {d : DeviceId} (expects : b.Expects d) : (b.step a).Expects d := by
  rcases expects with lost | ⟨i, hi, f, hf, device⟩
  · exact .inl (hr.lost_step keeps lost)
  · have hf' := hr.faces_step hf a
    rcases hr.step_cases a with beside | turn
    · have loop : (b.step a).loop = b.loop := (View.Aside.of_meanwhile beside.view).loop
      exact .inr ⟨i, loop ▸ hi, f, hf', device⟩
    · have busy : b.loop.stage.left ≠ [] := List.ne_nil_of_mem hi
      rcases turn.rule.of_left busy with same | ⟨sessions, left, left', after, stage, down, same⟩
      · have loop : (b.step a).loop = b.loop := congrArg View.loop same
        exact .inr ⟨i, loop ▸ hi, f, hf', device⟩
      · have after : (b.step a).loop.stage.left = left' := by
          have stage : (b.step a).loop.stage = .afterWait sessions left' after :=
            congrArg (fun v => v.loop.stage) same
          rw [stage, LoopStage.left_afterWait]
        rw [stage] at hi
        by_cases still : i ∈ left'
        · exact .inr ⟨i, after ▸ still, f, hf', device⟩
        · have isDown := down i hi (hr.sound.left _ _ _ stage hi) still
          exact .inl (hr.lost_step keeps (device ▸ hr.lost_of_isDown hf isDown))

theorem Reachable.expects_run (hr : Reachable b) {actions : List Action}
    (keeps : Throughout KeepsClosed actions b) {d : DeviceId} (expects : b.Expects d) :
    (b.run actions).Expects d := by
  induction actions generalizing b with
  | nil => exact expects
  | cons a actions ih => exact ih (hr.step a) keeps.2 (hr.expects_step keeps.1 expects)

/-- When a close-all is serviced, every device is gone or the loop waits for it. -/
theorem ReachableBy.expects_of_clears (hr : ReachableBy KeepsClosed b)
    {before after : List Request} {left : List SessionId} (clears : b.Clears b' before after left)
    {d : DeviceId} (there : d < b.hw.devices.length) : b'.Expects d := by
  have hx : b.view.devices[d]? = some b.hw.devices[d] := List.getElem?_eq_getElem there
  have alive : b.view.loop.stage ≠ .crashed := fun crashed =>
    nomatch clears.stage.symm.trans crashed
  have devices : b'.hw.devices = b.hw.devices := congrArg View.devices clears.view
  have faces : b'.view.faces = b.view.faces := by rw [clears.view]; rfl
  have waits : b'.loop.stage.left = left := by rw [clears.next, LoopStage.left_afterWait]
  have lost : b.Lost d → b'.Expects d := fun ⟨x, hx, gone⟩ =>
    .inl ⟨x, devices ▸ hx, gone⟩
  rcases hr.tended.resolve_left alive d _ hx with gone | acquired | ⟨i, f, hi | hi, hf, device⟩
  · exact lost ⟨_, hx, gone⟩
  · cases (congrArg LoopStage.acquired? clears.stage).symm.trans acquired
  · by_cases still : i ∈ left
    · exact .inr ⟨i, waits ▸ still, f, faces ▸ hf, device⟩
    · exact lost (device ▸ hr.reachable.lost_of_isDown hf (clears.leaves.down i hi still))
  · have none : b.view.loop.stage.left = [] := congrArg LoopStage.left clears.stage
    rw [none] at hi
    cases hi

/-- Once the loop has waited for the sessions, the device of each is gone for good. -/
theorem ReachableBy.lost_of_clears (hr : ReachableBy KeepsClosed b) {a : Action}
    {before after : List Request} {left : List SessionId}
    (clears : b.Clears (b.step a) before after left) {first rest : List Action}
    (keeps : Throughout KeepsClosed (first ++ rest) (b.step a))
    (waited : ((b.step a).run first).loop.stage.left = []) {i : SessionId} {s : Session}
    (hs : b.sessions[i]? = some s) : ((b.step a).run (first ++ rest)).Lost s.device := by
  have hr' := hr.reachable.step a
  obtain ⟨keepsFirst, keepsRest⟩ := throughout_append.1 keeps
  have hf : b.view.faces[i]? = some s.face := by simp [view, hs]
  obtain ⟨x, hx, -⟩ := hr.reachable.sound.faces _ (List.mem_of_getElem? hf)
  have expects := hr.expects_of_clears clears (List.getElem?_eq_some_iff.1 hx).1
  rw [run_append]
  refine (hr'.run first).lost_run keepsRest ((hr'.expects_run keepsFirst expects).resolve_right ?_)
  rintro ⟨j, hj, -⟩
  rw [waited] at hj
  cases hj

/-! Before and after. -/

section Accepted
variable {actions : List Action} {earlier later : List Request}

/-- Opens and close-alls are serviced in the order in which they were accepted. -/
theorem Reachable.serviced_in_order (hr : Reachable b)
    (accepted : (b.run actions).acceptedRequests = earlier ++ .closeAll :: later) :
    b.servicedRequests.filter (fun r => r.isClose = false) <+:
      earlier.filter (fun r => r.isClose = false) ++
        .closeAll :: later.filter fun r => r.isClose = false := by
  have arrival := (hr.acceptedRequests_run actions).filter fun r => r.isClose = false
  rw [accepted, List.filter_append, List.filter_cons_of_pos rfl] at arrival
  exact hr.perm_accepted.2.trans arrival

theorem count_closeAll (rs : List Request) :
    (rs.filter fun r => r.isClose = false).count .closeAll = rs.count .closeAll :=
  List.count_filter rfl

/-- When a close-all is serviced, so is every open that was accepted before it. -/
theorem Reachable.serviced_of_earlier (hr : Reachable b)
    (accepted : (b.run actions).acceptedRequests = earlier ++ .closeAll :: later)
    (more : earlier.count .closeAll < b.servicedRequests.count .closeAll) {share : Bool}
    (mem : .open h share ∈ earlier) : .open h share ∈ b.servicedRequests := by
  rw [← count_closeAll earlier, ← count_closeAll b.servicedRequests] at more
  have all := concat_prefix_of_count_lt (hr.serviced_in_order accepted) more
  have mem : .open h share ∈ earlier.filter fun r => r.isClose = false :=
    List.mem_filter.2 ⟨mem, rfl⟩
  exact (List.mem_filter.1 (all.subset (List.mem_append_left _ mem))).1

/-- While the loop waits for the sessions, what was accepted after the close-all waits in its order,
if the close-all is the last one that is serviced. -/
theorem Reachable.waiting_of_clears (hr : Reachable b) {a : Action} {before after : List Request}
    {left : List SessionId} (clears : b.Clears (b.step a) before after left)
    (accepted : ((b.step a).run actions).acceptedRequests = earlier ++ .closeAll :: later)
    (last : (b.step a).servicedRequests.count .closeAll = earlier.count .closeAll + 1)
    (busy : Throughout (fun b _ => b.loop.stage.left ≠ []) actions (b.step a)) :
    ((b.step a).run actions).waiting.filter (fun r => r.isClose = false) =
      later.filter fun r => r.isClose = false := by
  obtain ⟨same, alive⟩ := (hr.step a).serviced_of_waits clears.alive busy
  obtain ⟨upto, rfl⟩ := lastCloseAll?_concat clears.last
  have parts : (b.step a).servicedRequests.filter (fun r => r.isClose = false) =
      (b.servicedRequests ++ upto).filter (fun r => r.isClose = false) ++ [.closeAll] := by
    rw [clears.serviced, ← List.append_assoc, List.filter_append]
    rfl
  have front : (b.servicedRequests ++ upto).filter (fun r => r.isClose = false) =
      earlier.filter fun r => r.isClose = false := by
    refine eq_concat_of_count (parts ▸ (hr.step a).serviced_in_order accepted) ?_
    rw [← parts, count_closeAll, count_closeAll, last]
  have all := ((hr.step a).run actions).accepted_eq alive
  rw [accepted, same, parts, front, List.filter_append, List.filter_cons_of_pos rfl,
    List.append_assoc] at all
  exact List.tail_eq_of_cons_eq (List.append_cancel_left all).symm

end Accepted

/-- What a close-all comes to. The loop services it in the step from `b` to `b'`, together with
everything before it, and the actions are what happens from then on. -/
structure Barrier (b b' : Broker) (actions : List Action) (earlier later : List Request) :
    Prop where
  serviced : b.servicedRequests.count .closeAll ≤ earlier.count .closeAll ∧
    earlier.count .closeAll < b'.servicedRequests.count .closeAll
  resolved : ∀ h share, .open h share ∈ earlier → (b'.run actions).Resolves h
  released : (b'.run actions).readyTasks = [] →
    ∀ h share, .open h share ∈ earlier → ¬(b'.run actions).Connected h
  superseded : ∀ h share x, .open h share ∈ earlier → b.handles[h]? = some x →
    x.state = .unopened →
      ∃ y, (b'.run actions).handles[h]? = some y ∧ y.failure = some .superseded
  /-- The opener is asked for no earlier open any more, and no call for one goes on. -/
  unasked : ∀ h share, .open h share ∈ earlier → (b'.run actions).loop.stage.opens? ≠ some h ∧
    ∀ c, (b'.run actions).hw.history.count (.openerAsked c h) =
      b'.hw.history.count (.openerAsked c h)
  inactive : ∀ i < b.sessions.length, i ∉ (b'.run actions).loop.active
  /-- Once the loop has waited for the sessions, their devices are gone for good. -/
  closed : ReachableBy KeepsClosed b → Throughout KeepsClosed actions b' →
    ∀ front back, actions = front ++ back → (b'.run front).loop.stage.left = [] →
      ∀ (i : SessionId) (s : Session), b.sessions[i]? = some s → (b'.run actions).Lost s.device
  /-- Until then everything accepted after it waits, if it is the last one that is serviced, and only
  clients themselves let go of their handles. -/
  untouched : b'.servicedRequests.count .closeAll = earlier.count .closeAll + 1 →
    Throughout (fun b _ => b.loop.stage.left ≠ []) actions b' →
      (b'.run actions).waiting.filter (fun r => r.isClose = false) =
        later.filter (fun r => r.isClose = false) ∧
      ∀ h share, .open h share ∈ later → .disconnect h ∉ actions →
        ∃ y, (b'.run actions).handles[h]? = some y ∧
          y.state = ((b.handles[h]?).map (·.state)).getD .unopened

/-- In every run a close-all that has been serviced is a barrier. Every open accepted before it has
its answer, is connected no more at rest, and the opener is not asked for it again; if it still
waited, it was superseded. Every session there was is out of the active set and closed. The opens
accepted after it wait in their order, and their handles are as they were. -/
theorem closeAll_barrier {s : Setup} {actions : List Action} {earlier later : List Request}
    (accepted : (s.broker.run actions).acceptedRequests = earlier ++ .closeAll :: later)
    (serviced : earlier.count .closeAll <
      (s.broker.run actions).servicedRequests.count .closeAll) :
    ∃ before a after, actions = before ++ a :: after ∧
      Barrier (s.broker.run before) ((s.broker.run before).step a) after earlier later := by
  have fresh : ¬earlier.count .closeAll < s.broker.servicedRequests.count .closeAll := by
    have none : s.broker.servicedRequests = [] := by
      rw [← view_servicedRequests, view_start]
      rfl
    simp [none]
  obtain ⟨before, a, after, rfl, few, more⟩ := exists_step_of_run
    (P := fun b => earlier.count .closeAll < b.servicedRequests.count .closeAll) fresh serviced
  refine ⟨before, a, after, rfl, ?_⟩
  rw [run_append, run_cons] at accepted
  have hr : Reachable (s.broker.run before) := ⟨s, before, rfl⟩
  have hr' := hr.step a
  obtain ⟨front, back, left, clears⟩ :=
    hr.clears (Nat.lt_of_le_of_lt (Nat.le_of_not_lt few) more)
  have served : ∀ h share, .open h share ∈ earlier →
      .open h share ∈ ((s.broker.run before).step a).servicedRequests :=
    fun h share mem => hr'.serviced_of_earlier accepted more mem
  have answered : ∀ h share, .open h share ∈ earlier →
      ((s.broker.run before).step a).Resolves h := fun h share mem =>
    hr'.resolves_of_serviced h share ((view_servicedRequests _).symm ▸ served h share mem)
  constructor
  case serviced => exact ⟨Nat.le_of_not_lt few, more⟩
  case resolved => exact fun h share mem => hr'.resolves_run (answered h share mem) after
  case released =>
    intro rest h share mem
    have going := hr'.letsGo_run (answered h share mem) (hr.letsGo_of_clears clears) after
    exact (hr'.run after).not_connected_of_rest going rest
  case superseded =>
    intro h share x mem hx waits
    obtain ⟨y, hy, state, failure⟩ := hr.failure_of_clears clears hx waits (answered h share mem)
    obtain ⟨z, hz, -, same⟩ := hr'.failure_run hy state after
    exact ⟨z, hz, same.trans failure⟩
  case unasked =>
    intro h share mem
    have still := (hr'.servicedRequests_run after).subset (served h share mem)
    exact ⟨(hr'.run after).opens?_ne_of_serviced still, hr'.asked_run (served h share mem) after⟩
  case inactive =>
    intro i hi
    refine not_mem_active_run hr' (Nat.lt_of_lt_of_le hi (length_sessions_step hr a)) ?_ after
    rw [clears.active]
    exact List.not_mem_nil
  case closed =>
    rintro hk keeps first rest rfl waited i x hx
    exact hk.lost_of_clears clears keeps waited hx
  case untouched =>
    intro last busy
    have waiting := hr.waiting_of_clears clears accepted last busy
    refine ⟨waiting, fun h share mem kept => ?_⟩
    have mem : .open h share ∈ later.filter fun r => r.isClose = false :=
      List.mem_filter.2 ⟨mem, rfl⟩
    have waits : .open h share ∈ ((s.broker.run before).run (a :: after)).waiting :=
      (List.mem_filter.1 (waiting ▸ mem)).1
    refine hr.untouched waits fun mem => ?_
    rcases List.mem_cons.1 mem with same | mem
    · exact not_disconnect_of_clears clears same.symm
    · exact kept mem

/-- A close-all arrives while the device for an open is on its way, and another open after it. -/
def inFlight : List Action :=
  [.turn .loop, .open front true, .turn .loop, .closeAll, .open back true, .turn .loop, .turn .loop]

theorem closeAll_barrier_inFlight :
    (byHand inFlight).acceptedRequests = [.open 0 true] ++ .closeAll :: [.open 1 true] ∧
      (byHand inFlight).servicedRequests = [.open 0 true, .closeAll] ∧
      ∃ before a after, inFlight = before ++ a :: after ∧
        Barrier (byHand before) ((byHand before).step a) after [.open 0 true] [.open 1 true] :=
  ⟨by decide, by decide, closeAll_barrier (by decide) (by decide)⟩

end Broker

end CameraBroker
