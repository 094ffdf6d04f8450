import CameraBroker.Proofs.Bindings

/-! What a turn of the loop is done with: one close of a session, a close-all with everything before
it, or opens alone. -/
namespace CameraBroker.Broker
variable {b b' : Broker} {w : View} {h : HandleId} {i : SessionId} {rest before after : List Request}
  {left : List SessionId}

structure Retires (b b' : Broker) (i : SessionId) (rest : List Request) (left : List SessionId) :
    Prop where
  stage : b.loop.stage = .reading
  first : firstClose? b.waiting = some (i, rest)
  view : b'.view = (((b.view.take rest).note (.serviced (.close i))).retire [i]
    (b.loop.active.filter (· ≠ i)) left .read)
  leaves : b.view.Leaves [i] left

structure Clears (b b' : Broker) (before after : List Request) (left : List SessionId) : Prop where
  stage : b.loop.stage = .reading
  noClose : firstClose? b.waiting = none
  last : lastCloseAll? b.waiting = some (before, after)
  leaves : b.view.Leaves b.loop.active left
  view : b'.view = ((b.view.take after).service before).retire b.loop.active [] left .read

theorem Clears.waiting (clears : b.Clears b' before after left) : b'.waiting = after := by
  rw [← view_waiting, clears.view, View.waiting_retire]
  exact waiting_take after b.view

theorem Clears.serviced (clears : b.Clears b' before after left) :
    b'.servicedRequests = b.servicedRequests ++ before := by
  have same : b'.view.serviced = ((b.view.take after).service before).serviced := by
    rw [clears.view]
    rfl
  rw [← view_servicedRequests, same, View.serviced_service, ← view_servicedRequests]
  rfl

/-- The loop waits for the sessions that are left. -/
theorem Clears.next (clears : b.Clears b' before after left) :
    b'.loop.stage = .afterWait b.loop.active left .read :=
  congrArg (fun v => v.loop.stage) clears.view

theorem Clears.alive (clears : b.Clears b' before after left) : b'.loop.stage ≠ .crashed := by
  rw [clears.next]
  exact LoopStage.afterWait_ne_crashed _ _ _

theorem Clears.active (clears : b.Clears b' before after left) : b'.loop.active = [] :=
  congrArg (fun v => v.loop.active) clears.view

theorem Retires.serviced (retires : b.Retires b' i rest left) :
    b'.servicedRequests = b.servicedRequests ++ [.close i] := by
  have same : b'.view.serviced = ((b.view.take rest).note (.serviced (.close i))).serviced := by
    rw [retires.view]
    rfl
  rw [← view_servicedRequests, same, View.serviced_note, ← view_servicedRequests]
  rfl

/-- What a turn is done with, and how. -/
inductive Round (b b' : Broker) : List Request → Prop where
  | close {i : SessionId} {rest : List Request} {left : List SessionId}
      (retires : b.Retires b' i rest left) : Round b b' [.close i]
  | closeAll {before after : List Request} {left : List SessionId}
      (clears : b.Clears b' before after left) : Round b b' before
  | opens {rs : List Request} (only : ∀ r ∈ rs, ∃ h share, r = .open h share) : Round b b' rs

/-- Events that are about opens alone. -/
theorem Round.of_news {new : List Event} (told : b'.view.milestones = new ++ b.view.milestones)
    (only : ∀ r, .serviced r ∈ new → ∃ h share, r = .open h share) :
    ∃ rs, b'.view.serviced = b.view.serviced ++ rs ∧ Round b b' rs := by
  refine ⟨(new.filterMap Event.serviced?).reverse, ?_, .opens fun r hr => ?_⟩
  · simp [View.serviced, told]
  · rw [List.mem_reverse] at hr
    obtain ⟨e, he, same⟩ := List.mem_filterMap.1 hr
    cases e with
    | serviced q =>
      cases same
      exact only r he
    | _ => cases same

theorem Opens.news {c : CameraId} {v : View} (ho : v.Opening h c) (opens : Opens b' h c v w) :
    ∃ new, w.milestones = new ++ v.milestones ∧
      ∀ r, .serviced r ∈ new → ∃ h share, r = .open h share := by
  obtain ⟨new, told, only⟩ := View.news_opens ho opens
  refine ⟨new, told, fun r mem => ?_⟩
  rcases only with ⟨share, rfl⟩ | lines
  · obtain rfl : r = .open h share := by simpa using mem
    exact ⟨h, share, rfl⟩
  · cases lines _ mem

theorem Rule.round (hs : b.view.Sound) (rule : Rule b b' b'.view) :
    ∃ rs, b'.view.serviced = b.view.serviced ++ rs ∧ Round b b' rs := by
  generalize hw : b'.view = w at rule
  have none : w.milestones = b.view.milestones →
      ∃ rs, w.serviced = b.view.serviced ++ rs ∧ Round b b' rs := fun same =>
    hw ▸ Round.of_news (hw ▸ same : _ = [] ++ _) nofun
  have answered : ∀ e h share, w.milestones = [.serviced (.open h share), e] ++ b.view.milestones →
      (∀ r, e ≠ .serviced r) → ∃ rs, w.serviced = b.view.serviced ++ rs ∧ Round b b' rs := by
    intro e h share told other
    refine hw ▸ Round.of_news (hw ▸ told) fun r mem => ?_
    rcases List.mem_cons.1 mem with same | mem
    · cases same
      exact ⟨h, share, rfl⟩
    · exact absurd (List.mem_singleton.1 mem).symm (other r)
  cases rule with
  | idle => exact none rfl
  | start stage => exact none rfl
  | finish stage done noClient leaves => exact none rfl
  | @close stage i rest first left leaves =>
    have retires : b.Retires b' i rest left := ⟨stage, first, hw, leaves⟩
    refine ⟨[.close i], ?_, .close retires⟩
    rw [← hw, view_servicedRequests, view_servicedRequests, retires.serviced]
  | @closeAll stage noClose before after last resolved left leaves =>
    have clears : b.Clears b' before after left := ⟨stage, noClose, last, leaves, hw⟩
    refine ⟨before, ?_, .closeAll clears⟩
    rw [← hw, view_servicedRequests, view_servicedRequests, clears.serviced]
  | @serve stage h share rest head c camera w serves =>
    cases serves with
    | stale waiting => exact answered _ _ _ rfl nofun
    | makeRoom waits exclusive conflict some leaves => exact none rfl
    | replace waits active leaves => exact none rfl
    | attach waits active ht resolved kept => exact answered _ _ _ rfl nofun
    | deny waits resolved => exact answered _ _ _ rfl nofun
    | ask waits alone free opens =>
      obtain ⟨-, opening⟩ := opening_ask hs stage head camera alone free
      obtain ⟨new, told, only⟩ := opens.news opening
      have all : w.milestones = (new ++ [.openerAsked c h, .permissionAsked c true]) ++
          b.view.milestones := by
        rw [told, List.append_assoc]
        rfl
      refine hw ▸ Round.of_news (hw ▸ all) fun r mem => ?_
      exact only r ((List.mem_append.1 mem).resolve_right (by simp))
  | opener stage camera opens =>
    obtain ⟨new, told, only⟩ := opens.news (opening_of_stage hs stage camera)
    exact hw ▸ Round.of_news (hw ▸ told) only
  | await stage sub down => exact none rfl

theorem Reachable.round (hr : Reachable b) (a : Action) : ∃ rs,
    (b.step a).servicedRequests = b.servicedRequests ++ rs ∧ Round b (b.step a) rs := by
  rw [← view_servicedRequests, ← view_servicedRequests]
  rcases hr.step_cases a with beside | turn
  · exact ⟨[], by simp [beside.view.serviced], .opens nofun⟩
  · exact turn.rule.round hr.sound

/-- A close is serviced by a turn for it. -/
theorem Reachable.retires (hr : Reachable b) {a : Action}
    (more : b.servicedRequests.count (.close i) < (b.step a).servicedRequests.count (.close i)) :
    ∃ rest left, b.Retires (b.step a) i rest left := by
  obtain ⟨rs, serviced, round⟩ := hr.round a
  have mem : .close i ∈ rs := by
    rw [serviced, List.count_append] at more
    exact List.count_pos_iff.1 (by omega)
  cases round with
  | close retires =>
    cases List.mem_singleton.1 mem
    exact ⟨_, _, retires⟩
  | closeAll clears =>
    obtain ⟨split, -, -⟩ := lastCloseAll?_eq_some clears.last
    have waits : .close i ∈ b.waiting := split ▸ List.mem_append_left _ mem
    exact absurd waits (firstClose?_eq_none clears.noClose i)
  | opens only =>
    obtain ⟨h, share, same⟩ := only _ mem
    cases same

/-- A close-all is serviced by a turn for close-alls. -/
theorem Reachable.clears (hr : Reachable b) {a : Action}
    (more : b.servicedRequests.count .closeAll < (b.step a).servicedRequests.count .closeAll) :
    ∃ before after left, b.Clears (b.step a) before after left := by
  obtain ⟨rs, serviced, round⟩ := hr.round a
  have mem : .closeAll ∈ rs := by
    rw [serviced, List.count_append] at more
    exact List.count_pos_iff.1 (by omega)
  cases round with
  | close retires => cases List.mem_singleton.1 mem
  | closeAll clears => exact ⟨_, _, _, clears⟩
  | opens only =>
    obtain ⟨h, share, same⟩ := only _ mem
    cases same

end CameraBroker.Broker
