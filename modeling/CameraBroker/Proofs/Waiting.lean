import CameraBroker.Proofs.Ledger

/-! Opens that wait. An open waits once and is not serviced yet, and while it waits nobody but its
own client changes its handle. Once it is done with, the opener is not asked for it again. -/
namespace CameraBroker.Broker
variable {b : Broker} {h : HandleId} {share : Bool}

/-- The opens that wait or are done with are all different. -/
theorem Reachable.handles_nodup (hr : Reachable b) :
    ((b.servicedRequests ++ b.waiting).filterMap Request.handle?).Nodup := by
  obtain ⟨⟨lost, -, perm⟩, -⟩ := hr.perm_accepted
  have once : (b.acceptedRequests.filterMap Request.handle?).Nodup := by
    rw [← view_accepted]
    exact hr.opensOnce.nodup
  have all := (perm.filterMap Request.handle?).nodup_iff.2 once
  rw [List.filterMap_append] at all
  exact (List.nodup_append.1 all).1

theorem mem_handles {rs : List Request} (mem : .open h share ∈ rs) :
    h ∈ rs.filterMap Request.handle? :=
  List.mem_filterMap.2 ⟨_, mem, rfl⟩

theorem Reachable.waiting_nodup (hr : Reachable b) :
    (b.waiting.filterMap Request.handle?).Nodup := by
  have all := hr.handles_nodup
  rw [List.filterMap_append] at all
  exact (List.nodup_append.1 all).2.1

theorem Reachable.not_serviced_of_waiting (hr : Reachable b) (waits : .open h share ∈ b.waiting)
    (share' : Bool) : .open h share' ∉ b.servicedRequests := by
  intro served
  have all := hr.handles_nodup
  rw [List.filterMap_append] at all
  exact (List.nodup_append.1 all).2.2 h (mem_handles served) h (mem_handles waits) rfl

theorem Reachable.servicedRequests_run (hr : Reachable b) (actions : List Action) :
    b.servicedRequests <+: (b.run actions).servicedRequests := by
  induction actions generalizing b with
  | nil => exact List.prefix_refl _
  | cons a actions ih => exact (hr.servicedRequests_step a).trans (ih (hr.step a))

theorem Reachable.acceptedRequests_run (hr : Reachable b) (actions : List Action) :
    b.acceptedRequests <+: (b.run actions).acceptedRequests := by
  induction actions generalizing b with
  | nil => exact List.prefix_refl _
  | cons a actions ih => exact (hr.acceptedRequests_step a).trans (ih (hr.step a))

/-- Unless the loop has crashed, an open or close-all that is accepted is serviced or waits, in the
order of arrival. -/
theorem Reachable.accepted_eq (hr : Reachable b) (alive : b.loop.stage ≠ .crashed) :
    b.acceptedRequests.filter (fun r => r.isClose = false) =
      b.servicedRequests.filter (fun r => r.isClose = false) ++
        b.waiting.filter fun r => r.isClose = false := by
  obtain ⟨lost, none, parts⟩ := hr.accounted
  rw [view_accepted, view_servicedRequests, view_waiting] at parts
  rw [parts false, none alive, List.filter_nil, List.append_nil]

/-- A handle whose open waits is bound to no session. -/
theorem Reachable.not_current_of_waiting (hr : Reachable b)
    (unserved : ∀ share, .open h share ∉ b.servicedRequests) (i : SessionId) :
    ¬b.view.Current i h := by
  intro current
  obtain ⟨c, told⟩ := hr.bindings.told i h current
  obtain ⟨share, served⟩ := (hr.bindings.attached h c i told).served
  exact unserved share served

/-- A step after which the open still waits does not change the state of its handle. -/
theorem Reachable.state_step_of_waiting (hr : Reachable b) {a : Action}
    (waits : .open h share ∈ (b.step a).waiting) (other : a ≠ .disconnect h) {x : Handle}
    (hx : b.handles[h]? = some x) :
    ∃ y, (b.step a).handles[h]? = some y ∧ y.state = x.state := by
  obtain ⟨y, hy, touches⟩ := hr.touches a hx
  have unserved : ∀ share, .open h share ∉ b.servicedRequests := fun share served =>
    (hr.step a).not_serviced_of_waiting waits share ((hr.servicedRequests_step a).subset served)
  have unbound := hr.not_current_of_waiting unserved
  have once := hr.waiting_nodup
  have still := mem_handles waits
  refine ⟨y, hy, ?_⟩
  cases touches with
  | leave same => exact same.state
  | disconnect why =>
    rcases why with asked | ⟨i, current⟩
    · exact absurd asked other
    · exact absurd current (unbound i)
  | observe hk hs =>
    obtain ⟨i, s, hs, current, -⟩ := hr.held hx hk
    exact absurd ((current_of_session hs).2 current) (unbound i)
  | fail reason served =>
    rw [served] at once
    exact absurd still (List.nodup_cons.1 once).1
  | supersede served mem =>
    rw [served, List.filterMap_append] at once
    exact absurd rfl ((List.nodup_append.1 once).2.2 h mem h still)
  | attach served noClose noCloseAll active hs unanswered timer =>
    rw [served] at once
    exact absurd still (List.nodup_cons.1 once).1

/-- A handle that is new is unopened as long as its open waits. -/
theorem Reachable.state_of_new (hr : Reachable b) {a : Action}
    (waits : .open h share ∈ (b.step a).waiting) (new : b.handles[h]? = none) {y : Handle}
    (hy : (b.step a).handles[h]? = some y) : y.state = .unopened := by
  rcases (hr.created a new hy).2 with unopened | ⟨-, same⟩
  · exact unopened
  · rw [same] at waits
    have there := lt_of_waiting hr.sound waits
    rw [List.getElem?_eq_getElem there] at new
    cases new

/-- The open of a handle that was there before has been waiting all along. -/
theorem Reachable.waiting_before (hr : Reachable b) {actions : List Action}
    (known : h < b.handles.length) (waits : .open h share ∈ (b.run actions).waiting) :
    ∃ share, .open h share ∈ b.waiting := by
  have hc := hr.run actions
  have accepted : h ∈ b.view.openHandles := by
    by_contra none
    have known : h < b.view.wanted.length := by simpa [view] using known
    refine (hr.refused_run ⟨known, none⟩ actions).none ?_
    obtain ⟨⟨lost, -, perm⟩, -⟩ := hc.perm_accepted
    rw [View.openHandles, view_accepted]
    exact mem_handles (perm.mem_iff.1 (List.mem_append_left _ (List.mem_append_right _ waits)))
  rw [View.openHandles, view_accepted, List.mem_filterMap] at accepted
  obtain ⟨r, accepted, same⟩ := accepted
  cases r with
  | close i => cases same
  | closeAll => cases same
  | «open» g share' =>
    obtain rfl : g = h := Option.some.inj same
    obtain ⟨⟨lost, alive, perm⟩, -⟩ := hr.perm_accepted
    have parts := perm.mem_iff.2 accepted
    rw [List.mem_append, List.mem_append] at parts
    rcases parts with (served | waits') | gone
    · exact absurd ((hr.servicedRequests_run actions).subset served)
        (hc.not_serviced_of_waiting waits share')
    · exact ⟨share', waits'⟩
    · -- A crash would have lost the open for good.
      have crashed : b.loop.stage = .crashed := by
        by_contra live
        rw [alive live] at gone
        cases gone
      have later : (b.run actions).loop.stage = .crashed :=
        (hr.stage_run_of_halted (.inr crashed) actions).trans crashed
      have ending : (b.run actions).view.loop.stage.isEnding = true :=
        congrArg LoopStage.isEnding later
      have none : (b.run actions).waiting = [] := (hc.sound.ending ending).2.1
      rw [none] at waits
      cases waits

/-- In a run at whose end the open waits, its handle is as it was at the start, or unopened if it is
new, unless its own client has let go of it. -/
theorem Reachable.untouched (hr : Reachable b) {actions : List Action}
    (waits : .open h share ∈ (b.run actions).waiting) (kept : .disconnect h ∉ actions) :
    ∃ y, (b.run actions).handles[h]? = some y ∧
      y.state = ((b.handles[h]?).map (·.state)).getD .unopened := by
  induction actions generalizing b with
  | nil =>
    have there := lt_of_waiting hr.sound waits
    exact ⟨b.handles[h], List.getElem?_eq_getElem there, by simp [there]⟩
  | cons a actions ih =>
    have other : a ≠ .disconnect h := fun same => kept (same ▸ List.mem_cons_self)
    obtain ⟨y, hy, state⟩ := ih (hr.step a) waits fun mem => kept (List.mem_cons_of_mem _ mem)
    refine ⟨y, hy, state.trans ?_⟩
    cases hz : (b.step a).handles[h]? with
    | none =>
      cases hx : b.handles[h]? with
      | none => rfl
      | some x =>
        obtain ⟨z, hz', -⟩ := hr.touches a hx
        cases hz.symm.trans hz'
    | some z =>
      obtain ⟨there, -⟩ := List.getElem?_eq_some_iff.1 hz
      obtain ⟨share', still⟩ := (hr.step a).waiting_before there waits
      cases hx : b.handles[h]? with
      | none => exact hr.state_of_new still hx hz
      | some x =>
        obtain ⟨z', hz', same⟩ := hr.state_step_of_waiting still other hx
        obtain rfl : z = z' := Option.some.inj (hz.symm.trans hz')
        exact same

/-! The opener. -/

theorem count_milestones {e : Event} (he : e.isMilestone = true) (b : Broker) :
    b.hw.milestones.count e = b.hw.history.count e :=
  List.count_filter he

/-- The opener is not asked for an open that is done with. -/
theorem Reachable.asked_step (hr : Reachable b) (served : .open h share ∈ b.servicedRequests)
    (a : Action) (c : CameraId) :
    (b.step a).hw.history.count (.openerAsked c h) = b.hw.history.count (.openerAsked c h) := by
  obtain ⟨new, same, news⟩ := hr.news a
  rw [← count_milestones rfl, ← count_milestones rfl, same, List.count_append, Nat.add_eq_right]
  refine List.count_eq_zero.2 fun asked => ?_
  obtain ⟨-, asks⟩ := news.opener c h asked
  obtain ⟨share', rest, head, -⟩ := asks.head
  have waits : .open h share' ∈ b.waiting := by
    rw [← view_waiting, head]
    exact List.mem_cons_self
  exact hr.not_serviced_of_waiting waits share served

/-- Nor does a call of the opener go on for it. -/
theorem Reachable.opens?_ne_of_serviced (hr : Reachable b)
    (served : .open h share ∈ b.servicedRequests) : b.loop.stage.opens? ≠ some h := by
  intro opens
  obtain ⟨c, opening⟩ := hr.sound.opening h opens
  obtain ⟨share', rest, head, -⟩ := opening.head
  have head : b.loop.pending = .open h share' :: rest := head
  have waits : .open h share' ∈ b.waiting := by simp [waiting, head]
  exact hr.not_serviced_of_waiting waits share served

theorem Reachable.asked_run (hr : Reachable b) (served : .open h share ∈ b.servicedRequests)
    (actions : List Action) (c : CameraId) :
    (b.run actions).hw.history.count (.openerAsked c h) =
      b.hw.history.count (.openerAsked c h) := by
  induction actions generalizing b with
  | nil => rfl
  | cons a actions ih =>
    exact (ih (hr.step a) ((hr.servicedRequests_step a).subset served)).trans
      (hr.asked_step served a c)

end CameraBroker.Broker
