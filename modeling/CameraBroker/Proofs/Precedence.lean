import CameraBroker.Proofs.Waiting

/-! Closes of single sessions come first. As long as one is pending, every open and every close-all
keeps waiting, and nothing is done about an open. -/
namespace CameraBroker

/-- What the loop does only while no close is pending: all about opens, and close-alls. -/
def Event.isOutranked : Event → Bool
  | .serviced (.close _) => false
  | .serviced _ => true
  | .stale _ _ => true
  | .permissionAsked _ _ => true
  | .openerAsked _ _ => true
  | .deviceOpened _ _ => true
  | .openGivenUp _ => true
  | .attached _ _ _ => true
  | _ => false

namespace View

structure HoldsBack (v w : View) : Prop where
  told : ∃ new, w.milestones = new ++ v.milestones ∧ ∀ e ∈ new, e.isOutranked = false
  waiting : v.waiting.filter (fun r => r.isClose = false) <+:
    w.waiting.filter fun r => r.isClose = false
  faces : w.faces = v.faces

def Undisturbed (v : View) : Prop :=
  ∀ h, v.loop.stage.opens? = some h → ∀ i, .close i ∉ v.loop.pending

section
variable {u v w : View} {kept : HandleId → Prop}

namespace HoldsBack

/-- Neither the history nor the requests show a change. -/
theorem silent (milestones : w.milestones = v.milestones) (waiting : w.waiting = v.waiting)
    (faces : w.faces = v.faces) : v.HoldsBack w :=
  ⟨⟨[], milestones, nofun⟩, waiting ▸ List.prefix_refl _, faces⟩

theorem trans (h : u.HoldsBack v) (k : v.HoldsBack w) : u.HoldsBack w := by
  obtain ⟨new, told, only⟩ := h.told
  obtain ⟨more, told', only'⟩ := k.told
  refine ⟨⟨more ++ new, by rw [told', told, List.append_assoc], fun e he => ?_⟩,
    h.waiting.trans k.waiting, k.faces.trans h.faces⟩
  exact (List.mem_append.1 he).elim (only' e) (only e)

theorem arrive (r : Request) (v : View) : v.HoldsBack (v.arrive r) := by
  refine ⟨⟨[.accepted r], rfl, fun e he => ?_⟩, ?_, rfl⟩
  · obtain rfl := List.mem_singleton.1 he
    rfl
  · rw [waiting_arrive, List.filter_append]
    exact List.prefix_append _ _

theorem background (h : Background kept v w) : v.HoldsBack w := by
  cases h with
  | @device d x y hx xy =>
    refine ⟨⟨x.logLines y, rfl, fun e he => ?_⟩, List.prefix_refl _, rfl⟩
    rcases Device.eq_of_mem_logLines he with rfl | rfl
    · rfl
    · rfl
  | refusedOpen c => exact silent rfl rfl rfl
  | «open» c share room =>
    have added : v.HoldsBack (v.addHandle c) := silent rfl rfl rfl
    exact added.trans (arrive _ _)
  | close hi room => exact arrive _ v
  | closeAll room => exact arrive _ v
  | leave => exact silent rfl rfl rfl
  | beginClose hk hs gone => exact silent rfl rfl rfl
  | endClose hk hc => exact silent rfl rfl rfl

theorem meanwhile (h : Meanwhile kept v w) : v.HoldsBack w := by
  induction h with
  | refl => exact silent rfl rfl rfl
  | tail _ move ih => exact ih.trans (background move)

end HoldsBack

end

end View

namespace Broker
variable {b b' : Broker} {w : View}

/-- The loop has taken in a close, or takes it in before it does anything else. -/
def ClosePending (b : Broker) : Prop :=
  ∃ i, .close i ∈ b.loop.pending ∨ b.loop.stage = .reading ∧ .close i ∈ b.inbox.buffer

theorem ClosePending.waits (pending : b.ClosePending) : ∃ i, .close i ∈ b.waiting := by
  obtain ⟨i, mem | ⟨-, mem⟩⟩ := pending
  · exact ⟨i, List.mem_append_left _ mem⟩
  · exact ⟨i, List.mem_append_right _ mem⟩

theorem ClosePending.firstClose (pending : b.ClosePending) : firstClose? b.waiting ≠ none := by
  obtain ⟨i, waits⟩ := pending.waits
  exact fun none => firstClose?_eq_none none i waits

/-- A call of the opener changes nothing that is pending as long as it goes on. -/
theorem Opens.pending {h : HandleId} {c : CameraId} {v : View} (opens : Opens b' h c v w)
    {g : HandleId} (goesOn : w.loop.stage.opens? = some g) : w.loop.pending = v.loop.pending := by
  cases opens with
  | giveUp lost resolved => cases goesOn
  | pause lost attempt due => rfl
  | «begin» lost camera simulated state release attempt due => rfl
  | call lost due => rfl
  | simulated stage hx up => cases goesOn
  | manual stage camera manual release => cases goesOn
  | crash stage => cases goesOn

/-- The opener is called only when no close waits, and then the loop takes in nothing more. -/
theorem Rule.undisturbed (rule : Rule b b' w) (hv : b.view.Undisturbed) : w.Undisturbed := by
  have afterWait : ∀ {sessions left : List SessionId} {after : AfterClose} {h : HandleId},
      (LoopStage.afterWait sessions left after).opens? ≠ some h := by
    intro sessions left after h
    rw [LoopStage.opens?_afterWait]
    exact nofun
  cases rule with
  | idle => exact hv
  | start stage => exact nofun
  | finish stage done noClient leaves => exact fun h goesOn => absurd goesOn afterWait
  | close stage first leaves => exact fun h goesOn => absurd goesOn afterWait
  | closeAll stage noClose last resolved leaves => exact fun h goesOn => absurd goesOn afterWait
  | await stage sub down => exact fun h goesOn => absurd goesOn afterWait
  | opener stage camera opens =>
    intro g goesOn
    rw [opens.pending goesOn]
    exact hv _ (congrArg LoopStage.opens? stage)
  | serve stage head camera serves noClose noCloseAll =>
    cases serves with
    | stale answered => exact nofun
    | makeRoom waits exclusive conflict some leaves => exact fun h goesOn => absurd goesOn afterWait
    | replace waits active leaves dead => exact fun h goesOn => absurd goesOn afterWait
    | attach waits active ht resolved kept => exact nofun
    | deny waits resolved => exact nofun
    | ask waits alone none opens =>
      intro g goesOn
      rw [opens.pending goesOn]
      exact firstClose?_eq_none (head ▸ noClose)

theorem Reachable.undisturbed (hr : Reachable b) : b.view.Undisturbed := by
  refine hr.view_invariant nofun (fun _ v w _ move hv => ?_) fun _ _ _ turn hv =>
    turn.rule.undisturbed hv
  unfold View.Undisturbed
  rw [(View.Aside.of_background move).loop]
  exact hv

/-- A turn of the loop with a close pending services a close, or nothing. -/
theorem Rule.holdsBack (hs : b.view.Sound) (free : b.view.Undisturbed) (pending : b.ClosePending)
    (rule : Rule b b' w) : b.view.HoldsBack w := by
  cases rule with
  | idle => exact .silent rfl rfl rfl
  | start stage => exact .silent rfl rfl rfl
  | finish stage done noClient leaves =>
    obtain ⟨i, waits⟩ := pending.waits
    rw [done] at waits
    cases waits
  | @close stage i rest first left leaves =>
    obtain ⟨before, after, waiting, rfl, -⟩ := firstClose?_eq_some first
    refine ⟨⟨[.serviced (.close i)], rfl, fun e he => ?_⟩, ?_, rfl⟩
    · obtain rfl := List.mem_singleton.1 he
      rfl
    · have left : ((b.view.take (before ++ after)).note (.serviced (.close i))).waiting =
          before ++ after := waiting_take _ b.view
      rw [View.waiting_retire, left, view_waiting, waiting]
      simp [Request.isClose]
  | closeAll stage noClose last resolved leaves => exact absurd noClose pending.firstClose
  | serve stage head camera serves noClose noCloseAll => exact absurd noClose pending.firstClose
  | opener stage camera opens =>
    obtain ⟨i, taken | ⟨reading, -⟩⟩ := pending
    · exact absurd taken (free _ (congrArg LoopStage.opens? stage) i)
    · cases stage.symm.trans reading
  | @await sessions left left' after stage sub down =>
    refine .silent rfl (View.waiting_await fun stop => ?_) rfl
    exact (hs.ending ((congrArg LoopStage.isEnding stage).trans (decide_eq_true stop))).2.1

/-- As long as a close is pending, a step does nothing about opens and close-alls. -/
theorem Reachable.holdsBack (hr : Reachable b) (pending : b.ClosePending) (a : Action) :
    b.view.HoldsBack (b.step a).view := by
  rcases hr.step_cases a with beside | turn
  · exact .meanwhile beside.view
  · exact turn.rule.holdsBack hr.sound hr.undisturbed pending

/-- Nor does it answer a handle that waits, unless its own client lets go of it. -/
theorem Reachable.waits_of_closePending (hr : Reachable b) (pending : b.ClosePending) {a : Action}
    {h : HandleId} (waits : b.Waits h) (other : a ≠ .disconnect h) : (b.step a).Waits h := by
  obtain ⟨x, hx, unopened⟩ := waits
  have alive : b.loop.stage ≠ .crashed := by
    intro crashed
    obtain ⟨i, there⟩ := pending.waits
    rw [← view_waiting, (hr.sound.ending (congrArg LoopStage.isEnding crashed)).2.1] at there
    cases there
  obtain ⟨share, asked⟩ := (hr.waiting_of_waits h ⟨x, hx, unopened⟩).resolve_left alive
  have waiting : .open h share ∈ b.waiting.filter fun r => r.isClose = false :=
    List.mem_filter.2 ⟨asked, rfl⟩
  have still := (List.mem_filter.1 ((hr.holdsBack pending a).waiting.subset waiting)).1
  obtain ⟨y, hy, same⟩ := hr.state_step_of_waiting still other hx
  exact ⟨y, hy, same.trans unopened⟩

end Broker

end CameraBroker
