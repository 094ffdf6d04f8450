import CameraBroker.Proofs.Growth

/-! What becomes of requests. A request that the inbox takes waits until the loop is done with it,
and the loop is done with it once. Only closes of single sessions overtake. -/
namespace CameraBroker

def Event.accepted? : Event → Option Request
  | .accepted r => some r
  | _ => none

def Event.serviced? : Event → Option Request
  | .serviced r => some r
  | _ => none

def Request.isClose : Request → Bool
  | .close _ => true
  | _ => false

namespace View

/-- The requests that the inbox took, in the order of arrival. -/
def accepted (v : View) : List Request := (v.milestones.filterMap Event.accepted?).reverse

/-- The requests that the loop is done with, the first one first. -/
def serviced (v : View) : List Request := (v.milestones.filterMap Event.serviced?).reverse

/-- A turn is done with these requests. It keeps the order of the others, closes and the rest
each by themselves. A loop that crashes is done with none, and loses those that wait. -/
inductive Services (v w : View) (rs : List Request) : Prop where
  | serve (accepted : w.accepted = v.accepted) (serviced : w.serviced = v.serviced ++ rs)
      (split : ∀ k, v.waiting.filter (fun r => r.isClose = k) =
        rs.filter (fun r => r.isClose = k) ++ w.waiting.filter fun r => r.isClose = k)
      (crashed : v.loop.stage = .crashed → w.loop.stage = .crashed)
  | crash (accepted : w.accepted = v.accepted) (serviced : w.serviced = v.serviced)
      (none : rs = []) (waiting : w.waiting = []) (stage : w.loop.stage = .crashed)

/-- Every accepted request is serviced or waits, unless a crash has lost it. -/
def Accounted (v : View) : Prop :=
  ∃ lost, (v.loop.stage ≠ .crashed → lost = []) ∧ ∀ k,
    v.accepted.filter (fun r => r.isClose = k) =
      v.serviced.filter (fun r => r.isClose = k) ++ v.waiting.filter (fun r => r.isClose = k) ++
        lost.filter fun r => r.isClose = k

section
variable {v w : View} {rs : List Request}

theorem accepted_note (e : Event) (v : View) :
    (v.note e).accepted = v.accepted ++ e.accepted?.toList := by
  cases h : e.accepted? <;> simp [accepted, View.note, h]

theorem serviced_note (e : Event) (v : View) :
    (v.note e).serviced = v.serviced ++ e.serviced?.toList := by
  cases h : e.serviced? <;> simp [serviced, View.note, h]

theorem accepted_service (rs : List Request) (v : View) : (v.service rs).accepted = v.accepted := by
  induction rs generalizing v with
  | nil => rfl
  | cons r rs ih =>
    rw [service_cons, ih, accepted_note]
    exact List.append_nil _

theorem serviced_service (rs : List Request) (v : View) :
    (v.service rs).serviced = v.serviced ++ rs := by
  induction rs generalizing v with
  | nil => exact (List.append_nil _).symm
  | cons r rs ih =>
    rw [service_cons, ih, serviced_note]
    exact List.append_assoc _ _ _

theorem waiting_await {sessions left : List SessionId} {after : AfterClose}
    (stop : after = .stop → v.waiting = []) :
    (v.await sessions left after).waiting = v.waiting := by
  by_cases h : left = [] ∧ after = .stop
  · have empty := stop h.2
    obtain ⟨pending, -⟩ := List.append_eq_nil_iff.1 empty
    rw [empty]
    simp [waiting, View.await, View.setStage, View.setLoop, h, pending, Inbox.dropReader]
  · simp [waiting, View.await, View.setStage, View.setLoop, h]

theorem waiting_retire (sessions active left : List SessionId) (v : View) :
    (v.retire sessions active left .read).waiting = v.waiting :=
  waiting_await (v := (v.setActive active).startCloses sessions) nofun

/-- Nothing is done with. -/
theorem Services.none (accepted : w.accepted = v.accepted) (serviced : w.serviced = v.serviced)
    (waiting : w.waiting = v.waiting)
    (crashed : v.loop.stage = .crashed → w.loop.stage = .crashed) : v.Services w [] :=
  .serve accepted (serviced.trans (List.append_nil _).symm) (fun k => by rw [waiting]; rfl) crashed

/-- The loop is done with what stood before the rest. -/
theorem Services.before (stage : v.loop.stage ≠ .crashed) {rest : List Request}
    (waiting : v.waiting = rs ++ rest) (accepted : w.accepted = v.accepted)
    (serviced : w.serviced = v.serviced ++ rs) (left : w.waiting = rest) : v.Services w rs :=
  .serve accepted serviced (fun k => by rw [waiting, left, List.filter_append])
    fun h => absurd h stage

theorem Accounted.services (h : v.Services w rs) (hv : v.Accounted) : w.Accounted := by
  obtain ⟨lost, alive, parts⟩ := hv
  cases h with
  | serve accepted serviced split crashed =>
    refine ⟨lost, fun hw => alive fun hv => hw (crashed hv), fun k => ?_⟩
    rw [accepted, serviced, parts k, split k, List.filter_append]
    simp only [List.append_assoc]
  | crash accepted serviced none waiting stage =>
    refine ⟨v.waiting ++ lost, fun hw => absurd stage hw, fun k => ?_⟩
    rw [accepted, serviced, waiting, parts k, List.filter_append]
    simp only [List.append_assoc, List.filter_nil, List.nil_append]

theorem accepted_arrive (r : Request) (v : View) : (v.arrive r).accepted = v.accepted ++ [r] :=
  accepted_note _ _

theorem serviced_arrive (r : Request) (v : View) : (v.arrive r).serviced = v.serviced := by
  rw [View.arrive, serviced_note]
  exact List.append_nil _

theorem waiting_arrive (r : Request) (v : View) : (v.arrive r).waiting = v.waiting ++ [r] := by
  simp [waiting, View.arrive, View.note]

theorem Accounted.arrive (hs : v.Sound) (room : v.HasRoom) (hv : v.Accounted) (r : Request) :
    (v.arrive r).Accounted := by
  have alive : v.loop.stage ≠ .crashed := by
    intro h
    have gone := room.1.symm.trans (hs.halted (.inr h))
    cases gone
  obtain ⟨lost, none, parts⟩ := hv
  obtain rfl := none alive
  refine ⟨[], fun _ => rfl, fun k => ?_⟩
  rw [accepted_arrive, serviced_arrive, waiting_arrive, List.filter_append, parts k]
  simp only [List.filter_append, List.filter_nil, List.append_nil, List.append_assoc]

theorem Accounted.background {kept : HandleId → Prop} (hs : v.Sound) (h : Background kept v w)
    (hv : v.Accounted) : w.Accounted := by
  cases h with
  | @device d x y hx xy =>
    have logs : ∀ e ∈ x.logLines y, e.accepted? = .none ∧ e.serviced? = .none := by
      intro e he
      rcases Device.eq_of_mem_logLines he with rfl | rfl
      · exact ⟨rfl, rfl⟩
      · exact ⟨rfl, rfl⟩
    have accepted : accepted { v with
        devices := v.devices.set d y, milestones := x.logLines y ++ v.milestones } =
          v.accepted := by
      simp [View.accepted, List.filterMap_eq_nil_iff.2 fun e he => (logs e he).1]
    have serviced : serviced { v with
        devices := v.devices.set d y, milestones := x.logLines y ++ v.milestones } =
          v.serviced := by
      simp [View.serviced, List.filterMap_eq_nil_iff.2 fun e he => (logs e he).2]
    obtain ⟨lost, alive, parts⟩ := hv
    refine ⟨lost, alive, fun k => ?_⟩
    rw [accepted, serviced]
    exact parts k
  | refusedOpen c => exact hv
  | «open» c share room =>
    exact Accounted.arrive (hs.addHandle c) room (v := v.addHandle c) hv _
  | close hi room => exact hv.arrive hs room _
  | closeAll room => exact hv.arrive hs room _
  | leave => exact hv
  | beginClose hk hs gone => exact hv
  | endClose hk hc => exact hv

theorem Services.popHead {h : HandleId} {c : CameraId} (ho : v.Opening h c) {e : Event}
    (accepted : e.accepted? = .none) (serviced : e.serviced? = .none)
    (stage : v.loop.stage ≠ .crashed) :
    ∃ share, v.Services ((v.note e).popHead.setStage .reading) [.open h share] := by
  obtain ⟨share, rest, pending, -⟩ := ho.head
  have pending' : (v.note e).loop.pending = .open h share :: rest := pending
  have popped : (v.note e).popHead =
      ((v.note e).setPending rest).note (.serviced (.open h share)) := by
    unfold View.popHead
    rw [pending']
  have split : v.waiting = [.open h share] ++ (rest ++ v.inbox.buffer) := by
    rw [waiting, pending]
    rfl
  refine ⟨share, .before stage split ?_ ?_ ?_⟩
  · rw [popped]
    refine (accepted_note _ _).trans ((List.append_nil _).trans ((accepted_note e v).trans ?_))
    simp [accepted]
  · rw [popped]
    refine (serviced_note _ _).trans (congrArg (· ++ _) ((serviced_note e v).trans ?_))
    simp [serviced]
  · rw [popped]
    rfl

theorem services_opens {b' : Broker} {h : HandleId} {c : CameraId} (ho : v.Opening h c)
    (stage : v.loop.stage ≠ .crashed) (step : Broker.Opens b' h c v w) :
    ∃ rs, v.Services w rs ∧ ∀ g share, .open g share ∈ rs → b'.Resolves g := by
  have nothing : ∀ {w : View}, w.accepted = v.accepted → w.serviced = v.serviced →
      w.waiting = v.waiting →
      ∃ rs, v.Services w rs ∧ ∀ g share, .open g share ∈ rs → b'.Resolves g :=
    fun accepted serviced waiting => ⟨[], .none accepted serviced waiting fun h => absurd h stage,
      fun _ _ => nofun⟩
  cases step with
  | giveUp lost resolved =>
    obtain ⟨share, services⟩ := Services.popHead (e := .openGivenUp c) ho rfl rfl stage
    refine ⟨_, services, fun g share hg => ?_⟩
    cases List.mem_singleton.1 hg
    exact resolved
  | pause lost attempt due => exact nothing rfl rfl rfl
  | «begin» lost camera simulated state release attempt due => exact nothing rfl rfl rfl
  | call lost due => exact nothing rfl rfl rfl
  | simulated stage hx up =>
    refine nothing ?_ ?_ rfl
    · exact (accepted_note _ _).trans ((List.append_nil _).trans
        ((accepted_note _ _).trans (List.append_nil _)))
    · exact (serviced_note _ _).trans ((List.append_nil _).trans
        ((serviced_note _ _).trans (List.append_nil _)))
  | manual stage camera manual release =>
    refine nothing ?_ ?_ rfl
    · exact (accepted_note _ _).trans (List.append_nil _)
    · exact (serviced_note _ _).trans (List.append_nil _)
  | crash stage => exact ⟨[], .crash rfl rfl rfl rfl rfl, fun _ _ => nofun⟩

end

end View

namespace Broker
variable {b b' : Broker} {w : View}

theorem waiting_take (rest : List Request) (v : View) : (v.take rest).waiting = rest := by
  simp [View.waiting, View.take, View.setPending, View.setLoop]

/-- The oldest request is answered at once. -/
theorem Serves.services {h : HandleId} {share : Bool} {c : CameraId} {rest : List Request}
    (hs : b.view.Sound) (stage : b.loop.stage = .reading)
    (head : b.waiting = .open h share :: rest) (camera : b.view.wanted[h]? = some c)
    (follows : b.Follows b') (serves : Serves b b' h share c rest w) :
    ∃ rs, b.view.Services w rs ∧ ∀ g share, .open g share ∈ rs → b'.Resolves g := by
  have alive : b.view.loop.stage ≠ .crashed := by
    intro h
    cases stage.symm.trans h
  have nothing : ∀ {w : View}, w.accepted = b.view.accepted → w.serviced = b.view.serviced →
      w.waiting = b.view.waiting →
      ∃ rs, b.view.Services w rs ∧ ∀ g share, .open g share ∈ rs → b'.Resolves g :=
    fun accepted serviced waiting => ⟨[], .none accepted serviced waiting fun h => absurd h alive,
      fun _ _ => nofun⟩
  have answered : ∀ (u : View), u.accepted = b.view.accepted → u.serviced = b.view.serviced →
      u.waiting = rest → b'.Resolves h →
      ∃ rs, b.view.Services ((u.note (.serviced (.open h share))).setStage .reading) rs ∧
        ∀ g share, .open g share ∈ rs → b'.Resolves g := by
    intro u accepted serviced waiting resolved
    refine ⟨[.open h share], .before alive head ?_ ?_ waiting, fun g share' hg => ?_⟩
    · exact (View.accepted_note _ u).trans ((List.append_nil _).trans accepted)
    · exact (View.serviced_note _ u).trans (congrArg (· ++ _) serviced)
    · cases List.mem_singleton.1 hg
      exact resolved
  cases serves with
  | stale resolved =>
    refine answered _ ?_ ?_ (waiting_take rest _) ?_
    · exact (View.accepted_note _ _).trans (List.append_nil _)
    · exact (View.serviced_note _ _).trans (List.append_nil _)
    · exact resolved.forward (follows.forward h)
  | makeRoom waits exclusive conflict some leaves =>
    exact nothing rfl rfl ((View.waiting_retire _ _ _ _).trans ((waiting_take _ _).trans head.symm))
  | replace waits active leaves =>
    exact nothing rfl rfl ((View.waiting_retire _ _ _ _).trans ((waiting_take _ _).trans head.symm))
  | attach waits active ht resolved kept =>
    refine answered _ ?_ ?_ (waiting_take rest _) resolved
    · exact (View.accepted_note _ _).trans (List.append_nil _)
    · exact (View.serviced_note _ _).trans (List.append_nil _)
  | deny waits resolved =>
    refine answered _ ?_ ?_ (waiting_take rest _) resolved
    · exact (View.accepted_note _ _).trans (List.append_nil _)
    · exact (View.serviced_note _ _).trans (List.append_nil _)
  | ask waits alone none opens =>
    obtain ⟨-, opening⟩ := opening_ask hs stage head camera alone none
    obtain ⟨rs, services, resolved⟩ := View.services_opens opening alive opens
    have accepted : ((b.view.take (.open h share :: rest)).ask h c).accepted = b.view.accepted :=
      (View.accepted_note _ _).trans ((List.append_nil _).trans
        ((View.accepted_note _ _).trans (List.append_nil _)))
    have serviced : ((b.view.take (.open h share :: rest)).ask h c).serviced = b.view.serviced :=
      (View.serviced_note _ _).trans ((List.append_nil _).trans
        ((View.serviced_note _ _).trans (List.append_nil _)))
    have waiting : ((b.view.take (.open h share :: rest)).ask h c).waiting = b.view.waiting :=
      (waiting_take _ _).trans head.symm
    refine ⟨rs, ?_, resolved⟩
    cases services with
    | serve accepted' serviced' split crashed =>
      exact .serve (accepted'.trans accepted) (serviced ▸ serviced') (waiting ▸ split)
        fun h => absurd h alive
    | crash accepted' serviced' none waiting' stage' =>
      exact .crash (accepted'.trans accepted) (serviced'.trans serviced) none waiting' stage'

/-- What a turn of the loop is done with. -/
theorem Rule.services (hs : b.view.Sound) (follows : b.Follows b') (rule : Rule b b' w) :
    ∃ rs, b.view.Services w rs ∧ ∀ g share, .open g share ∈ rs → b'.Resolves g := by
  have alive : b.loop.stage = .reading → b.view.loop.stage ≠ .crashed := by
    intro stage h
    cases stage.symm.trans h
  cases rule with
  | idle => exact ⟨[], .none rfl rfl rfl id, fun _ _ => nofun⟩
  | start stage =>
    exact ⟨[], .none rfl rfl rfl fun h => (nomatch stage.symm.trans h), fun _ _ => nofun⟩
  | finish stage done noClient leaves =>
    exact ⟨[], .none rfl rfl (View.waiting_await fun _ => done) fun h => absurd h (alive stage),
      fun _ _ => nofun⟩
  | @close stage i rest first left leaves =>
    obtain ⟨before, after, waiting, rfl, none⟩ := firstClose?_eq_some first
    have left : (((b.view.take (before ++ after)).note (.serviced (.close i))).retire [i]
        (b.loop.active.filter (· ≠ i)) left .read).waiting = before ++ after :=
      (View.waiting_retire _ _ _ _).trans (waiting_take _ _)
    refine ⟨[.close i], .serve ?_ (View.serviced_note _ _) (fun k => ?_)
      fun h => absurd h (alive stage), fun g share hg => nomatch List.mem_singleton.1 hg⟩
    · exact (View.accepted_note _ _).trans (List.append_nil _)
    · rw [view_waiting, waiting, left]
      have skipped : before.filter (fun r => r.isClose = true) = [] := by
        refine List.filter_eq_nil_iff.2 fun r hr hc => ?_
        cases r with
        | close j => exact none j hr
        | «open» h share => cases of_decide_eq_true hc
        | closeAll => cases of_decide_eq_true hc
      cases k with
      | true =>
        rw [List.filter_append, List.filter_append, skipped]
        rfl
      | false => simp [Request.isClose]
  | @closeAll stage noClose before after last resolved left leaves =>
    refine ⟨before, .before (alive stage) (lastCloseAll?_eq_some last).1 ?_ ?_ ?_, resolved⟩
    · exact View.accepted_service before _
    · exact View.serviced_service before _
    · exact (View.waiting_retire _ _ _ _).trans (waiting_take after b.view)
  | serve stage head camera serves => exact serves.services hs stage head camera follows
  | opener stage camera opens =>
    have ho := opening_of_stage hs stage camera
    exact View.services_opens ho (fun h => nomatch stage.symm.trans h) opens
  | @await sessions left left' after stage sub down =>
    have ending : after = .stop → b.view.waiting = [] := fun stop =>
      (hs.ending ((congrArg LoopStage.isEnding stage).trans (decide_eq_true stop))).2.1
    exact ⟨[], .none rfl rfl (View.waiting_await ending) fun h => (nomatch stage.symm.trans h),
      fun _ _ => nofun⟩

theorem Reachable.accounted (hr : Reachable b) : b.view.Accounted := by
  refine hr.view_invariant ⟨[], fun _ => rfl, fun _ => rfl⟩
    (fun _ _ _ hs move hv => hv.background hs move) fun b b' hs turn hv => ?_
  obtain ⟨rs, services, -⟩ := turn.rule.services hs turn.follows
  exact hv.services services

end Broker

end CameraBroker
