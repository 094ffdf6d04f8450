import CameraBroker.Proofs.Accounting

/-! What a step tells of the opens it is done with and of the devices it asks for. -/
namespace CameraBroker

inductive Fate where
  | attached
  | failed
  | superseded
  | stale
deriving DecidableEq

def Fate.Told (h : HandleId) (events : List Event) : Fate → Prop
  | .attached => ∃ c i, .attached h c i ∈ events
  | .failed => (∃ c, .permissionAsked c false ∈ events) ∨ ∃ c, .openGivenUp c ∈ events
  | .superseded => .serviced .closeAll ∈ events
  | .stale => ∃ c, .stale h c ∈ events

namespace View

/-- The opener is asked only for the oldest request, and each open that is done with comes to one
thing. -/
structure News (v : View) (new : List Event) : Prop where
  opener : ∀ c h, .openerAsked c h ∈ new → v.loop.stage = .reading ∧ v.Asked h c
  fate : ∀ h share, .serviced (.open h share) ∈ new → ∃! f : Fate, f.Told h new

section
variable {v w : View}

theorem News.none {new : List Event} (opener : ∀ c h, .openerAsked c h ∉ new)
    (serviced : ∀ h share, .serviced (.open h share) ∉ new) : v.News new :=
  ⟨fun c h hc => absurd hc (opener c h), fun h share hs => absurd hs (serviced h share)⟩

theorem milestones_popHead {h : HandleId} {c : CameraId} (ho : v.Opening h c) (e : Event) :
    ∃ share, ((v.note e).popHead.setStage .reading).milestones =
      [.serviced (.open h share), e] ++ v.milestones := by
  obtain ⟨share, rest, pending, -⟩ := ho.head
  have pending' : (v.note e).loop.pending = .open h share :: rest := pending
  refine ⟨share, ?_⟩
  unfold View.popHead
  rw [pending']
  rfl

/-- The opener's call ends without a device, or tells of nothing but a device. -/
theorem news_opens {b' : Broker} {h : HandleId} {c : CameraId} (ho : v.Opening h c)
    (step : Broker.Opens b' h c v w) : ∃ new, w.milestones = new ++ v.milestones ∧
      ((∃ share, new = [.serviced (.open h share), .openGivenUp c]) ∨
        ∀ e ∈ new, e.isDeviceLine = true) := by
  cases step with
  | giveUp lost resolved =>
    obtain ⟨share, same⟩ := milestones_popHead ho (.openGivenUp c)
    exact ⟨_, same, .inl ⟨share, rfl⟩⟩
  | pause lost attempt due => exact ⟨[], rfl, .inr nofun⟩
  | «begin» lost camera simulated state release attempt due => exact ⟨[], rfl, .inr nofun⟩
  | call lost due => exact ⟨[], rfl, .inr nofun⟩
  | @simulated attempt due d x stage hx up =>
    refine ⟨[.deviceOpened c d, .logOpened c], rfl, .inr fun e he => ?_⟩
    rcases List.mem_cons.1 he with rfl | he
    · rfl
    · obtain rfl := List.mem_singleton.1 he
      rfl
  | manual stage camera manual release =>
    refine ⟨[.deviceOpened c v.devices.length], rfl, .inr fun e he => ?_⟩
    obtain rfl := List.mem_singleton.1 he
    rfl
  | crash stage => exact ⟨[], rfl, .inr nofun⟩

/-- An open that ends with these events and no others has one fate. -/
theorem fate_failed (h : HandleId) (share : Bool) {events : List Event} {c : CameraId}
    (mem : .openGivenUp c ∈ events)
    (only : ∀ e ∈ events, e = .serviced (.open h share) ∨ e = .openGivenUp c ∨
      e = .openerAsked c h ∨ e = .permissionAsked c true) : ∃! f : Fate, f.Told h events := by
  refine ⟨.failed, .inr ⟨c, mem⟩, fun f hf => ?_⟩
  cases f with
  | failed => rfl
  | attached =>
    obtain ⟨c, i, hc⟩ := hf
    simpa using only _ hc
  | superseded => simpa using only _ hf
  | stale =>
    obtain ⟨c, hc⟩ := hf
    simpa using only _ hc

end

end View

namespace Broker
variable {b b' : Broker} {w : View}

theorem Serves.news {h : HandleId} {share : Bool} {c : CameraId} {rest : List Request}
    (hs : b.view.Sound) (stage : b.loop.stage = .reading)
    (head : b.waiting = .open h share :: rest) (camera : b.view.wanted[h]? = some c)
    (serves : Serves b b' h share c rest w) :
    ∃ new, w.milestones = new ++ b.view.milestones ∧ b.view.News new := by
  cases serves with
  | stale answered =>
    refine ⟨[.serviced (.open h share), .stale h c], rfl, by simp, fun g share' hg => ?_⟩
    obtain ⟨rfl, rfl⟩ : g = h ∧ share' = share := by simpa using hg
    refine ⟨.stale, ⟨c, by simp⟩, fun f hf => ?_⟩
    cases f <;> simp [Fate.Told] at hf ⊢
  | makeRoom waits exclusive conflict some leaves =>
    exact ⟨[], rfl, .none (fun _ _ => List.not_mem_nil) fun _ _ => List.not_mem_nil⟩
  | replace waits active leaves =>
    exact ⟨[], rfl, .none (fun _ _ => List.not_mem_nil) fun _ _ => List.not_mem_nil⟩
  | @attach waits i t active ht resolved kept =>
    refine ⟨[.serviced (.open h share), .attached h c i], rfl, by simp, fun g share' hg => ?_⟩
    obtain ⟨rfl, rfl⟩ : g = h ∧ share' = share := by simpa using hg
    refine ⟨.attached, ⟨c, i, by simp⟩, fun f hf => ?_⟩
    cases f <;> simp [Fate.Told] at hf ⊢
  | deny waits resolved =>
    refine ⟨[.serviced (.open h share), .permissionAsked c false], rfl, by simp,
      fun g share' hg => ?_⟩
    obtain ⟨rfl, rfl⟩ : g = h ∧ share' = share := by simpa using hg
    refine ⟨.failed, .inl ⟨c, by simp⟩, fun f hf => ?_⟩
    cases f <;> simp [Fate.Told] at hf ⊢
  | ask waits alone none opens =>
    obtain ⟨-, opening⟩ := opening_ask hs stage head camera alone none
    obtain ⟨new, same, told⟩ := View.news_opens opening opens
    have asked : b.view.Asked h c :=
      ⟨camera, ⟨share, rest, head, fun hf => active_eq_nil hs none (alone hf)⟩,
        free_of_activeFor? none⟩
    refine ⟨new ++ [.openerAsked c h, .permissionAsked c true], ?_, fun c' g hg => ?_,
      fun g share' hg => ?_⟩
    · rw [same, List.append_assoc]
      rfl
    · rcases List.mem_append.1 hg with hg | hg
      · rcases told with ⟨share', rfl⟩ | lines
        · simp at hg
        · cases lines _ hg
      · obtain ⟨rfl, rfl⟩ : c' = c ∧ g = h := by simpa using hg
        exact ⟨stage, asked⟩
    · rcases told with ⟨share', rfl⟩ | lines
      · obtain ⟨rfl, rfl⟩ : g = h ∧ _ := by simpa using hg
        exact View.fate_failed g share' (c := c) (by simp) (by simp)
      · rcases List.mem_append.1 hg with hg | hg
        · cases lines _ hg
        · simp at hg

/-- What a turn of the loop tells. -/
theorem Rule.news (hs : b.view.Sound) (rule : Rule b b' w) :
    ∃ new, w.milestones = new ++ b.view.milestones ∧ b.view.News new := by
  have silent : ∀ {w : View}, w.milestones = b.view.milestones →
      ∃ new, w.milestones = new ++ b.view.milestones ∧ b.view.News new :=
    fun same => ⟨[], same, .none (fun _ _ => List.not_mem_nil) fun _ _ => List.not_mem_nil⟩
  cases rule with
  | idle => exact silent rfl
  | start stage => exact silent rfl
  | finish stage done noClient leaves => exact silent rfl
  | await stage sub down => exact silent rfl
  | @close stage i rest first left leaves =>
    exact ⟨[.serviced (.close i)], rfl, .none (by simp) (by simp)⟩
  | @closeAll stage noClose before after last resolved left leaves =>
    refine ⟨(before.map .serviced).reverse, rfl, by simp, fun h share hserviced => ?_⟩
    have all : Event.serviced .closeAll ∈ (before.map .serviced).reverse := by
      simpa using (lastCloseAll?_eq_some last).2.1
    refine ⟨.superseded, all, fun f hf => ?_⟩
    cases f <;> simp [Fate.Told] at hf ⊢
  | serve stage head camera serves => exact serves.news hs stage head camera
  | @opener h call stage c camera w opens =>
    obtain ⟨new, same, told⟩ := View.news_opens (opening_of_stage hs stage camera) opens
    refine ⟨new, same, ?_⟩
    rcases told with ⟨share, rfl⟩ | lines
    · refine ⟨by simp, fun g share' hg => ?_⟩
      obtain ⟨rfl, rfl⟩ : g = h ∧ share' = share := by simpa using hg
      exact View.fate_failed g share' (c := c) (by simp) (by simp)
    · exact .none (fun c h hc => nomatch lines _ hc) fun h share hc => nomatch lines _ hc

end Broker

/-! Beside the loop. -/

namespace View
variable {v w : View} {kept : HandleId → Prop}

/-- Beside the loop no request is done with, and the opener is not asked. -/
theorem Background.news (h : Background kept v w) : ∃ new, w.milestones = new ++ v.milestones ∧
    (∀ r, .serviced r ∉ new) ∧ ∀ c h, .openerAsked c h ∉ new := by
  have silent : ∀ {w : View}, w.milestones = v.milestones → ∃ new,
      w.milestones = new ++ v.milestones ∧ (∀ r, .serviced r ∉ new) ∧
        ∀ c h, .openerAsked c h ∉ new :=
    fun same => ⟨[], same, fun _ => List.not_mem_nil, fun _ _ => List.not_mem_nil⟩
  cases h with
  | @device d x y hx xy =>
    refine ⟨x.logLines y, rfl, fun r hr => ?_, fun c h hc => ?_⟩
    · rcases Device.eq_of_mem_logLines hr with h | h <;> cases h
    · rcases Device.eq_of_mem_logLines hc with h | h <;> cases h
  | refusedOpen c => exact silent rfl
  | «open» c share room => exact ⟨[.accepted _], rfl, by simp, by simp⟩
  | close hi room => exact ⟨[.accepted _], rfl, by simp, by simp⟩
  | closeAll room => exact ⟨[.accepted _], rfl, by simp, by simp⟩
  | leave => exact silent rfl
  | beginClose hk hs gone => exact silent rfl
  | endClose hk hc => exact silent rfl

theorem Meanwhile.news (h : Meanwhile kept v w) : ∃ new, w.milestones = new ++ v.milestones ∧
    (∀ r, .serviced r ∉ new) ∧ ∀ c h, .openerAsked c h ∉ new := by
  induction h with
  | refl => exact ⟨[], rfl, fun _ => List.not_mem_nil, fun _ _ => List.not_mem_nil⟩
  | tail _ move ih =>
    obtain ⟨new, same, noServiced, noOpener⟩ := ih
    obtain ⟨more, same', noServiced', noOpener'⟩ := move.news
    refine ⟨more ++ new, by rw [same', same, List.append_assoc], fun r hr => ?_, fun c h hc => ?_⟩
    · exact (List.mem_append.1 hr).elim (noServiced' r) (noServiced r)
    · exact (List.mem_append.1 hc).elim (noOpener' c h) (noOpener c h)

theorem Meanwhile.serviced (h : Meanwhile kept v w) : w.serviced = v.serviced := by
  obtain ⟨new, same, noServiced, -⟩ := h.news
  have none : new.filterMap Event.serviced? = [] := by
    refine List.filterMap_eq_nil_iff.2 fun e he => ?_
    cases e with
    | serviced r => exact absurd he (noServiced r)
    | _ => rfl
  rw [View.serviced, same, List.filterMap_append, none]
  rfl

def Refuses (v : View) : Prop := v.inbox.reader ≠ .open ∨ inboxDepth ≤ v.inbox.buffer.length

theorem not_refuses_of_hasRoom (room : v.HasRoom) : ¬v.Refuses := by
  rintro (closed | full)
  · exact closed room.1
  · exact Nat.not_lt.2 full room.2.2

/-- Nothing is accepted by an inbox that refuses. -/
theorem Refuses.background (h : Background kept v w) (hv : v.Refuses) :
    w.Refuses ∧ w.accepted = v.accepted := by
  cases h with
  | @device d x y hx xy =>
    refine ⟨hv, ?_⟩
    have none : (x.logLines y).filterMap Event.accepted? = [] := by
      refine List.filterMap_eq_nil_iff.2 fun e he => ?_
      rcases Device.eq_of_mem_logLines he with rfl | rfl
      · rfl
      · rfl
    simp [accepted, none]
  | refusedOpen c => exact ⟨hv, rfl⟩
  | «open» c share room => exact absurd hv (not_refuses_of_hasRoom room)
  | close hi room => exact absurd hv (not_refuses_of_hasRoom room)
  | closeAll room => exact absurd hv (not_refuses_of_hasRoom room)
  | leave => exact ⟨hv, rfl⟩
  | beginClose hk hs gone => exact ⟨hv, rfl⟩
  | endClose hk hc => exact ⟨hv, rfl⟩

theorem Refuses.meanwhile (h : Meanwhile kept v w) (hv : v.Refuses) : w.accepted = v.accepted := by
  have both : w.Refuses ∧ w.accepted = v.accepted := by
    induction h with
    | refl => exact ⟨hv, rfl⟩
    | tail _ move ih =>
      obtain ⟨still, same⟩ := ih.1.background move
      exact ⟨still, same.trans ih.2⟩
  exact both.2

end View

/-! Each handle is opened once at most. -/

def Request.handle? : Request → Option HandleId
  | .open h _ => some h
  | _ => none

namespace View

/-- The handles whose open was accepted. -/
def openHandles (v : View) : List HandleId := v.accepted.filterMap Request.handle?

structure OpensOnce (v : View) : Prop where
  nodup : v.openHandles.Nodup
  known : ∀ h ∈ v.openHandles, h < v.wanted.length

structure Refused (v : View) (h : HandleId) : Prop where
  known : h < v.wanted.length
  none : h ∉ v.openHandles

section
variable {v w : View} {kept : HandleId → Prop}

theorem openHandles_arrive (r : Request) (v : View) :
    (v.arrive r).openHandles = v.openHandles ++ r.handle?.toList := by
  rw [openHandles, accepted_arrive, List.filterMap_append]
  cases r <;> rfl

/-- Only the open of a new handle is accepted. -/
theorem openHandles_background (h : Background kept v w) :
    (w.openHandles = v.openHandles ∧ v.wanted.length ≤ w.wanted.length) ∨
      w.openHandles = v.openHandles ++ [v.wanted.length] ∧
        w.wanted.length = v.wanted.length + 1 := by
  cases h with
  | @device d x y hx xy =>
    have none : (x.logLines y).filterMap Event.accepted? = [] := by
      refine List.filterMap_eq_nil_iff.2 fun e he => ?_
      rcases Device.eq_of_mem_logLines he with rfl | rfl
      · rfl
      · rfl
    exact .inl ⟨by simp [openHandles, accepted, none], Nat.le_refl _⟩
  | refusedOpen c => exact .inl ⟨rfl, by simp [View.addHandle]⟩
  | «open» c share room =>
    exact .inr ⟨openHandles_arrive _ _, by simp [View.addHandle, View.arrive, View.note]⟩
  | close hi room =>
    exact .inl ⟨(openHandles_arrive _ _).trans (List.append_nil _), Nat.le_refl _⟩
  | closeAll room =>
    exact .inl ⟨(openHandles_arrive _ _).trans (List.append_nil _), Nat.le_refl _⟩
  | leave => exact .inl ⟨rfl, Nat.le_refl _⟩
  | beginClose hk hs gone => exact .inl ⟨rfl, Nat.le_refl _⟩
  | endClose hk hc => exact .inl ⟨rfl, Nat.le_refl _⟩

theorem OpensOnce.background (h : Background kept v w) (hv : v.OpensOnce) : w.OpensOnce := by
  rcases openHandles_background h with ⟨same, more⟩ | ⟨one, length⟩
  · exact ⟨same ▸ hv.nodup, fun h hh => Nat.lt_of_lt_of_le (hv.known h (same ▸ hh)) more⟩
  · refine ⟨?_, fun h hh => ?_⟩
    · rw [one]
      refine List.nodup_append.2 ⟨hv.nodup, List.pairwise_singleton _ _, fun h hh g hg => ?_⟩
      rw [List.mem_singleton.1 hg]
      exact Nat.ne_of_lt (hv.known h hh)
    · rw [length]
      rw [one] at hh
      rcases List.mem_append.1 hh with hh | hh
      · exact Nat.lt_succ_of_lt (hv.known h hh)
      · exact List.mem_singleton.1 hh ▸ Nat.lt_succ_self _

theorem Refused.background {h : HandleId} (step : Background kept v w) (hv : v.Refused h) :
    w.Refused h := by
  rcases openHandles_background step with ⟨same, more⟩ | ⟨one, length⟩
  · exact ⟨Nat.lt_of_lt_of_le hv.known more, same ▸ hv.none⟩
  · refine ⟨length ▸ Nat.lt_succ_of_lt hv.known, fun hh => ?_⟩
    rw [one] at hh
    rcases List.mem_append.1 hh with hh | hh
    · exact hv.none hh
    · exact absurd (List.mem_singleton.1 hh) (Nat.ne_of_lt hv.known)

end

end View

namespace Broker
variable {b b' : Broker} {w : View}

theorem Opens.wanted {h : HandleId} {c : CameraId} {v : View} (opens : Opens b' h c v w) :
    w.wanted = v.wanted := by
  cases opens with
  | giveUp lost resolved =>
    unfold View.popHead
    split <;> rfl
  | pause lost attempt due => rfl
  | «begin» lost camera simulated state release attempt due => rfl
  | call lost due => rfl
  | simulated stage hx up => rfl
  | manual stage camera manual release => rfl
  | crash stage => rfl

theorem Rule.wanted (rule : Rule b b' w) : w.wanted = b.view.wanted := by
  cases rule with
  | idle => rfl
  | start stage => rfl
  | finish stage done noClient leaves => rfl
  | close stage first leaves => rfl
  | closeAll stage noClose last resolved leaves => rfl
  | await stage sub down => rfl
  | opener stage camera opens => exact opens.wanted
  | serve stage head camera serves =>
    cases serves with
    | stale answered => rfl
    | makeRoom waits exclusive conflict some leaves => rfl
    | replace waits active leaves => rfl
    | attach waits active ht resolved kept => rfl
    | deny waits resolved => rfl
    | ask waits alone none opens => exact opens.wanted

/-- The requests that the inbox took, in the order of arrival. -/
def acceptedRequests (b : Broker) : List Request :=
  (b.hw.history.filterMap Event.accepted?).reverse

/-- The requests that the loop is done with, the first one first. -/
def servicedRequests (b : Broker) : List Request :=
  (b.hw.history.filterMap Event.serviced?).reverse

theorem filterMap_milestones {f : Event → Option Request}
    (hf : ∀ e, e.isMilestone = false → f e = none) (b : Broker) :
    b.view.milestones.filterMap f = b.hw.history.filterMap f := by
  have same : b.view.milestones = b.hw.history.filter Event.isMilestone := rfl
  rw [same, List.filterMap_filter]
  refine List.filterMap_congr fun e _ => ?_
  cases he : e.isMilestone with
  | true => rfl
  | false => simp [hf e he]

theorem view_accepted (b : Broker) : b.view.accepted = b.acceptedRequests := by
  rw [View.accepted, filterMap_milestones]
  · rfl
  · intro e he
    cases e <;> first | rfl | cases he

theorem view_servicedRequests (b : Broker) : b.view.serviced = b.servicedRequests := by
  rw [View.serviced, filterMap_milestones]
  · rfl
  · intro e he
    cases e <;> first | rfl | cases he

theorem Reachable.news (hr : Reachable b) (a : Action) :
    ∃ new, (b.step a).hw.milestones = new ++ b.hw.milestones ∧ b.view.News new := by
  rcases hr.step_cases a with beside | turn
  · obtain ⟨new, same, noServiced, noOpener⟩ := beside.view.news
    exact ⟨new, same, .none noOpener fun h share => noServiced _⟩
  · exact turn.rule.news hr.sound

/-- A handle stays, and only moves forward. -/
theorem Reachable.forward_step (hr : Reachable b) {h : HandleId} {x : Handle}
    (hx : b.handles[h]? = some x) (a : Action) :
    ∃ y, (b.step a).handles[h]? = some y ∧ x.state.rank ≤ y.state.rank := by
  rcases hr.step_cases a with beside | turn
  · obtain ⟨y, hy, xy⟩ := beside.fades h x hx
    exact ⟨y, hy, xy.forward⟩
  · exact turn.follows.forward h x hx

theorem Reachable.resolves_step (hr : Reachable b) {h : HandleId} (hh : b.Resolves h)
    (a : Action) : (b.step a).Resolves h :=
  hh.forward fun _ hx => hr.forward_step hx a

/-- The handle of an open that is done with has its answer. -/
theorem Reachable.resolves_of_serviced (hr : Reachable b) :
    ∀ h share, .open h share ∈ b.view.serviced → b.Resolves h := by
  refine hr.invariant (P := fun b => ∀ h share, .open h share ∈ b.view.serviced → b.Resolves h)
    (fun s => by simp [view_start, View.serviced]) fun b a hb hp h share hh => ?_
  rcases hb.step_cases a with beside | turn
  · rw [beside.view.serviced] at hh
    exact hb.resolves_step (hp h share hh) a
  · obtain ⟨rs, services, resolved⟩ := turn.rule.services hb.sound turn.follows
    cases services with
    | serve accepted serviced split crashed =>
      rw [serviced] at hh
      rcases List.mem_append.1 hh with hh | hh
      · exact hb.resolves_step (hp h share hh) a
      · exact resolved h share hh
    | crash accepted serviced none waiting stage =>
      rw [serviced] at hh
      exact hb.resolves_step (hp h share hh) a

theorem Reachable.resolves_run (hr : Reachable b) {h : HandleId} (hh : b.Resolves h)
    (actions : List Action) : (b.run actions).Resolves h := by
  induction actions generalizing b with
  | nil => exact hh
  | cons a actions ih => exact ih (hr.step a) (hr.resolves_step hh a)

theorem Turn.openHandles (hs : b.view.Sound) (turn : Turn b b') :
    b'.view.openHandles = b.view.openHandles := by
  obtain ⟨rs, services, -⟩ := turn.rule.services hs turn.follows
  cases services with
  | serve accepted serviced split crashed => rw [View.openHandles, accepted, View.openHandles]
  | crash accepted serviced none waiting stage =>
    rw [View.openHandles, accepted, View.openHandles]

theorem Reachable.opensOnce (hr : Reachable b) : b.view.OpensOnce := by
  refine hr.view_invariant ⟨List.nodup_nil, nofun⟩ (fun _ _ _ _ move hv => hv.background move)
    fun b b' hs turn hv => ⟨?_, fun h hh => ?_⟩
  · rw [turn.openHandles hs]
    exact hv.nodup
  · rw [turn.rule.wanted]
    exact hv.known h (turn.openHandles hs ▸ hh)

/-- A refused open is never accepted later. -/
theorem Reachable.refused_run (hr : Reachable b) {h : HandleId} (hh : b.view.Refused h)
    (actions : List Action) : (b.run actions).view.Refused h := by
  refine hr.view_run (P := fun v => v.Refused h) (fun _ _ _ _ move hv => hv.background move)
    (fun b b' hs turn hv => ?_) hh actions
  exact ⟨turn.rule.wanted ▸ hv.known, turn.openHandles hs ▸ hv.none⟩

theorem perm_of_filter_isClose {rs qs : List Request}
    (h : ∀ k, rs.filter (fun r => r.isClose = k) = qs.filter fun r => r.isClose = k) :
    rs.Perm qs := by
  refine List.perm_iff_count.2 fun r => ?_
  have same : ∀ ps : List Request,
      (ps.filter fun q => q.isClose = r.isClose).count r = ps.count r := fun ps =>
    List.count_filter (decide_eq_true rfl)
  rw [← same rs, ← same qs, h]

/-- What is serviced or waits has been accepted, and what is accepted is serviced or waits unless
a crash has lost it. Opens and close-alls are serviced in the order of arrival. -/
theorem Reachable.perm_accepted (hr : Reachable b) :
    (∃ lost, (b.loop.stage ≠ .crashed → lost = []) ∧
      (b.servicedRequests ++ b.waiting ++ lost).Perm b.acceptedRequests) ∧
    b.servicedRequests.filter (fun r => r.isClose = false) <+:
      b.acceptedRequests.filter fun r => r.isClose = false := by
  obtain ⟨lost, alive, parts⟩ := hr.accounted
  rw [view_accepted, view_servicedRequests, view_waiting] at parts
  refine ⟨⟨lost, alive, perm_of_filter_isClose fun k => ?_⟩, ?_⟩
  · rw [parts k, List.filter_append, List.filter_append]
  · rw [parts false, List.append_assoc]
    exact List.prefix_append _ _

/-- While the inbox refuses, nothing is accepted. -/
theorem Reachable.acceptedRequests_of_refuses (hr : Reachable b) (refuses : b.view.Refuses)
    (a : Action) : (b.step a).acceptedRequests = b.acceptedRequests := by
  rw [← view_accepted, ← view_accepted]
  rcases hr.step_cases a with beside | turn
  · exact View.Refuses.meanwhile beside.view refuses
  · obtain ⟨rs, services, -⟩ := turn.rule.services hr.sound turn.follows
    cases services with
    | serve accepted serviced split crashed => exact accepted
    | crash accepted serviced none waiting stage => exact accepted

/-- Every accepted request is serviced once or waits, unless a crash of the opener has lost it;
opens and close-alls are serviced in the order of arrival, and no open twice. An open that is done
with was attached, failed, superseded or stale, one of these, and its handle is answered for good.
An inbox that refuses accepts nothing, and a handle whose open was refused is never serviced. -/
theorem requests_accounted (hr : Reachable b) :
    (∃ lost, (b.loop.stage ≠ .crashed → lost = []) ∧
      (b.servicedRequests ++ b.waiting ++ lost).Perm b.acceptedRequests) ∧
    (b.servicedRequests.filterMap Request.handle?).Nodup ∧
    b.servicedRequests.filter (fun r => r.isClose = false) <+:
      b.acceptedRequests.filter (fun r => r.isClose = false) ∧
    (∀ h share, .open h share ∈ b.servicedRequests → ∀ actions, (b.run actions).Resolves h) ∧
    (∀ a, ∃ new, (b.step a).hw.milestones = new ++ b.hw.milestones ∧
      ∀ h share, .serviced (.open h share) ∈ new → ∃! f : Fate, f.Told h new) ∧
    (b.inbox.reader ≠ .open ∨ inboxDepth ≤ b.inbox.buffer.length →
      ∀ a, (b.step a).acceptedRequests = b.acceptedRequests) ∧
    (∀ h < b.handles.length, (∀ share, .open h share ∉ b.acceptedRequests) →
      ∀ actions share, .open h share ∉ (b.run actions).servicedRequests) := by
  obtain ⟨⟨lost, alive, perm⟩, order⟩ := hr.perm_accepted
  refine ⟨⟨lost, alive, perm⟩, ?_, order, fun h share hs actions => ?_, fun a => ?_,
    fun refuses a => ?_, fun h hh none actions share hs => ?_⟩
  · have once : (b.acceptedRequests.filterMap Request.handle?).Nodup := by
      rw [← view_accepted]
      exact hr.opensOnce.nodup
    have all := (perm.filterMap Request.handle?).nodup_iff.2 once
    rw [List.append_assoc, List.filterMap_append] at all
    exact (List.nodup_append.1 all).1
  · rw [← view_servicedRequests] at hs
    exact hr.resolves_run (hr.resolves_of_serviced h share hs) actions
  · obtain ⟨new, same, news⟩ := hr.news a
    exact ⟨new, same, news.fate⟩
  · exact hr.acceptedRequests_of_refuses refuses a
  · have known : h < b.view.wanted.length := by simpa [view] using hh
    have refused : b.view.Refused h := by
      refine ⟨known, fun hmem => ?_⟩
      rw [View.openHandles, view_accepted, List.mem_filterMap] at hmem
      obtain ⟨r, hr, hrh⟩ := hmem
      cases r with
      | «open» g share =>
        obtain rfl : g = h := Option.some.inj hrh
        exact none share hr
      | close i => cases hrh
      | closeAll => cases hrh
    -- What is serviced later would have been accepted.
    obtain ⟨⟨lost, -, perm⟩, -⟩ := (hr.run actions).perm_accepted
    have accepted : .open h share ∈ (b.run actions).acceptedRequests :=
      perm.mem_iff.1 (List.mem_append_left _ (List.mem_append_left _ hs))
    refine (hr.refused_run refused actions).none ?_
    rw [View.openHandles, view_accepted]
    exact List.mem_filterMap.2 ⟨_, accepted, rfl⟩

/-- A close-all supersedes an open that came before it. -/
def superseded : Broker := byHand [.turn .loop, .open front true, .closeAll, .turn .loop]

theorem requests_accounted_superseded :
    superseded.acceptedRequests = [.open 0 true, .closeAll] ∧
      superseded.servicedRequests = [.open 0 true, .closeAll] ∧
      ∀ actions, (superseded.run actions).Resolves 0 := by
  have hr : Reachable superseded := .byHand _
  have done : superseded.servicedRequests = [.open 0 true, .closeAll] := by decide
  refine ⟨by decide, done, fun actions => ?_⟩
  obtain ⟨-, -, -, resolved, -⟩ := requests_accounted hr
  exact resolved 0 true (by simp [done]) actions

end Broker

end CameraBroker
