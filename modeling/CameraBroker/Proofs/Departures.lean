import CameraBroker.Proofs.ActiveSessions
import CameraBroker.Proofs.Rounds
import CameraBroker.Proofs.Waiting
import Mathlib.Data.List.Perm.Subperm

/-! Why a session leaves the active set, and what keeps it there. A session whose device works is
reused: only a close, a close-all, an exclusive open of another camera or the end of the loop makes
it go, so devices are opened for a camera only as often as its sessions go. -/
namespace CameraBroker

def Event.opened? : Event → Option Face
  | .deviceOpened c d => some ⟨c, d⟩
  | _ => none

namespace View

/-- The sessions are for the devices that the opener returned, in the same order. -/
def OpenedInOrder (v : View) : Prop := v.deviceLines.filterMap Event.opened? = v.faces.reverse

section
variable {v w : View} {kept : HandleId → Prop}

theorem OpenedInOrder.background (h : Background kept v w) (hv : v.OpenedInOrder) :
    w.OpenedInOrder := by
  have aside := Aside.of_background h
  obtain ⟨new, lines, noDevice⟩ := aside.lines
  have none : new.filterMap Event.opened? = [] := by
    refine List.filterMap_eq_nil_iff.2 fun e he => ?_
    cases e with
    | deviceOpened c d => exact absurd he (noDevice c d)
    | _ => rfl
  rw [OpenedInOrder, lines, List.filterMap_append, none, aside.faces]
  exact hv

theorem OpenedInOrder.grows (h : v.Grows w) (hv : v.OpenedInOrder) : w.OpenedInOrder := by
  unfold OpenedInOrder at hv ⊢
  cases h with
  | remains h => rw [h.lines, h.faces, hv]
  | «begin» asked lost left camera simulated state faces devices lines active acquired =>
    rw [lines, faces, hv]
  | @simulated h c d x asked acquired acquires left up faces devices lines active stage =>
    have opened : (Event.deviceOpened c d).opened? = some ⟨c, d⟩ := rfl
    have logged : (Event.logOpened c).opened? = none := rfl
    rw [lines, faces, List.filterMap_cons_some opened, List.filterMap_cons_none logged, hv]
    simp
  | @manual h c x asked acquired left camera manual faces devices lines active stage =>
    have opened : (Event.deviceOpened c v.devices.length).opened? = some ⟨c, v.devices.length⟩ :=
      rfl
    rw [lines, faces, List.filterMap_cons_some opened, hv]
    simp

/-- A list counted by its indices. -/
theorem countP_range_getElem? {α : Type} (p : α → Bool) (l : List α) :
    (List.range l.length).countP (fun i => (l[i]?).any p) = l.countP p := by
  have same : (List.range l.length).map (fun i => l[i]?) = l.map some := by
    apply List.ext_getElem <;> simp
  calc (List.range l.length).countP (fun i => (l[i]?).any p)
      = ((List.range l.length).map fun i => l[i]?).countP (Option.any p) := by
        rw [List.countP_map]
        rfl
    _ = l.countP p := by
        rw [same, List.countP_map]
        rfl

/-- Of the sessions of a camera, all but one at most have left the active set. -/
theorem Sound.countP_faces_le (hv : v.Sound) (c : CameraId) :
    v.faces.countP (fun f => f.camera = c) ≤ 1 + (List.range v.faces.length).countP fun i =>
      v.cameraOf i = some c ∧ i ∉ v.loop.active := by
  have all : v.faces.countP (fun f => f.camera = c) =
      (List.range v.faces.length).countP fun i => v.cameraOf i = some c := by
    rw [← countP_range_getElem?]
    refine List.countP_congr fun i _ => ?_
    cases hf : v.faces[i]? <;> simp [cameraOf, hf]
  have kept : ((List.range v.faces.length).filter fun i => i ∈ v.loop.active).countP
      (fun i => v.cameraOf i = some c) ≤ 1 := by
    have once : ((List.range v.faces.length).filter fun i => i ∈ v.loop.active).Subperm
        v.loop.active := by
      refine List.subperm_of_subset (List.nodup_range.filter _) fun i hi => ?_
      exact of_decide_eq_true (List.mem_filter.1 hi).2
    exact Nat.le_trans (once.countP_le _) (Broker.countP_le_one hv.distinct _)
  have gone : ((List.range v.faces.length).filter fun i => !decide (i ∈ v.loop.active)).countP
      (fun i => v.cameraOf i = some c) =
        (List.range v.faces.length).countP fun i => v.cameraOf i = some c ∧ i ∉ v.loop.active := by
    simp [List.countP_filter, Bool.decide_and]
  rw [all, List.countP_eq_countP_filter_add _ _ fun i => decide (i ∈ v.loop.active), gone]
  exact Nat.add_le_add_right kept _

end

end View

namespace Broker
variable {b b' : Broker} {w : View} {i : SessionId}

/-- The device of the session has not reported that it closes. -/
def Works (b : Broker) (i : SessionId) : Prop :=
  ∀ (s : Session) (x : Device), b.sessions[i]? = some s → b.hw.devices[s.device]? = some x →
    x.stream.state.isTearingDown = false

/-- The loop is about to evaluate an open. -/
structure Evaluates (b : Broker) (h : HandleId) (share : Bool) (x : Handle) : Prop where
  stage : b.loop.stage = .reading
  head : ∃ rest, b.waiting = .open h share :: rest
  noClose : ∀ i, .close i ∉ b.waiting
  noCloseAll : .closeAll ∉ b.waiting
  handle : b.handles[h]? = some x

/-- Why a session whose device works leaves the active set in a step. -/
inductive Departs (b b' : Broker) (i : SessionId) : Prop where
  | close (waits : .close i ∈ b.waiting)
      (serviced : b'.servicedRequests = b.servicedRequests ++ [.close i])
  | closeAll {before : List Request} (waits : .closeAll ∈ b.waiting)
      (serviced : b'.servicedRequests = b.servicedRequests ++ before) (mem : .closeAll ∈ before)
  | makesRoom {h : HandleId} {x : Handle} {s : Session} (evaluates : b.Evaluates h false x)
      (unopened : x.state = .unopened) (hs : b.sessions[i]? = some s) (other : s.camera ≠ x.camera)
  | finish (done : b.waiting = []) (noClient : b.inbox.producers = 0)
      (ending : b'.loop.stage.isEnding = true)
  | crash {h : HandleId} {due : Nat} (stage : b.loop.stage = .opening h (.scripted due))
      (crashed : b'.loop.stage = .crashed)

theorem Works.not_isClosing (works : b.Works i) : ¬b.view.IsClosing i := by
  rintro ⟨f, x, hf, hx, down⟩
  obtain ⟨s, hs, rfl⟩ : ∃ s, b.sessions[i]? = some s ∧ s.face = f := by simpa [view] using hf
  cases (works s x hs hx).symm.trans down

/-- The opener lets go of no session, unless it crashes. -/
theorem Opens.active {h : HandleId} {c : CameraId} {v : View} (opens : Opens b' h c v w)
    (hi : i ∈ v.loop.active) : i ∈ w.loop.active ∨
      (∃ due, v.loop.stage = .opening h (.scripted due)) ∧ w.loop.stage = .crashed := by
  cases opens with
  | giveUp lost resolved =>
    have same : ((v.note (.openGivenUp c)).popHead.setStage .reading).loop.active =
        v.loop.active := by
      unfold View.popHead
      split <;> rfl
    exact .inl (same ▸ hi)
  | pause lost attempt due => exact .inl hi
  | «begin» lost camera simulated state release attempt due => exact .inl hi
  | call lost due => exact .inl hi
  | simulated stage hx up => exact .inl (List.mem_append_left _ hi)
  | manual stage camera manual release => exact .inl (List.mem_append_left _ hi)
  | crash stage => exact .inr ⟨⟨_, stage⟩, rfl⟩

/-- An open that is evaluated makes only sessions of other cameras go, and dead ones. -/
theorem Serves.departs {h : HandleId} {share : Bool} {x : Handle} {rest : List Request}
    (evaluates : b.Evaluates h share x) (serves : Serves b b' h share x.camera rest w)
    (hi : i ∈ b.loop.active) (out : i ∉ w.loop.active) : b.Departs b' i ∨ b.view.IsClosing i := by
  cases serves with
  | stale answered => exact absurd hi out
  | @makeRoom waits exclusive others own left conflict some leaves =>
    subst exclusive
    rw [conflicting_eq] at conflict
    cases conflict
    have other : ((b.sessions[i]?).any fun s => s.camera ≠ x.camera) = true := by
      rcases mem_filter_not_or hi fun i => (b.sessions[i]?).any fun s => s.camera ≠ x.camera
        with own | other
      · exact absurd own out
      · exact (List.mem_filter.1 other).2
    obtain ⟨z, hz, unopened⟩ := waits
    obtain rfl : x = z := Option.some.inj (evaluates.handle.symm.trans hz)
    obtain ⟨s, hs, other⟩ := (Option.any_eq_true _ _).1 other
    exact .inl (.makesRoom evaluates unopened hs (of_decide_eq_true other))
  | @replace waits j left active leaves dead =>
    rcases mem_filter_ne_or hi j with own | same
    · exact absurd own out
    · obtain rfl := List.mem_singleton.1 same
      exact .inr dead
  | attach waits active ht resolved kept => exact absurd hi out
  | deny waits resolved => exact absurd hi out
  | ask waits alone none opens =>
    rcases opens.active hi with still | ⟨⟨due, stage⟩, -⟩
    · exact absurd still out
    · cases evaluates.stage.symm.trans stage

/-- A turn of the loop lets go of a session for one of the reasons, or finds it dead. -/
theorem Rule.departs (rule : Rule b b' b'.view) (hi : i ∈ b.loop.active)
    (out : i ∉ b'.loop.active) : b.Departs b' i ∨ b.view.IsClosing i := by
  have out : i ∉ b'.view.loop.active := out
  have stage' : b'.view.loop.stage = b'.loop.stage := rfl
  generalize hw : b'.view = w at rule out stage'
  cases rule with
  | idle => exact absurd hi out
  | start stage => exact absurd hi out
  | finish stage done noClient leaves =>
    refine .inl (.finish done noClient ?_)
    rw [← stage']
    exact LoopStage.isEnding_afterWait _ _ _
  | @close stage j rest first left leaves =>
    have retires : b.Retires b' j rest left := ⟨stage, first, hw, leaves⟩
    rcases mem_filter_ne_or hi j with own | same
    · exact absurd own out
    · obtain rfl := List.mem_singleton.1 same
      obtain ⟨before, after, waiting, -, -⟩ := firstClose?_eq_some first
      exact .inl (.close (by simp [waiting]) retires.serviced)
  | @closeAll stage noClose before after last resolved left leaves =>
    have clears : b.Clears b' before after left := ⟨stage, noClose, last, leaves, hw⟩
    obtain ⟨split, mem, -⟩ := lastCloseAll?_eq_some last
    exact .inl (.closeAll (split ▸ List.mem_append_left _ mem) clears.serviced mem)
  | @serve stage h share rest head c camera w serves noClose noCloseAll =>
    obtain ⟨x, hx, rfl⟩ : ∃ x, b.handles[h]? = some x ∧ x.camera = c := by
      simpa [view] using camera
    have evaluates : b.Evaluates h share x :=
      ⟨stage, ⟨rest, head⟩, firstClose?_eq_none noClose, lastCloseAll?_eq_none noCloseAll, hx⟩
    exact serves.departs evaluates hi out
  | opener stage camera opens =>
    rcases opens.active hi with still | ⟨⟨due, same⟩, crashed⟩
    · exact absurd still out
    · exact .inl (.crash same (stage' ▸ crashed))
  | await stage sub down => exact absurd hi out

theorem Reachable.departs (hr : Reachable b) (a : Action) (hi : i ∈ b.loop.active)
    (works : b.Works i) (out : i ∉ (b.step a).loop.active) : b.Departs (b.step a) i := by
  rcases hr.step_cases a with beside | turn
  · have same : (b.step a).loop = b.loop := (View.Aside.of_meanwhile beside.view).loop
    exact absurd (same ▸ hi) out
  · exact (turn.rule.departs hi out).resolve_right works.not_isClosing

/-- While an open is evaluated, a session goes only to make room for another camera. -/
theorem Departs.of_evaluates {h : HandleId} {share : Bool} {x : Handle}
    (departs : b.Departs b' i) (evaluates : b.Evaluates h share x) :
    share = false ∧ x.state = .unopened ∧
      ∀ s, b.sessions[i]? = some s → s.camera ≠ x.camera := by
  obtain ⟨rest, head⟩ := evaluates.head
  cases departs with
  | close waits serviced => exact absurd waits (evaluates.noClose i)
  | closeAll waits serviced mem => exact absurd waits evaluates.noCloseAll
  | @makesRoom g y s other unopened hs apart =>
    obtain ⟨rest', head'⟩ := other.head
    cases head.symm.trans head'
    obtain rfl : x = y := Option.some.inj (evaluates.handle.symm.trans other.handle)
    exact ⟨rfl, unopened, fun z hz => Option.some.inj (hs.symm.trans hz) ▸ apart⟩
  | finish done noClient ending => cases head.symm.trans done
  | crash stage crashed => cases evaluates.stage.symm.trans stage

/-- The opener is asked for a camera only while no active session is for it. -/
theorem Reachable.free_of_asked (hr : Reachable b) {a : Action} {c : CameraId} {h : HandleId}
    (asked : b.hw.history.count (.openerAsked c h) <
      (b.step a).hw.history.count (.openerAsked c h)) :
    ∀ i ∈ b.loop.active, b.view.cameraOf i ≠ some c := by
  obtain ⟨new, same, news⟩ := hr.news a
  rw [← count_milestones rfl, ← count_milestones rfl, same, List.count_append] at asked
  have mem : .openerAsked c h ∈ new := List.count_pos_iff.1 (by omega)
  exact (news.opener c h mem).2.free

theorem Reachable.openedInOrder (hr : Reachable b) : b.view.OpenedInOrder :=
  hr.view_invariant rfl (fun _ _ _ _ move hv => hv.background move)
    fun _ _ hs turn hv => hv.grows (turn.rule.grows hs)

/-- The sessions are for the devices that the opener returned, one for each. -/
theorem Reachable.faces_eq (hr : Reachable b) :
    b.sessions.map Session.face = (b.hw.history.filterMap Event.opened?).reverse := by
  have lines : b.view.deviceLines.filterMap Event.opened? =
      b.hw.history.filterMap Event.opened? := by
    have same : b.view.deviceLines =
        (b.hw.history.filter Event.isMilestone).filter Event.isDeviceLine := rfl
    rw [same, List.filter_filter, List.filterMap_filter]
    refine List.filterMap_congr fun e _ => ?_
    cases e <;> rfl
  rw [← lines, hr.openedInOrder, List.reverse_reverse]
  rfl

/-- In every run a session whose device works leaves the active set only for one of five reasons:
a close of it or a close-all is serviced, an exclusive open of another camera is evaluated for a
handle that still waits, the loop finishes, or the opener crashes it. So an open of the same camera,
a shared one and one whose handle has its answer keep every such session; tasks close only sessions
that have left; the opener is asked only for a camera without an active session; and the devices
opened for a camera are at most one more than its sessions that have left. -/
theorem working_sessions_stay (hr : Reachable b) :
    (∀ a, ∀ i ∈ b.loop.active, b.Works i → i ∉ (b.step a).loop.active →
      b.Departs (b.step a) i) ∧
    (∀ h share x a, b.Evaluates h share x → ∀ i ∈ b.loop.active, ∀ s,
      b.sessions[i]? = some s → b.Works i →
        (share = true ∨ s.camera = x.camera ∨ x.state ≠ .unopened) →
          i ∈ (b.step a).loop.active) ∧
    (∀ k ∈ b.closes, k.session ∉ b.loop.active) ∧
    (∀ a c h, b.hw.history.count (.openerAsked c h) <
        (b.step a).hw.history.count (.openerAsked c h) →
      ∀ i ∈ b.loop.active, ∀ s, b.sessions[i]? = some s → s.camera ≠ c) ∧
    (∀ c, (b.hw.history.filterMap Event.opened?).countP (fun f => f.camera = c) ≤
      1 + (List.range b.sessions.length).countP fun i =>
        (b.sessions[i]?).map (·.camera) = some c ∧ i ∉ b.loop.active) := by
  refine ⟨fun a i hi works out => hr.departs a hi works out, fun h share x a evaluates i hi s hs
    works spared => ?_, fun k hk => (hr.sound.closes k hk).2, fun a c h asked i hi s hs same => ?_,
    fun c => ?_⟩
  · by_contra out
    obtain ⟨exclusive, unopened, other⟩ := (hr.departs a hi works out).of_evaluates evaluates
    rcases spared with shared | own | answered
    · cases exclusive.symm.trans shared
    · exact other s hs own
    · exact answered unopened
  · refine hr.free_of_asked asked i hi ?_
    simp [View.cameraOf, view, hs, Session.face, same]
  · have counted := hr.sound.countP_faces_le c
    have opened := congrArg (List.countP fun f : Face => f.camera = c) hr.faces_eq
    rw [List.countP_reverse] at opened
    rw [← opened]
    simpa [view, View.cameraOf, Session.face, Function.comp_def] using counted

/-- A shared camera has its session when another one is asked for exclusively. -/
def takenAlone : Broker :=
  byHand [.turn .loop, .open front true, .turn .loop, .turn .loop, .turn .loop, .open back false]

theorem working_sessions_stay_makesRoom : takenAlone.loop.active = [0] ∧
    (takenAlone.step (.turn .loop)).loop.active = [] ∧
    takenAlone.Departs (takenAlone.step (.turn .loop)) 0 := by
  have hr : Reachable takenAlone := .byHand _
  have one : takenAlone.loop.active = [0] := by decide
  have gone : (takenAlone.step (.turn .loop)).loop.active = [] := by decide
  have works : takenAlone.Works 0 := by
    intro s x hs hx
    have opened : ((takenAlone.sessions[0]?).bind fun s => takenAlone.hw.devices[s.device]?).all
        (fun x => !x.stream.state.isTearingDown) = true := by decide
    simpa [hs, hx] using opened
  obtain ⟨leaves, -⟩ := working_sessions_stay hr
  exact ⟨one, gone, leaves _ 0 (by simp [one]) works (by simp [gone])⟩

end Broker

end CameraBroker
