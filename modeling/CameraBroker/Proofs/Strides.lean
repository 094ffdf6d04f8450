import CameraBroker.Proofs.Attaching
import CameraBroker.Proofs.Shutdown

/-! What a step comes to for the requests that wait, as long as nothing new is asked and the devices
of active sessions work. The loop is done with requests, or all of them stay and it makes room for the
oldest open, replaces the dead session of its camera, or adds the one that is missing. None of this is
taken back while the open waits. -/
namespace CameraBroker

def Request.isOpen : Request → Bool
  | .open _ _ => true
  | _ => false

namespace View

def sessionFor? (c : CameraId) (v : View) : Option SessionId :=
  v.loop.active.find? fun i => v.cameraOf i = some c

def others (c : CameraId) (v : View) : List SessionId :=
  v.loop.active.filter fun i => (v.cameraOf i).any (· ≠ c)

def isClosing (v : View) (i : SessionId) : Bool :=
  (v.faces[i]?).any fun f => (v.devices[f.device]?).any fun x => x.stream.state.isTearingDown

/-- Rounds that an open of the camera takes once no other camera is in its way. A session whose
device closes is replaced, one that is missing is added, and then the handle is attached. -/
def roundsFor (c : CameraId) (v : View) : Nat :=
  match v.sessionFor? c with
  | none => 2
  | some i => if v.isClosing i then 3 else 1

structure Eases (c : CameraId) (v w : View) : Prop where
  rounds : w.roundsFor c ≤ v.roundsFor c
  others : v.others c = [] → w.others c = []

section
variable {v w : View} {c : CameraId} {i : SessionId}

theorem isClosing_iff : v.isClosing i = true ↔ v.IsClosing i := by
  simp only [isClosing, IsClosing, Option.any_eq_true]
  constructor
  · rintro ⟨f, hf, x, hx, down⟩
    exact ⟨f, x, hf, hx, down⟩
  · rintro ⟨f, x, hf, hx, down⟩
    exact ⟨f, hf, x, hx, down⟩

theorem roundsFor_of_none (none : v.sessionFor? c = none) : v.roundsFor c = 2 := by
  rw [roundsFor, none]

theorem roundsFor_of_closing (session : v.sessionFor? c = some i) (closing : v.IsClosing i) :
    v.roundsFor c = 3 := by
  rw [roundsFor, session]
  exact if_pos (isClosing_iff.2 closing)

theorem roundsFor_of_working (session : v.sessionFor? c = some i) (works : ¬v.IsClosing i) :
    v.roundsFor c = 1 := by
  rw [roundsFor, session]
  exact if_neg fun closing => works (isClosing_iff.1 closing)

theorem roundsFor_cases (c : CameraId) (v : View) :
    v.sessionFor? c = none ∧ v.roundsFor c = 2 ∨
      ∃ i, v.sessionFor? c = some i ∧
        (v.IsClosing i ∧ v.roundsFor c = 3 ∨ ¬v.IsClosing i ∧ v.roundsFor c = 1) := by
  cases session : v.sessionFor? c with
  | none => exact .inl ⟨rfl, roundsFor_of_none session⟩
  | some i =>
    refine .inr ⟨i, rfl, ?_⟩
    by_cases closing : v.IsClosing i
    · exact .inl ⟨closing, roundsFor_of_closing session closing⟩
    · exact .inr ⟨closing, roundsFor_of_working session closing⟩

theorem roundsFor_bounds (c : CameraId) (v : View) : 1 ≤ v.roundsFor c ∧ v.roundsFor c ≤ 3 := by
  rcases v.roundsFor_cases c with ⟨-, n⟩ | ⟨i, -, ⟨-, n⟩ | ⟨-, n⟩⟩ <;> omega

theorem Eases.refl (c : CameraId) (v : View) : v.Eases c v := ⟨Nat.le_refl _, id⟩

/-- The sessions are the same, and those whose devices work go on working. -/
theorem Eases.of_active (active : w.loop.active = v.loop.active)
    (cameras : ∀ i ∈ v.loop.active, w.cameraOf i = v.cameraOf i)
    (works : ∀ i ∈ v.loop.active, ¬v.IsClosing i → ¬w.IsClosing i) (c : CameraId) :
    v.Eases c w := by
  have session : w.sessionFor? c = v.sessionFor? c := by
    unfold sessionFor?
    rw [active, ← List.head?_filter, ← List.head?_filter]
    exact congrArg List.head? (List.filter_congr fun i hi => by rw [cameras i hi])
  have others : w.others c = v.others c := by
    unfold View.others
    rw [active]
    exact List.filter_congr fun i hi => by rw [cameras i hi]
  refine ⟨?_, fun none => others.trans none⟩
  rcases v.roundsFor_cases c with ⟨none, two⟩ | ⟨i, some, ⟨closing, three⟩ | ⟨working, one⟩⟩
  · exact Nat.le_of_eq ((roundsFor_of_none (session.trans none)).trans two.symm)
  · rw [three]
    exact (w.roundsFor_bounds c).2
  · have mem : i ∈ v.loop.active := List.mem_of_find?_eq_some some
    have working' := works i mem working
    exact Nat.le_of_eq ((roundsFor_of_working (session.trans some) working').trans one.symm)

/-- Once the sessions of other cameras are closed, nothing is in the way. -/
theorem others_retire (c : CameraId) (v : View) (left : List SessionId) (after : AfterClose) :
    (v.retire (v.others c) (v.loop.active.filter fun i => !(v.cameraOf i).any (· ≠ c)) left
      after).others c = [] := by
  refine List.filter_eq_nil_iff.2 fun i hi other => ?_
  have own := (List.mem_filter.1 hi).2
  have other : (v.cameraOf i).any (· ≠ c) = true := other
  rw [other] at own
  cases own

theorem sessionFor?_retire (c : CameraId) (v : View) (sessions left : List SessionId)
    (after : AfterClose) :
    (v.retire sessions (v.loop.active.filter fun i => !(v.cameraOf i).any (· ≠ c)) left
      after).sessionFor? c = v.sessionFor? c := by
  have same : (v.retire sessions (v.loop.active.filter fun i => !(v.cameraOf i).any (· ≠ c)) left
      after).sessionFor? c = (v.loop.active.filter fun i =>
        !(v.cameraOf i).any (· ≠ c)).find? fun i => v.cameraOf i = some c := rfl
  rw [same, List.find?_filter, sessionFor?]
  congr 1
  funext i
  cases camera : v.cameraOf i <;> simp

theorem sessionFor?_cameraOf (session : v.sessionFor? c = some i) :
    i ∈ v.loop.active ∧ v.cameraOf i = some c := by
  refine ⟨List.mem_of_find?_eq_some session, ?_⟩
  exact of_decide_eq_true (List.find?_some (p := fun i => v.cameraOf i = some c) session)

/-- Without its session, the camera has none. -/
theorem sessionFor?_replace (hv : v.Sound) (session : v.sessionFor? c = some i)
    (sessions left : List SessionId) (after : AfterClose) :
    (v.retire sessions (v.loop.active.filter (· ≠ i)) left after).sessionFor? c = none := by
  obtain ⟨mem, camera⟩ := sessionFor?_cameraOf session
  refine List.find?_eq_none.2 fun j hj same => ?_
  obtain ⟨hj, apart⟩ := List.mem_filter.1 hj
  have same : v.cameraOf j = some c := of_decide_eq_true same
  exact of_decide_eq_true apart (hv.eq_of_cameraOf hj mem (same.trans camera.symm))

theorem others_of_subset {active : List SessionId} (sub : active ⊆ v.loop.active)
    (hw : w.loop.active = active) (faces : w.faces = v.faces) (none : v.others c = []) :
    w.others c = [] := by
  refine List.filter_eq_nil_iff.2 fun j hj => ?_
  have old := List.filter_eq_nil_iff.1 none j (sub (hw ▸ hj))
  rwa [cameraOf_of_faces faces]

/-- The camera has a session once one has joined for it. -/
theorem sessionFor?_join (old : ∀ i ∈ v.loop.active, i < v.faces.length) (asked : CameraId)
    (d : DeviceId) (free : ∀ i ∈ v.loop.active, v.cameraOf i ≠ some c) :
    (v.join asked c d).sessionFor? c = some v.faces.length := by
  have same : (v.join asked c d).sessionFor? c =
      (v.loop.active ++ [v.faces.length]).find? fun i => (v.join asked c d).cameraOf i = some c :=
    rfl
  have none : (v.loop.active.find? fun i => (v.join asked c d).cameraOf i = some c) = none := by
    refine List.find?_eq_none.2 fun i hi same => free i hi ?_
    simpa [cameraOf, View.join, List.getElem?_append_left (old i hi)] using same
  rw [same, List.find?_append, none]
  simp [cameraOf, View.join]

theorem others_join (old : ∀ i ∈ v.loop.active, i < v.faces.length) (asked : CameraId)
    (d : DeviceId) (none : v.others c = []) : (v.join asked c d).others c = [] := by
  refine List.filter_eq_nil_iff.2 fun i hi => ?_
  rcases List.mem_append.1 hi with hi | hi
  · have here := List.filter_eq_nil_iff.1 none i hi
    simpa [cameraOf, View.join, List.getElem?_append_left (old i hi)] using here
  · obtain rfl := List.mem_singleton.1 hi
    simp [cameraOf, View.join]

end

/-- Between two turns of the loop as many requests are accepted as begin to wait. -/
theorem Meanwhile.arrivals {kept : HandleId → Prop} (h : Meanwhile kept v w) :
    w.accepted.length + v.waiting.length = v.accepted.length + w.waiting.length := by
  have arrives : ∀ (r : Request) (u : View),
      u.accepted.length + v.waiting.length = v.accepted.length + u.waiting.length →
      (u.arrive r).accepted.length + v.waiting.length =
        v.accepted.length + (u.arrive r).waiting.length := by
    intro r u same
    rw [accepted_arrive, waiting_arrive, List.length_append, List.length_append]
    simp only [List.length_singleton]
    omega
  refine h.invariant (P := fun w =>
    w.accepted.length + v.waiting.length = v.accepted.length + w.waiting.length)
    (fun u w move same => ?_) rfl
  cases move with
  | @device d x y hx xy =>
    have logs : (x.logLines y).filterMap Event.accepted? = [] := by
      refine List.filterMap_eq_nil_iff.2 fun e he => ?_
      rcases Device.eq_of_mem_logLines he with rfl | rfl <;> rfl
    have accepted : accepted { u with
        devices := u.devices.set d y, milestones := x.logLines y ++ u.milestones } =
          u.accepted := by
      simp [View.accepted, logs]
    rw [accepted]
    exact same
  | refusedOpen c => exact same
  | «open» c share room => exact arrives _ (u.addHandle c) same
  | close hi room => exact arrives _ u same
  | closeAll room => exact arrives _ u same
  | leave => exact same
  | beginClose hk hs gone => exact same
  | endClose hk hc => exact same

/-- While it closes sessions, the loop waits for each of them until its device is gone. -/
def Awaits (v w : View) : Prop :=
  ∀ i ∈ v.loop.stage.left, i ∈ w.loop.stage.left ∨ v.IsDown i

theorem Leaves.left_or_down {v : View} {sessions left : List SessionId} {i : SessionId}
    (h : v.Leaves sessions left) (mem : i ∈ sessions) : i ∈ left ∨ v.IsDown i := by
  by_cases out : i ∈ left
  · exact .inl out
  · exact .inr (h.down i mem out)

end View

namespace Broker
variable {b b' : Broker} {a : Action} {c : CameraId} {h : HandleId} {i : SessionId} {share : Bool}
  {x : Handle} {r : Request} {rest : List Request}

theorem not_isClosing_iff : ¬b.view.IsClosing i ↔ b.Works i := by
  refine ⟨fun open' s x hs hx => ?_, Works.not_isClosing⟩
  by_contra down
  exact open' ⟨s.face, x, by simp [view, hs], hx, by simpa using down⟩

theorem view_sessionFor? (c : CameraId) (b : Broker) : b.view.sessionFor? c = b.activeFor? c := by
  unfold View.sessionFor? activeFor?
  congr 1
  funext i
  cases hs : b.sessions[i]? <;> simp [View.cameraOf, view, hs, Session.face]

theorem view_others (c : CameraId) (b : Broker) : b.view.others c = (b.conflicting c).1 := by
  rw [conflicting_eq]
  refine List.filter_congr fun i _ => ?_
  cases hs : b.sessions[i]? <;> simp [View.cameraOf, view, hs, Session.face]

theorem conflicting_snd (c : CameraId) (b : Broker) :
    (b.conflicting c).2 = b.loop.active.filter fun i => !(b.view.cameraOf i).any (· ≠ c) := by
  rw [conflicting_eq]
  refine List.filter_congr fun i _ => ?_
  cases hs : b.sessions[i]? <;> simp [View.cameraOf, view, hs, Session.face]

structure BeginsRound (b : Broker) (a : Action) : Prop where
  turn : a = .turn .loop
  stage : b.loop.stage = .reading
  busy : b.waiting ≠ []

instance (b : Broker) (a : Action) : Decidable (b.BeginsRound a) :=
  decidable_of_iff (a = .turn .loop ∧ b.loop.stage = .reading ∧ b.waiting ≠ [])
    ⟨fun ⟨turn, stage, busy⟩ => ⟨turn, stage, busy⟩, fun ⟨turn, stage, busy⟩ => ⟨turn, stage, busy⟩⟩

/-- Nothing new is asked in the step, the devices of active sessions do not start to close, and a
device that the opener returns is not closing or closed. -/
structure Undisturbed (b : Broker) (a : Action) : Prop where
  accepted : (b.step a).acceptedRequests = b.acceptedRequests
  works : ∀ i ∈ b.loop.active, b.Works i → (b.step a).Works i
  opened : ∀ i ∈ (b.step a).loop.active, i ∉ b.loop.active → (b.step a).Works i

/-- What becomes of the loop in a step in which it is done with none of the requests. Only a round
that begins takes up the oldest open. -/
inductive Pace (b : Broker) (a : Action) (b' : Broker) : Prop where
  | rests (quiet : ¬b.BeginsRound a) (calls : b'.loop.stage.opens? = b.loop.stage.opens?)
      (active : b'.loop.active = b.loop.active) (awaits : b.view.Awaits b'.view)
      (eases : ∀ c, b.view.Eases c b'.view)
  | makesRoom {h : HandleId} {x : Handle} (evaluates : b.Evaluates h false x)
      (waits : x.state = .unopened) (crowded : b.view.others x.camera ≠ [])
      (idle : b'.loop.stage.opens? = none) (out : ∀ i ∈ b.view.others x.camera,
        i ∉ b'.loop.active ∧ (i ∈ b'.loop.stage.left ∨ b.view.IsDown i))
      (others : b'.view.others x.camera = [])
      (rounds : b'.view.roundsFor x.camera = b.view.roundsFor x.camera)
  | replaces {h : HandleId} {share : Bool} {x : Handle} {i : SessionId}
      (evaluates : b.Evaluates h share x) (waits : x.state = .unopened)
      (alone : share = false → b.view.others x.camera = [])
      (session : b.view.sessionFor? x.camera = some i) (dead : b.view.IsClosing i)
      (idle : b'.loop.stage.opens? = none)
      (out : i ∉ b'.loop.active ∧ (i ∈ b'.loop.stage.left ∨ b.view.IsDown i))
      (others : b.view.others x.camera = [] → b'.view.others x.camera = [])
      (rounds : b'.view.roundsFor x.camera = 2)
  | asks {h : HandleId} {share : Bool} {x : Handle} (evaluates : b.Evaluates h share x)
      (waits : x.state = .unopened) (none : b.view.sessionFor? x.camera = none)
      (calls : b'.loop.stage.opens? = some h) (active : b'.loop.active = b.loop.active)
      (alone : share = false → b.view.others x.camera = [])
      (eases : b.view.Eases x.camera b'.view)
  | joins {h : HandleId} {c : CameraId} (calls : b.loop.stage.opens? = some h)
      (asked : b.view.Asked h c) (stage : b'.loop.stage = .reading) {i : SessionId}
      (session : b'.view.sessionFor? c = some i) (rounds : b'.view.roundsFor c = 1)
      (others : b.view.others c = [] → b'.view.others c = [])

inductive Stride (b : Broker) (a : Action) (b' : Broker) : Prop where
  | empties (none : b'.waiting = [])
  | serves {r : Request} (head : b.waiting = r :: b'.waiting)
  | overtakes {r : Request} (mem : r ∈ b.waiting) (close : r.isOpen = false)
      (sub : b'.waiting.Sublist b.waiting) (fewer : b'.waiting.length < b.waiting.length)
  | keeps (same : b'.waiting = b.waiting) (pace : b.Pace a b')

/-- A round services a close, or everything up to the last close-all, or takes up an open. -/
theorem round_resumeLoop (hs : b.view.Sound) (stage : b.loop.stage = .reading)
    (head : b.waiting = r :: rest) :
    (∃ i rest left, b.Retires b.resumeLoop i rest left) ∨
      (∃ before after left, b.Clears b.resumeLoop before after left) ∨
        ∃ h share x, r = .open h share ∧ b.Evaluates h share x ∧
          Serves b b.resumeLoop h share x.camera rest b.resumeLoop.view := by
  have turns := resumeLoop_of_waiting stage head
  have pending : b.takeIn.loop.pending = b.waiting := rfl
  cases first : firstClose? b.waiting with
  | some found =>
    let told := (b.takeIn.setPending found.2).serviced (.close found.1)
    have toldView : told.view = (b.view.take found.2).note (.serviced (.close found.1)) := by
      unfold told
      rw [view_serviced, view_setPending, view_takeIn]
      rfl
    obtain ⟨left, leaves, closed⟩ := view_closeSessions (b.loop.active.filter (· ≠ found.1))
      [found.1] .read told
    rw [toldView] at leaves closed
    refine .inl ⟨found.1, found.2, left, stage, first, ?_, leaves.sub, leaves.down⟩
    rw [← closed, turns, serve, pending, first]
    rfl
  | none =>
    cases last : lastCloseAll? b.waiting with
    | some split =>
      let given := split.1.foldl supersede (b.takeIn.setPending split.2)
      let told := given.emit (.superseding given.loop.active.length)
      obtain ⟨view, -⟩ := supersedeAll split.1 (b.takeIn.setPending split.2)
      have toldView : told.view = (b.view.take split.2).service split.1 := by
        unfold told
        rw [view_emit, view, view_setPending, view_takeIn]
        rfl
      have active : given.loop.active = b.loop.active := congrArg (·.loop.active) toldView
      obtain ⟨left, leaves, closed⟩ := view_closeSessions [] given.loop.active .read told
      rw [toldView] at leaves closed
      refine .inr (.inl ⟨split.1, split.2, left, stage, first, last,
        ⟨active ▸ leaves.sub, active ▸ leaves.down⟩, ?_⟩)
      rw [← active, ← closed, turns, serve, pending, first, last]
    | none =>
      obtain ⟨h, share, rfl⟩ := exists_open_of_none (head ▸ first) (head ▸ last)
      obtain ⟨x, hx⟩ : ∃ x, b.handles[h]? = some x :=
        ⟨_, List.getElem?_eq_getElem (lt_of_waiting hs (head ▸ List.mem_cons_self))⟩
      have evaluates : b.Evaluates h share x :=
        ⟨stage, ⟨rest, head⟩, firstClose?_eq_none first, lastCloseAll?_eq_none last, hx⟩
      have view : b.takeIn.view = b.view.take (.open h share :: rest) := by
        rw [view_takeIn, head]
      rw [resumeLoop_of_evaluates evaluates]
      exact .inr (.inr ⟨h, share, x, rfl, evaluates, (serves_serveOpen view rfl rfl hx stage).1⟩)

/-! What a step comes to, case by case. -/

theorem Evaluates.unopened (evaluates : b.Evaluates h share x) (waits : b.Waits h) :
    x.state = .unopened := by
  obtain ⟨y, hy, unopened⟩ := waits
  obtain rfl : x = y := Option.some.inj (evaluates.handle.symm.trans hy)
  exact unopened

theorem waiting_of_beside (beside : b.Beside b')
    (accepted : b'.acceptedRequests = b.acceptedRequests) : b'.waiting = b.waiting := by
  have counted := View.Meanwhile.arrivals beside.view
  rw [view_accepted, view_accepted, accepted] at counted
  have arrived : b.waiting <+: b'.waiting := (View.Aside.of_meanwhile beside.view).waiting
  exact (arrived.eq_of_length (Nat.add_left_cancel counted)).symm

theorem Undisturbed.eases (calm : b.Undisturbed a) (active : (b.step a).loop.active = b.loop.active)
    (cameras : ∀ i ∈ b.loop.active, (b.step a).view.cameraOf i = b.view.cameraOf i)
    (c : CameraId) : b.view.Eases c (b.step a).view := by
  refine .of_active active cameras (fun i hi works => ?_) c
  exact not_isClosing_iff.2 (calm.works i hi (not_isClosing_iff.1 works))

/-- Nothing but the loop's own turns moves the loop. -/
theorem pace_of_beside (calm : b.Undisturbed a) (quiet : ¬b.BeginsRound a)
    (beside : b.Beside (b.step a)) : b.Pace a (b.step a) := by
  have aside := View.Aside.of_meanwhile beside.view
  have loop : (b.step a).loop = b.loop := aside.loop
  refine .rests quiet (by rw [loop]) (by rw [loop]) (fun i hi => .inl ?_) (calm.eases ?_ ?_)
  · rwa [aside.loop]
  · rw [loop]
  · exact fun i _ => View.cameraOf_of_faces aside.faces i

/-- A session for the device that the opener returns joins the active ones. -/
theorem pace_of_join (hs : b.view.Sound) (calm : b.Undisturbed a) {v : View}
    (asked : b.view.Asked h c) (calls : b.loop.stage.opens? = some h) {d : DeviceId}
    (joined : (b.step a).view = v.join c c d) (loop : v.loop = b.view.loop)
    (faces : v.faces = b.view.faces) : b.Pace a (b.step a) := by
  have old : ∀ i ∈ v.loop.active, i < v.faces.length := by
    rw [loop, faces]
    exact hs.active
  have active : (b.step a).loop.active = v.loop.active ++ [v.faces.length] :=
    congrArg (·.loop.active) joined
  have session : (b.step a).view.sessionFor? c = some v.faces.length := by
    rw [joined]
    refine View.sessionFor?_join old c d fun i hi => ?_
    rw [View.cameraOf_of_faces faces]
    exact asked.free i (loop ▸ hi)
  have works : (b.step a).Works v.faces.length := by
    refine calm.opened _ (active ▸ by simp) fun mem => ?_
    have known := old v.faces.length (loop ▸ mem)
    exact Nat.lt_irrefl _ known
  refine .joins calls asked (congrArg (·.loop.stage) joined) session
    (View.roundsFor_of_working session (not_isClosing_iff.2 works)) fun none => ?_
  rw [joined]
  refine View.others_join old c d ?_
  exact View.others_of_subset (List.Subset.refl _) (congrArg (·.active) loop) faces none

/-- While the opener's call goes on the open stays the oldest request, and it is done with once the
opener gives up. -/
theorem stride_of_opens (hs : b.view.Sound) (calm : b.Undisturbed a) {call : OpenerCall}
    (stage : b.loop.stage = .opening h call) (camera : b.view.wanted[h]? = some c)
    (opens : Opens (b.step a) h c b.view (b.step a).view) : b.Stride a (b.step a) := by
  have ho := opening_of_stage hs stage camera
  have calls : b.loop.stage.opens? = some h := congrArg LoopStage.opens? stage
  have idle : b.view.loop.stage.left = [] := congrArg LoopStage.left stage
  have quiet : ¬b.BeginsRound a := by
    rintro ⟨-, reading, -⟩
    cases stage.symm.trans reading
  have goesOn : (b.step a).view.loop.stage.opens? = some h →
      (b.step a).view.loop.active = b.loop.active → (b.step a).view.waiting = b.waiting →
      (b.step a).view.faces = b.view.faces → b.Stride a (b.step a) := by
    intro next active same faces
    refine .keeps same (.rests quiet (next.trans calls.symm) active (fun i hi => ?_)
      (calm.eases active fun i _ => View.cameraOf_of_faces faces i))
    rw [idle] at hi
    cases hi
  generalize view : (b.step a).view = w at opens goesOn
  cases opens with
  | giveUp lost resolved =>
    obtain ⟨share, rest, pending, -⟩ := ho.head
    refine .serves (r := .open h share) ?_
    have popped : (b.step a).waiting = rest ++ b.inbox.buffer := by
      rw [← view_waiting, view, View.popHead]
      have same : (b.view.note (.openGivenUp c)).loop.pending = .open h share :: rest := pending
      rw [same]
      rfl
    have pending : b.loop.pending = .open h share :: rest := pending
    rw [popped, waiting, pending]
    rfl
  | pause lost attempt due => exact goesOn rfl rfl rfl rfl
  | «begin» lost camera simulated state release attempt due => exact goesOn rfl rfl rfl rfl
  | call lost due => exact goesOn rfl rfl rfl rfl
  | @simulated attempt due d x acquiring hx up =>
    have acquired : b.view.loop.stage.acquired? = some d := congrArg LoopStage.acquired? acquiring
    obtain ⟨y, acquires⟩ := hs.acquired d h c acquired calls camera
    obtain rfl : x = y := Option.some.inj (hx.symm.trans acquires.there)
    have same : (b.step a).waiting = b.waiting := by
      rw [← view_waiting, view]
      rfl
    rw [acquires.camera] at view
    exact .keeps same (pace_of_join hs calm ho.asked calls view rfl rfl)
  | @manual due scripted x camera manual release =>
    have same : (b.step a).waiting = b.waiting := by
      rw [← view_waiting, view]
      rfl
    exact .keeps same (pace_of_join hs calm ho.asked calls view rfl rfl)
  | crash scripted =>
    refine .empties ?_
    rw [← view_waiting, view]
    rfl

/-- The opener is asked for the device of an open, or has none at once. -/
theorem stride_of_ask (calm : b.Undisturbed a) (evaluates : b.Evaluates h share x)
    (waits : b.Waits h) (head : b.waiting = .open h share :: rest)
    (alone : share = false → (b.conflicting x.camera).1 = []) (none : b.activeFor? x.camera = none)
    (opens : Opens (b.step a) h x.camera ((b.view.take (.open h share :: rest)).ask h x.camera)
      (b.step a).view) : b.Stride a (b.step a) := by
  let asking := (b.view.take (.open h share :: rest)).ask h x.camera
  have stage : asking.loop.stage = .reading := evaluates.stage
  have taken : asking.waiting = b.waiting := (waiting_take _ b.view).trans head.symm
  have goesOn : (b.step a).view.loop.stage.opens? = some h →
      (b.step a).view.loop.active = b.loop.active → (b.step a).view.waiting = b.waiting →
      (b.step a).view.faces = b.view.faces → b.Stride a (b.step a) := by
    intro next active same faces
    exact .keeps same (.asks evaluates (evaluates.unopened waits) (by rwa [view_sessionFor?]) next
      active (fun exclusive => by rw [view_others, alone exclusive])
      (calm.eases active (fun i _ => View.cameraOf_of_faces faces i) x.camera))
  generalize view : (b.step a).view = w at opens goesOn
  cases opens with
  | giveUp lost resolved =>
    refine .serves (r := .open h share) ?_
    have popped : (b.step a).waiting = rest := by
      rw [← view_waiting, view]
      exact List.append_nil rest
    rw [popped, head]
  | pause lost attempt due => exact goesOn rfl rfl taken rfl
  | «begin» lost camera simulated state release attempt due => exact goesOn rfl rfl taken rfl
  | call lost due => exact goesOn rfl rfl taken rfl
  | simulated acquiring hx up => cases stage.symm.trans acquiring
  | manual scripted camera manual release => cases stage.symm.trans scripted
  | crash scripted => cases stage.symm.trans scripted

/-- The loop closes the sessions that are in the way of an open and waits for them. -/
theorem pace_of_makeRoom (evaluates : b.Evaluates h false x) (waits : b.Waits h)
    {others own left : List SessionId} (conflict : b.conflicting x.camera = (others, own))
    (some : others ≠ []) (leaves : b.view.Leaves others left)
    (view : b'.view = (b.view.take rest).retire others own left .read) : b.Pace a b' := by
  have first : b.view.others x.camera = others := by rw [view_others, conflict]
  have second : own = b.loop.active.filter fun i => !(b.view.cameraOf i).any (· ≠ x.camera) := by
    rw [← conflicting_snd, conflict]
  subst first second
  have stage : b'.loop.stage = .afterWait (b.view.others x.camera) left .read :=
    congrArg (·.loop.stage) view
  refine .makesRoom evaluates (evaluates.unopened waits) some
    (by rw [stage, LoopStage.opens?_afterWait]) ?_ ?_ ?_
  · refine fun i hi => ⟨fun own => ?_, ?_⟩
    · have own : i ∈ b'.view.loop.active := own
      rw [view] at own
      have other := (List.mem_filter.1 hi).2
      have own := (List.mem_filter.1 own).2
      rw [other] at own
      cases own
    · rw [stage, LoopStage.left_afterWait]
      exact leaves.left_or_down hi
  · rw [view]
    exact View.others_retire x.camera (b.view.take rest) left .read
  · have session := View.sessionFor?_retire x.camera (b.view.take rest)
      (b.view.others x.camera) left .read
    rw [view, View.roundsFor, View.roundsFor]
    exact congrArg (fun s => match s with
      | .none => 2
      | .some i => if b.view.isClosing i then 3 else 1) session

/-- The loop makes room for an exclusive open before it looks for the session of its camera. -/
theorem active_of_conflict (evaluates : b.Evaluates h false x) (waits : b.Waits h)
    (crowded : (b.conflicting x.camera).1 ≠ []) :
    b.resumeLoop.loop.active = (b.conflicting x.camera).2 := by
  have same : b.takeIn.conflicting x.camera = b.conflicting x.camera := rfl
  have there : b.takeIn.handles[h]? = some x := evaluates.handle
  rw [resumeLoop_of_evaluates evaluates, serveOpen, there]
  dsimp only
  rw [if_neg (not_not.2 (evaluates.unopened waits)), if_neg Bool.false_ne_true, same]
  generalize b.conflicting x.camera = conflict at crowded
  obtain ⟨others, own⟩ := conflict
  cases others with
  | nil => exact absurd rfl crowded
  | cons i others =>
    obtain ⟨left, -, view⟩ := view_closeSessions own (i :: others) .read
      (b.takeIn.emit (.makingRoom (i :: others).length x.camera))
    exact congrArg (·.loop.active) view

/-- The loop closes the session of a device that is lost and waits for it. -/
theorem pace_of_replace (hs : b.view.Sound) (evaluates : b.Evaluates h share x)
    (waits : b.Waits h) (roomFirst : share = false → (b.conflicting x.camera).1 ≠ [] →
      b'.loop.active = (b.conflicting x.camera).2) {left : List SessionId}
    (active : b.activeFor? x.camera = some i) (leaves : b.view.Leaves [i] left) (dead : b.view.IsClosing i)
    (view : b'.view = (b.view.take rest).retire [i] (b.loop.active.filter (· ≠ i)) left .read) :
    b.Pace a b' := by
  have session : b.view.sessionFor? x.camera = some i := by rwa [view_sessionFor?]
  have stage : b'.loop.stage = .afterWait [i] left .read := congrArg (·.loop.stage) view
  have kept : b'.loop.active = b.loop.active.filter (· ≠ i) := congrArg (·.loop.active) view
  refine .replaces evaluates (evaluates.unopened waits) (fun exclusive => ?_) session dead
    (by rw [stage, LoopStage.opens?_afterWait]) ⟨?_, ?_⟩ ?_ (View.roundsFor_of_none ?_)
  · by_contra crowded
    rw [view_others] at crowded
    have own := roomFirst exclusive crowded
    obtain ⟨mem, camera⟩ := View.sessionFor?_cameraOf session
    have stays : i ∈ b'.loop.active := by
      rw [own, conflicting_snd]
      exact List.mem_filter.2 ⟨mem, by simp [camera]⟩
    exact absurd (kept ▸ stays) (not_mem_filter_ne i _)
  · rw [kept]
    exact not_mem_filter_ne i _
  · rw [stage, LoopStage.left_afterWait]
    exact leaves.left_or_down (List.mem_singleton_self i)
  · refine View.others_of_subset List.filter_sublist.subset kept ?_
    rw [view]
    rfl
  · have none := View.sessionFor?_replace hs session [i] left .read
    rw [view]
    exact none

/-- A round that takes up an open. -/
theorem stride_of_serves (hs : b.view.Sound) (calm : b.Undisturbed a)
    (evaluates : b.Evaluates h share x) (head : b.waiting = .open h share :: rest)
    (turns : b.step a = b.resumeLoop)
    (serves : Serves b (b.step a) h share x.camera rest (b.step a).view) :
    b.Stride a (b.step a) := by
  have served : (b.step a).view.waiting = rest → b.Stride a (b.step a) := by
    intro popped
    refine .serves (r := .open h share) ?_
    rw [head, ← popped]
    rfl
  have taken : (b.view.take (.open h share :: rest)).waiting = b.waiting :=
    (waiting_take _ b.view).trans head.symm
  generalize view : (b.step a).view = w at serves served
  cases serves with
  | stale answered => exact served (waiting_take rest b.view)
  | attach waits active ht resolved kept => exact served (waiting_take rest b.view)
  | deny waits resolved => exact served (waiting_take rest b.view)
  | makeRoom waits exclusive conflict some leaves =>
    subst exclusive
    refine .keeps ?_ (pace_of_makeRoom evaluates waits conflict some leaves view)
    rw [← view_waiting, view, View.waiting_retire, taken]
  | replace waits active leaves dead =>
    refine .keeps ?_ (pace_of_replace hs evaluates waits (fun exclusive crowded => ?_) active
      leaves dead view)
    · rw [← view_waiting, view, View.waiting_retire, taken]
    · subst exclusive
      rw [turns, active_of_conflict evaluates waits crowded]
  | ask waits alone none opens =>
    exact stride_of_ask calm evaluates waits head alone none (view ▸ opens)

/-- A round that begins is done with a close, with everything up to the last close-all, or takes up
the oldest open. -/
theorem stride_of_begins (hs : b.view.Sound) (calm : b.Undisturbed a) (begins : b.BeginsRound a) :
    b.Stride a (b.step a) := by
  obtain ⟨rfl, stage, busy⟩ := begins
  obtain ⟨r, rest, head⟩ := List.exists_cons_of_ne_nil busy
  have turns : b.step (.turn .loop) = b.resumeLoop :=
    step_loop (loopReady_of_waiting stage busy)
  rcases round_resumeLoop hs stage head with ⟨i, rest', left, retires⟩ |
    ⟨before, after, left, clears⟩ | ⟨h, share, x, rfl, evaluates, serves⟩
  · obtain ⟨before, after, split, rfl, -⟩ := firstClose?_eq_some retires.first
    have left' : (b.step (.turn .loop)).waiting = before ++ after := by
      rw [turns, ← view_waiting, retires.view, View.waiting_retire]
      exact waiting_take _ b.view
    refine .overtakes (r := .close i) (by simp [split]) rfl ?_ ?_
    · rw [left', split]
      exact List.Sublist.append_left (List.sublist_cons_self _ _) before
    · simp [left', split]
  · obtain ⟨split, mem, -⟩ := lastCloseAll?_eq_some clears.last
    have left' : (b.step (.turn .loop)).waiting = after := by rw [turns, clears.waiting]
    refine .overtakes (r := .closeAll) (split ▸ List.mem_append_left _ mem) rfl ?_ ?_
    · rw [left', split]
      exact List.sublist_append_right before after
    · have some := List.length_pos_of_mem mem
      rw [left', split, List.length_append]
      omega
  · exact stride_of_serves hs calm evaluates head turns (turns ▸ serves)

/-- In the other turns the loop waits on, or the opener's call goes on. -/
theorem stride_of_rule (hs : b.view.Sound) (calm : b.Undisturbed a) (turn : a = .turn .loop)
    (quiet : ¬b.BeginsRound a) (rule : Rule b (b.step a) (b.step a).view) : b.Stride a (b.step a) := by
  have busy : b.loop.stage = .reading → b.waiting = [] := by
    intro stage
    by_contra some
    exact quiet ⟨turn, stage, some⟩
  have rests : (b.step a).view.waiting = b.waiting →
      (b.step a).view.loop.stage.opens? = b.loop.stage.opens? →
      (b.step a).view.loop.active = b.loop.active → b.view.Awaits (b.step a).view →
      (b.step a).view.faces = b.view.faces → b.Stride a (b.step a) := by
    intro same calls active awaits faces
    exact .keeps same (.rests quiet calls active awaits
      (calm.eases active fun i _ => View.cameraOf_of_faces faces i))
  generalize view : (b.step a).view = w at rule rests
  cases rule with
  | idle => exact rests rfl rfl rfl (fun i => .inl) rfl
  | start stage =>
    have calls : b.loop.stage.opens? = none := congrArg LoopStage.opens? stage
    have left : b.view.loop.stage.left = [] := congrArg LoopStage.left stage
    refine rests rfl calls.symm rfl (fun i hi => ?_) rfl
    rw [left] at hi
    cases hi
  | finish stage done noClient leaves =>
    refine .empties ?_
    have none : ((b.view.setActive []).startCloses b.loop.active).waiting = [] := done
    rw [← view_waiting, view, View.retire, View.waiting_await fun _ => none, none]
  | close stage first leaves =>
    rw [busy stage] at first
    cases first
  | closeAll stage noClose last resolved leaves =>
    rw [busy stage] at last
    cases last
  | serve stage head camera serves =>
    cases (busy stage).symm.trans head
  | opener stage camera opens => exact stride_of_opens hs calm stage camera (view ▸ opens)
  | @await sessions left left' after stage sub down =>
    have calls : b.loop.stage.opens? = none := congrArg LoopStage.opens? stage
    have here : b.view.loop.stage.left = left := congrArg LoopStage.left stage
    have next : (b.view.await sessions left' after).loop.stage =
        .afterWait sessions left' after := rfl
    refine rests (View.waiting_await fun stop => ?_) ?_ rfl (fun i hi => ?_) rfl
    · subst stop
      exact (hs.ending (congrArg LoopStage.isEnding stage)).2.1
    · rw [next, LoopStage.opens?_afterWait, calls]
    · rw [here] at hi
      rw [next, LoopStage.left_afterWait]
      by_cases waits : i ∈ left'
      · exact .inl waits
      · exact .inr (down i hi (hs.left sessions left after stage hi) waits)

theorem Reachable.stride (hr : Reachable b) (calm : b.Undisturbed a) : b.Stride a (b.step a) := by
  by_cases begins : b.BeginsRound a
  · exact stride_of_begins hr.sound calm begins
  · have beside : b.Beside (b.step a) → b.Stride a (b.step a) := fun beside =>
      .keeps (waiting_of_beside beside calm.accepted) (pace_of_beside calm begins beside)
    by_cases turn : a = .turn .loop
    · subst turn
      rcases loop_turn hr.sound with stays | ⟨turns, turn⟩
      · exact beside (stays.symm ▸ .refl b)
      · exact stride_of_rule hr.sound calm rfl begins (turns ▸ turn.rule)
    · exact beside (beside_step hr.sound.devicesFit turn)

theorem Evaluates.mem (evaluates : b.Evaluates h share x) : .open h share ∈ b.waiting := by
  obtain ⟨rest, head⟩ := evaluates.head
  exact head ▸ List.mem_cons_self

theorem Evaluates.wanted (evaluates : b.Evaluates h share x) :
    b.view.wanted[h]? = some x.camera := by
  simp [view, evaluates.handle]

/-- A round takes up the oldest request. -/
theorem Evaluates.eq_of_head {g : HandleId} {share' : Bool} (evaluates : b.Evaluates g share' x)
    (head : b.waiting = .open h share :: rest) : h = g ∧ share = share' := by
  obtain ⟨more, same⟩ := evaluates.head
  cases head.symm.trans same
  exact ⟨rfl, rfl⟩

/-- A round takes up one open. -/
theorem Evaluates.unique (evaluates : b.Evaluates h share x) {g : HandleId} {share' : Bool}
    {y : Handle} (evaluates' : b.Evaluates g share' y) : h = g ∧ share = share' ∧ x = y := by
  obtain ⟨rest, head⟩ := evaluates.head
  obtain ⟨rfl, rfl⟩ := evaluates'.eq_of_head head
  exact ⟨rfl, rfl, Option.some.inj (evaluates.handle.symm.trans evaluates'.handle)⟩

/-- An exclusive open with other cameras in its way makes room. -/
theorem Pace.others_of_crowded (pace : b.Pace a b') (begins : b.BeginsRound a)
    (evaluates : b.Evaluates h false x) (crowded : b.view.others x.camera ≠ []) :
    b'.view.others x.camera = [] := by
  cases pace with
  | rests quiet => exact absurd begins quiet
  | makesRoom evaluates' waits crowded' idle out others rounds =>
    obtain ⟨-, -, rfl⟩ := evaluates.unique evaluates'
    exact others
  | replaces evaluates' waits alone =>
    obtain ⟨-, rfl, rfl⟩ := evaluates.unique evaluates'
    exact absurd (alone rfl) crowded
  | asks evaluates' waits none calls active alone eases =>
    obtain ⟨-, rfl, rfl⟩ := evaluates.unique evaluates'
    exact absurd (alone rfl) crowded
  | joins calls =>
    rw [begins.stage] at calls
    cases calls

/-- An open with nothing in its way but a dead session of its camera replaces it. -/
theorem Pace.rounds_of_dead (pace : b.Pace a b') (begins : b.BeginsRound a)
    (evaluates : b.Evaluates h share x) (alone : share = false → b.view.others x.camera = [])
    (session : b.view.sessionFor? x.camera = some i) :
    b'.view.roundsFor x.camera = 2 := by
  cases pace with
  | rests quiet => exact absurd begins quiet
  | makesRoom evaluates' waits crowded idle out others rounds =>
    obtain ⟨-, rfl, rfl⟩ := evaluates.unique evaluates'
    exact absurd (alone rfl) crowded
  | replaces evaluates' waits alone' session' dead idle out others rounds =>
    obtain ⟨-, -, rfl⟩ := evaluates.unique evaluates'
    exact rounds
  | asks evaluates' waits none =>
    obtain ⟨-, -, rfl⟩ := evaluates.unique evaluates'
    cases session.symm.trans none
  | joins calls =>
    rw [begins.stage] at calls
    cases calls

/-- An open with nothing in its way whose camera has no session asks for a device. -/
theorem Pace.calls_of_missing (pace : b.Pace a b') (begins : b.BeginsRound a)
    (evaluates : b.Evaluates h share x) (alone : share = false → b.view.others x.camera = [])
    (none : b.view.sessionFor? x.camera = none) : b'.loop.stage.opens? = some h := by
  cases pace with
  | rests quiet => exact absurd begins quiet
  | makesRoom evaluates' waits crowded =>
    obtain ⟨-, rfl, rfl⟩ := evaluates.unique evaluates'
    exact absurd (alone rfl) crowded
  | replaces evaluates' waits alone' session =>
    obtain ⟨-, -, rfl⟩ := evaluates.unique evaluates'
    cases none.symm.trans session
  | asks evaluates' waits none' calls =>
    obtain ⟨rfl, -, -⟩ := evaluates.unique evaluates'
    exact calls
  | joins calls =>
    rw [begins.stage] at calls
    cases calls

/-- What was done for the oldest open is not taken back. -/
theorem Pace.eases (pace : b.Pace a b') (head : b.waiting = .open h share :: rest)
    (camera : b.view.wanted[h]? = some c) : b.view.Eases c b'.view := by
  have taken : ∀ {g : HandleId} {s : Bool} {y : Handle}, b.Evaluates g s y → c = y.camera := by
    intro g s y evaluates
    obtain ⟨rfl, rfl⟩ := evaluates.eq_of_head head
    exact Option.some.inj (camera.symm.trans evaluates.wanted)
  cases pace with
  | rests quiet calls active awaits eases => exact eases c
  | makesRoom evaluates waits crowded idle out others rounds =>
    obtain rfl := taken evaluates
    exact ⟨Nat.le_of_eq rounds, fun _ => others⟩
  | replaces evaluates waits alone session dead idle out others rounds =>
    obtain rfl := taken evaluates
    have three := View.roundsFor_of_closing session dead
    exact ⟨by omega, others⟩
  | asks evaluates waits none called active alone eases =>
    obtain rfl := taken evaluates
    exact eases
  | @joins g c' calls asked stage i session rounds others =>
    obtain ⟨share', more, same, -⟩ := asked.head
    cases head.symm.trans same
    obtain rfl : c = c' := Option.some.inj (camera.symm.trans asked.camera)
    have some := (b.view.roundsFor_bounds c).1
    exact ⟨by omega, others⟩

end Broker

end CameraBroker
