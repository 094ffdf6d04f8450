import CameraBroker.Proofs.Evaluation
import Mathlib.Data.List.Nodup

/-! What holds whenever a handle becomes connected. The loop looks at the oldest open anew in each
turn, so whatever happened while it waited, it attaches a handle only under the conditions that
hold just then. -/
namespace CameraBroker.Broker
variable {b b' : Broker} {h : HandleId} {i : SessionId} {share : Bool} {x : Handle} {s : Session}

/-- A turn of the loop attaches a handle that waits to the active session of its camera. -/
structure Joins (b b' : Broker) (h : HandleId) (share : Bool) (x : Handle) (i : SessionId)
    (s : Session) : Prop where
  evaluates : b.Evaluates h share x
  waits : x.state = .unopened
  session : b.sessions[i]? = some s
  camera : s.camera = x.camera
  active : i ∈ b.loop.active
  stays : b'.loop.active = b.loop.active
  works : ∃ d, b.hw.devices[s.device]? = some d ∧ d.stream.state.isTearingDown = false
  alone : share = false → b.loop.active = [i]
  bound : ∃ s', b'.sessions[i]? = some s' ∧ s'.current = some h
  told : b'.hw.milestones =
    .serviced (.open h share) :: .attached h x.camera i :: b.hw.milestones
  replaced : ∀ g, s.current = some g →
    ∃ y, b'.handles[g]? = some y ∧ (y.state = .disconnected ∨ y.state = .closed)
  others : ∀ g : HandleId, g ≠ h → s.current ≠ some g → b'.handles[g]? = b.handles[g]?

theorem Fades.connected (fades : b.Fades b') {g : HandleId} (connected : b'.Connected g) :
    b.Connected g := by
  obtain ⟨y, hy, state⟩ := connected
  obtain ⟨x, hx, xy⟩ := fades.before hy
  exact ⟨x, hx, xy.connected state⟩

theorem fades_giveUpOpen (h : HandleId) (reason : OpenFailure) (b : Broker) :
    b.Fades (b.giveUpOpen h reason) :=
  (b.fades_failHandle h reason).trans (.of_eq (handles_popHead _))

theorem Replies.fades {c : CameraId} (replies : b.Replies h c b') : b.Fades b' := by
  cases replies with
  | @refuses o same view gaveUp =>
    have handles : o.handles = b.handles := congrArg Prod.fst same
    have given := fades_giveUpOpen h .openFailed (o.emit (.openGivenUp c))
    exact gaveUp ▸ (Fades.of_eq handles).trans given
  | goesOn call more same view => exact .of_eq (congrArg Prod.fst same)
  | ends new handles told lines stage => exact .of_eq handles

theorem fades_of_superseded {before : List Request}
    (handles : ∀ h : HandleId, b'.handles[h]? = (b.handles[h]?).map fun x =>
      if h ∈ before.filterMap Request.handle? then x.failed .superseded else x) : b.Fades b' := by
  have mapped : b'.handles = b.handles.mapIdx fun h x =>
      if h ∈ before.filterMap Request.handle? then x.failed .superseded else x :=
    List.ext_getElem? fun h => by rw [handles, List.getElem?_mapIdx]
  refine ⟨by rw [mapped, List.length_mapIdx], fun g x hx => ⟨_, by rw [handles, hx]; rfl, ?_⟩⟩
  split
  · exact .failed x _
  · exact .refl x

/-- All active sessions are for one camera, so there is just one. -/
theorem active_eq_singleton (hs : b.view.Sound) {c : CameraId}
    (alone : (b.conflicting c).1 = []) (active : b.activeFor? c = some i) :
    b.loop.active = [i] := by
  obtain ⟨mem, s, hi, camera⟩ := session_of_activeFor? active
  have own : ∀ j ∈ b.loop.active, b.view.cameraOf j = some c := by
    intro j hj
    rw [conflicting_eq] at alone
    have other := List.filter_eq_nil_iff.1 alone j hj
    have there : j < b.sessions.length := by simpa [view] using hs.active j hj
    simpa [there, View.cameraOf, view, Session.face] using other
  have one : ∀ j ∈ b.loop.active, j = i := fun j hj =>
    hs.eq_of_cameraOf hj mem ((own j hj).trans (own i mem).symm)
  have once : b.loop.active.Nodup := hs.distinct.imp fun apart same => apart (congrArg _ same)
  by_contra other
  rcases (once.ne_singleton_iff i).1 other with none | ⟨j, hj, apart⟩
  · exact absurd mem (none ▸ List.not_mem_nil)
  · exact apart (one j hj)

/-- The device of an active session says of itself what its stream says. -/
theorem works_of_stream (hs : b.view.Sound) (session : b.sessions[i]? = some s)
    (up : ((b.takeIn.sessionStream? i).any fun s => s.state.isTearingDown) = false) :
    ∃ d, b.hw.devices[s.device]? = some d ∧ d.stream.state.isTearingDown = false := by
  obtain ⟨d, hd, -⟩ := hs.faces s.face (List.mem_map_of_mem (List.mem_of_getElem? session))
  have hd : b.hw.devices[s.device]? = some d := hd
  refine ⟨d, hd, ?_⟩
  have there : b.takeIn.sessions[i]? = some s := session
  have device : b.takeIn.hw.devices[s.device]? = some d := hd
  cases make : d.make <;> simpa [sessionStream?, there, stream?, device, make] using up

/-- An open that is attached joins the session under the conditions of the rules. -/
theorem joins_of_attach (hr : Reachable b) (evaluates : b.Evaluates h share x)
    (waits : x.state = .unopened) (alone : share = false → (b.conflicting x.camera).1 = [])
    (active : b.activeFor? x.camera = some i)
    (up : ((b.takeIn.sessionStream? i).any fun s => s.state.isTearingDown) = false) :
    ∃ s, b.Joins (((b.takeIn.connectTo i h).popHead).setStage .reading) h share x i s := by
  obtain ⟨mem, s, session, camera⟩ := session_of_activeFor? active
  obtain ⟨rest, head⟩ := evaluates.head
  let attached := ((b.takeIn.connectTo i h).popHead).setStage .reading
  obtain ⟨token, bound, takes, kept⟩ :=
    connectTo_bonds (b := b.takeIn) session evaluates.handle waits
  have attaches := attaches_connectTo (b := b.takeIn) session evaluates.handle waits
  have same : attached.bonds = (bound.letGo s.current).bonds := (bonds_popHead _).trans kept
  have handles : ∀ g : HandleId, attached.handles[g]? = (bound.handles[g]?).map fun y =>
      if s.current = some g then y.disconnect else y := by
    intro g
    have left : attached.handles = (bound.letGo s.current).handles := congrArg Prod.fst same
    rw [left, getElem?_handles_letGo]
  have others : ∀ g : HandleId, g ≠ h → bound.handles[g]? = b.handles[g]? := by
    intro g hg
    rw [takes.handles, List.getElem?_set_ne hg.symm]
    rfl
  have view : attached.view = (((((b.view.take rest).note (.attached h x.camera i)).bind
      i h).note (.serviced (.open h share))).setStage .reading) := by
    unfold attached
    rw [view_setStage, view_popHead, attaches.view, view_takeIn, head, camera]
    rfl
  refine ⟨s, evaluates, waits, session, camera, mem, congrArg (·.loop.active) view,
    works_of_stream hr.sound session up, fun exclusive => ?_, ?_, congrArg (·.milestones) view,
    fun g current => ?_, fun g other free => ?_⟩
  · exact active_eq_singleton hr.sound (alone exclusive) active
  · have before : b.view.ties[i]? = some s.tie := by simp [Broker.view, session]
    have tie : attached.view.ties[i]? = some { s.tie with current := some h } := by
      rw [view]
      simp [View.setStage, View.setLoop, View.note, View.bind, View.take, View.setPending, before]
    obtain ⟨s', session', same⟩ : ∃ s', attached.sessions[i]? = some s' ∧
        s'.tie = { s.tie with current := some h } := by simpa [Broker.view] using tie
    exact ⟨s', session', congrArg Tie.current same⟩
  · -- The handle that the session had is another one: it was attached before.
    obtain ⟨c, told⟩ := hr.bindings.told i g ((current_of_session session).2 current)
    obtain ⟨y, hy, answered⟩ := (hr.bindings.attached g c i told).resolved
    have other : g ≠ h := by
      rintro rfl
      exact answered (Option.some.inj (hy.symm.trans evaluates.handle) ▸ waits)
    refine ⟨y.disconnect, ?_, y.state_disconnect⟩
    rw [handles, others g other, hy]
    simp [current]
  · rw [handles, others g other]
    simp [free]

theorem Beside.connected (beside : b.Beside b') (connected : b'.Connected h) : b.Connected h := by
  obtain ⟨y, hy, state⟩ := connected
  rcases beside.before hy with new | ⟨x, hx, xy⟩
  · exact absurd state (beside.created h y hy new).1
  · exact ⟨x, hx, xy.connected state⟩

/-- An evaluation connects no handle but the one whose open is evaluated, and joins it to a
session. -/
theorem Evaluation.joins {g : HandleId} (hr : Reachable b) (evaluates : b.Evaluates g share x)
    (evaluation : b.Evaluation g share x b') (before : ¬b.Connected h) (after : b'.Connected h) :
    g = h ∧ ∃ i s, b.Joins b' g share x i s := by
  have same : b.takeIn.Fades b' → False := fun fades => before (fades.connected after)
  cases evaluation with
  | stale answered => exact (same (.of_eq (handles_popHead _))).elim
  | makeRoom waits exclusive conflict some =>
    exact (same (.of_eq (handles_closeSessions _ _ _))).elim
  | replace waits active => exact (same (.of_eq (handles_closeSessions _ _ _))).elim
  | deny waits alone none refused => exact (same (fades_giveUpOpen g _ _)).elim
  | ask waits alone none granted replies => exact (same replies.fades).elim
  | @attach waits alone i active up =>
    obtain ⟨-, s, session, -⟩ := session_of_activeFor? active
    have attaches := attaches_connectTo (b := b.takeIn) session evaluates.handle waits
    have popped : (b.takeIn.connectTo i g).Fades
        (((b.takeIn.connectTo i g).popHead).setStage .reading) := .of_eq (handles_popHead _)
    have new : h = g := (attaches.connected h (popped.connected after)).resolve_right before
    exact ⟨new.symm, i, joins_of_attach hr evaluates waits alone active up⟩

/-- In every run a handle becomes connected only in a turn of the loop that evaluates its open,
while no close and no close-all waits that was taken in before. The handle was unopened until then.
The session that it joins is active, of the handle's camera, and its device has reported no end; it
is the only active session if the open is exclusive. The handle that the session had before is
disconnected or closed by that turn, and every other handle stays as it is. -/
theorem attach_conditions (hr : Reachable b) {a : Action} (before : ¬b.Connected h)
    (after : (b.step a).Connected h) :
    a = .turn .loop ∧ ∃ share x i s, b.Joins (b.step a) h share x i s := by
  by_cases turn : a = .turn .loop
  · refine ⟨turn, ?_⟩
    subst turn
    rcases loop_turn hr.sound with stays | ⟨turns, -⟩
    · exact absurd (stays ▸ after) before
    · rw [turns] at after ⊢
      cases course_resumeLoop hr.sound with
      | rests new handles told closes opens =>
        exact absurd ((Fades.of_eq handles).connected after) before
      | clears last handles told opens =>
        exact absurd ((fades_of_superseded handles).connected after) before
      | replies stage hx replies => exact absurd (replies.fades.connected after) before
      | @evaluates g share x evaluates evaluation =>
        obtain ⟨rfl, i, s, joins⟩ := evaluation.joins hr evaluates before after
        exact ⟨share, x, i, s, joins⟩
  · exact absurd ((beside_step hr.sound.devicesFit turn).connected after) before

/-- Two clients ask for one camera, the second one for itself alone. -/
def askedAlone : Broker :=
  byHand [.turn .loop, .open front true, .turn .loop, .turn .loop, .turn .loop, .open front false]

theorem attach_conditions_askedAlone : askedAlone.loop.active = [0] ∧
    ∃ y, (askedAlone.step (.turn .loop)).handles[0]? = some y ∧
      (y.state = .disconnected ∨ y.state = .closed) := by
  have before : ¬askedAlone.Connected 1 := by
    rintro ⟨y, hy, state⟩
    have waits : (askedAlone.handles[1]?).map (·.state) = some .unopened := by decide
    simp [hy, state] at waits
  have after : (askedAlone.step (.turn .loop)).Connected 1 := ⟨_, rfl, by decide⟩
  obtain ⟨-, share, x, i, s, joins⟩ := attach_conditions (.byHand _) before after
  have asked : askedAlone.waiting = [.open 1 false] := by decide
  obtain ⟨rest, head⟩ := joins.evaluates.head
  cases asked.symm.trans head
  have alone : askedAlone.loop.active = [0] := by decide
  cases alone.symm.trans (joins.alone rfl)
  have bound : (askedAlone.sessions[0]?).map (·.current) = some (some 0) := by decide
  have session : askedAlone.sessions[0]? = some s := joins.session
  rw [session] at bound
  exact ⟨alone, joins.replaced 0 (Option.some.inj bound)⟩

end CameraBroker.Broker
