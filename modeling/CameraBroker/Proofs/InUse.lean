import CameraBroker.Proofs.AsksOnce
import CameraBroker.Proofs.Attaching
import CameraBroker.Proofs.NoStranded
import CameraBroker.Proofs.Overflow
import CameraBroker.Proofs.SimulatedRuns

/-! Sessions in use. As long as clients only ask for simulated cameras, every session that is live is
used by a connected handle, or awaits the oldest open, for which it was opened. So a session asks for
its close only before that open is done with, and its request takes no place in the inbox that a
client would miss. -/
namespace CameraBroker

structure Handle.Uses (x : Handle) (i : SessionId) : Prop where
  connected : x.state = .connected
  token : x.token? = some i

/-- A handle that follows a device that works goes on as it was. -/
theorem Handle.Uses.observe {x : Handle} {i : SessionId} (uses : x.Uses i) {st : Stream}
    (works : st.isLost = false) : (x.observe st).Uses i := by
  obtain ⟨up, live⟩ : st.state.isTearingDown = false ∧ st.live = true := by
    simpa [Stream.isLost] using works
  obtain ⟨k, hk, own⟩ := Option.bind_eq_some_iff.1 uses.token
  rcases Handle.observe_cases hk st with ⟨gone, -⟩ | ⟨-, bound, same | ⟨closing, -⟩⟩
  · have closed : st.state = .closed := by simpa [Stream.isGone, live] using gone
    rw [closed] at up
    cases up
  · exact ⟨same.trans uses.connected, by simp [Handle.token?, bound, own]⟩
  · rw [closing] at up
    cases up

namespace View

/-- The session is active, and the loop is about to give it the handle of the oldest open. -/
structure Awaited (v : View) (i : SessionId) : Prop where
  reading : v.loop.stage = .reading
  active : i ∈ v.loop.active
  head : ∃ h share rest c, v.loop.pending = .open h share :: rest ∧ v.wanted[h]? = some c ∧
    v.cameraOf i = some c ∧ (share = false → v.loop.active = [i])

section
variable {v w : View} {i j : SessionId}

theorem Awaited.eq (hv : v.Sound) (hi : v.Awaited i) (hj : v.Awaited j) : i = j := by
  obtain ⟨h, share, rest, c, head, wanted, camera, -⟩ := hi.head
  obtain ⟨h', share', rest', c', head', wanted', camera', -⟩ := hj.head
  obtain ⟨same, -⟩ := List.cons.inj (head.symm.trans head')
  obtain ⟨rfl, rfl⟩ := Request.open.inj same
  obtain rfl : c = c' := Option.some.inj (wanted.symm.trans wanted')
  exact hv.eq_of_cameraOf hi.active hj.active (camera.trans camera'.symm)

theorem Awaited.of_loop (h : v.Awaited i) (loop : w.loop = v.loop) (faces : w.faces = v.faces)
    (wanted : ∀ (h : HandleId) (c : CameraId), v.wanted[h]? = some c → w.wanted[h]? = some c) :
    w.Awaited i := by
  obtain ⟨h', share, rest, c, head, asked, camera, alone⟩ := h.head
  refine ⟨loop ▸ h.reading, loop ▸ h.active, h', share, rest, c, loop ▸ head, wanted h' c asked, ?_,
    loop ▸ alone⟩
  exact (cameraOf_of_faces faces i).trans camera

/-- A session that joins is the one that the oldest open awaits. -/
theorem Opening.join {h : HandleId} {c camera : CameraId} (ho : v.Opening h c)
    (own : camera = c) (asked : CameraId) (d : DeviceId) :
    (v.join asked camera d).Awaited v.faces.length := by
  obtain ⟨share, rest, head, alone⟩ := ho.head
  refine ⟨rfl, List.mem_append_right _ List.mem_cons_self, h, share, rest, c, head, ho.camera, ?_,
    fun exclusive => ?_⟩
  · simp [cameraOf, View.join, own]
  · have none : v.loop.active = [] := alone exclusive
    simp [View.join, none]

end

end View

namespace Broker
variable {b b' : Broker} {w : View} {h : HandleId} {i j : SessionId} {s : Session} {x : Handle}

/-! Sessions that begin. -/

theorem Opens.awaited {c : CameraId} {v : View} {f : Face} (hv : v.Sound) (ho : v.Opening h c)
    (opens : Opens b' h c v w) (new : v.faces[i]? = none) (hf : w.faces[i]? = some f) :
    w.Awaited i := by
  have old : w.faces = v.faces → w.Awaited i := fun same => by
    cases new.symm.trans (same ▸ hf)
  have joined : ∀ {g : Face}, w.faces = v.faces ++ [g] → i = v.faces.length := by
    intro g faces
    rw [faces] at hf
    rcases View.of_getElem?_concat hf with there | ⟨last, -⟩
    · cases new.symm.trans there
    · exact last
  cases opens with
  | giveUp lost resolved =>
    refine old ?_
    unfold View.popHead
    split <;> rfl
  | pause lost attempt due => exact old rfl
  | «begin» lost camera simulated state release attempt due => exact old rfl
  | call lost due => exact old rfl
  | crash stage => exact old rfl
  | @simulated attempt due d x stage hx up =>
    obtain rfl := joined rfl
    obtain ⟨y, acquires⟩ := hv.acquired d h c (congrArg LoopStage.acquired? stage)
      (congrArg LoopStage.opens? stage) ho.camera
    obtain rfl : x = y := Option.some.inj (hx.symm.trans acquires.there)
    have opened : ((v.setDevices (v.devices.set d x.opened)).note (.logOpened c)).Opening h c :=
      ⟨ho.camera, ho.head, ho.free⟩
    exact opened.join acquires.camera c d
  | manual stage camera manual release =>
    obtain rfl := joined rfl
    exact (ho.setDevices _).join rfl c _

/-- A session that begins awaits the oldest open. -/
theorem Rule.awaited {f : Face} (hs : b.view.Sound) (rule : Rule b b' w)
    (new : b.view.faces[i]? = none) (hf : w.faces[i]? = some f) : w.Awaited i := by
  have old : w.faces = b.view.faces → w.Awaited i := fun same => by
    cases new.symm.trans (same ▸ hf)
  cases rule with
  | idle => exact old rfl
  | start stage => exact old rfl
  | finish stage done noClient leaves => exact old rfl
  | close stage first leaves => exact old rfl
  | closeAll stage noClose last resolved leaves => exact old rfl
  | await stage sub down => exact old rfl
  | opener stage camera opens => exact opens.awaited hs (opening_of_stage hs stage camera) new hf
  | serve stage head camera serves =>
    cases serves with
    | stale answered => exact old rfl
    | makeRoom waits exclusive conflict some leaves => exact old rfl
    | replace waits active leaves => exact old rfl
    | attach waits active ht resolved kept => exact old rfl
    | deny waits resolved => exact old rfl
    | ask waits alone none opens =>
      obtain ⟨asked, opening⟩ := opening_ask hs stage head camera alone none
      exact opens.awaited asked opening new hf

theorem Reachable.awaited_of_new (hr : Reachable b) {a : Action} (new : b.sessions[i]? = none)
    (hs : (b.step a).sessions[i]? = some s) : (b.step a).view.Awaited i := by
  have none : b.view.faces[i]? = none := by simpa [view] using new
  have face : (b.step a).view.faces[i]? = some s.face := by simp [view, hs]
  rcases hr.step_cases a with beside | turn
  · have faces := (View.Aside.of_meanwhile beside.view).faces
    rw [faces, none] at face
    cases face
  · exact turn.rule.awaited hr.sound none face

/-! Handles that keep a session in use. -/

def Uses (b : Broker) (i : SessionId) : Prop :=
  ∃ (h : HandleId) (x : Handle), b.handles[h]? = some x ∧ x.Uses i

theorem Uses.of_handles (same : b'.handles = b.handles) (uses : b.Uses i) : b'.Uses i := by
  obtain ⟨h, x, hx, uses⟩ := uses
  exact ⟨h, x, same ▸ hx, uses⟩

/-- A session that is used keeps count of the token. -/
theorem Reachable.tokens_of_uses (hr : Reachable b) (uses : b.Uses i)
    (hs : b.sessions[i]? = some s) : 0 < s.timer.tokens := by
  obtain ⟨h, x, hx, uses⟩ := uses
  rw [hr.tokens hs]
  exact List.countP_pos_iff.2 ⟨x, List.mem_of_getElem? hx, by simp [uses.token]⟩

/-- A handle that keeps a token of the session is bound by it. -/
theorem Reachable.session_of_uses (hr : Reachable b) (hx : b.handles[h]? = some x)
    (uses : x.Uses i) : ∃ s k, b.sessions[i]? = some s ∧ s.current = some h ∧
      x.binding = some k ∧ k.device = s.device := by
  obtain ⟨k, hk, own⟩ := Option.bind_eq_some_iff.1 uses.token
  obtain ⟨j, s, hs, current, device, token⟩ := hr.held hx hk
  obtain rfl : i = j := by
    rcases token with none | same
    · cases own.symm.trans none
    · exact Option.some.inj (own.symm.trans same)
  exact ⟨s, k, hs, current, hk, device⟩

theorem Simulated.holdsSession_of_uses (sim : b.Simulated) (hx : b.handles[h]? = some x)
    (uses : x.Uses i) : b.holdsSession i = true := by
  have hr := sim.reachable
  obtain ⟨s, -, hs, current, -⟩ := hr.session_of_uses hx uses
  obtain ⟨j, t, ht, bound, held⟩ :=
    (hr.binds_of_connected h ⟨x, hx, uses.connected⟩).resolve_left sim.alive
  obtain rfl : i = j := hr.bindings.once ((current_of_session hs).2 current) ⟨t, ht, bound⟩
  rcases held with active | fresh
  · have active : i ∈ b.loop.active := active
    simp [holdsSession, active]
  · exact holdsSession_of_mem_closes fresh

/-- The stream of a session that somebody holds and nobody closes goes on. -/
theorem Simulated.stream_of_held (sim : b.Simulated) (upheld : b.Upheld)
    (hs : b.sessions[i]? = some s) (unclosed : s.closing = false) (held : b.holdsSession i = true)
    {st : Stream} (stream : b.stream? s.device = some st) : st.isLost = false := by
  obtain ⟨y, hy, state, -⟩ := device_of_stream? stream
  have simulated := sim.devices y (List.mem_of_getElem? hy)
  have up : y.stream.state.isTearingDown = false := by
    by_contra down
    have closing := upheld i s hs ⟨y, hy, simulated, by simpa using down⟩
    cases unclosed.symm.trans closing
  have live : st.isGone = false := by
    by_contra gone
    have gone : b.isSessionGone i = true := by
      simpa [isSessionGone, sessionStream?, hs, stream] using gone
    have face : b.view.faces[i]? = some s.face := by simp [view, hs]
    rcases isDown_of_isSessionGone held gone s.face y face hy with closed | ⟨manual, -⟩
    · rw [closed] at up
      cases up
    · cases simulated.symm.trans manual
  have lives : st.live = true := by
    by_contra dead
    simp [Stream.isGone, dead] at live
  rw [Stream.isLost, state, up, lives]
  rfl

/-- A session that takes a handle while its timer is live is used by it. -/
theorem Takes.uses {token : Option TimerId} {bound : Broker} (takes : b.Takes i h s x token bound)
    (live : s.timer.released = false) (apart : s.current ≠ some h) :
    (bound.letGo s.current).Uses i := by
  obtain ⟨there, -⟩ := List.getElem?_eq_some_iff.1 takes.handle
  have own : token = some i := by
    rcases takes.timer with ⟨t, -, given, -⟩ | ⟨released, -⟩
    · exact given
    · cases live.symm.trans (IdleTimer.acquire?_eq_none.1 released)
  refine ⟨h, x.taken s.device token, ?_, rfl, own⟩
  rw [getElem?_handles_letGo, takes.handles, List.getElem?_set_self there, Option.map_some,
    if_neg apart]
  rfl

/-- An observer takes no handle away from a session that nobody closes. -/
theorem Simulated.uses_observe (sim : b.Simulated) (upheld : b.Upheld) (uses : b.Uses i)
    (hs : b.sessions[i]? = some s) (unclosed : s.closing = false) (g : HandleId) :
    (b.observe g).Uses i := by
  rcases b.handles_observe g with same | ⟨y, l, st, hy, hl, stream, handles⟩
  · exact uses.of_handles same
  obtain ⟨h, x, hx, uses⟩ := uses
  by_cases hgh : g = h
  · subst hgh
    obtain rfl : x = y := Option.some.inj (hx.symm.trans hy)
    obtain ⟨t, k, ht, -, hk, device⟩ := sim.reachable.session_of_uses hx uses
    obtain rfl : s = t := Option.some.inj (hs.symm.trans ht)
    obtain rfl : k = l := Option.some.inj (hk.symm.trans hl)
    have held := sim.holdsSession_of_uses hx uses
    have works := sim.stream_of_held upheld hs unclosed held (device ▸ stream)
    exact ⟨g, _, by rw [handles, List.getElem?_set_self (List.getElem?_eq_some_iff.1 hx).1],
      uses.observe works⟩
  · exact ⟨h, x, by rw [handles, List.getElem?_set_ne hgh, hx], uses⟩

theorem released_of_shut {shutting : Broker} {current : Option HandleId} {s' : Session}
    (hs : b.sessions[i]? = some s) (sessions : shutting.sessions = b.sessions.set i s.shut)
    (hs' : (shutting.letGo current).sessions[i]? = some s') : s'.timer.released = true := by
  have released : s.shut.timer.released = true := IdleTimer.released_release
  obtain ⟨refunded, refunds⟩ := shutting.refunds_letGo current
  rw [refunds, sessions, List.getElem?_set_self (List.getElem?_eq_some_iff.1 hs).1,
    Option.map_some] at hs'
  obtain rfl := Option.some.inj hs'
  split
  · exact (IdleTimer.released_giveBack _).trans released
  · exact released

/-- As long as clients only ask for cameras, a session that is used stays so until it is closed. -/
theorem Simulated.uses_step (sim : b.Simulated) (upheld : b.Upheld) {a : Action}
    (asks : a.onlyAsks = true) (uses : b.Uses i) (hs : b.sessions[i]? = some s)
    (unclosed : s.closing = false) (live : s.timer.released = false) {s' : Session}
    (hs' : (b.step a).sessions[i]? = some s') (live' : s'.timer.released = false) :
    (b.step a).Uses i := by
  have hr := sim.reachable
  obtain ⟨h, x, hx, uses⟩ := uses
  obtain ⟨t, -, ht, current, -⟩ := hr.session_of_uses hx uses
  obtain rfl : s = t := Option.some.inj (hs.symm.trans ht)
  have answered : x.state ≠ .unopened := by
    rw [uses.connected]
    exact nofun
  have kept : (b.step a).handles[h]? = some x → (b.step a).Uses i := fun hy => ⟨h, x, hy, uses⟩
  have same : (b.step a).handles = b.handles → (b.step a).Uses i := fun same => kept (same ▸ hx)
  -- The handle is let go only by the session that binds it.
  have bound : ∀ {o : Broker} {j : SessionId} {t : Session}, b.sessions[j]? = some t →
      (b.step a).bonds = (o.letGo t.current).bonds → o.handles[h]? = some x → j ≠ i →
        (b.step a).Uses i := by
    intro o j t ht bonds hy other
    have apart : t.current ≠ some h := fun same => other <|
      hr.bindings.once ((current_of_session ht).2 same) ((current_of_session hs).2 current)
    have handles : (b.step a).handles = (o.letGo t.current).handles := congrArg Prod.fst bonds
    refine kept ?_
    rw [handles, getElem?_handles_letGo, hy, Option.map_some, if_neg apart]
  cases hr.deed a with
  | quiet bonds => exact same (congrArg Prod.fst bonds)
  | create unbound state handles sessions =>
    refine kept ?_
    rw [handles, List.getElem?_append_left (List.getElem?_eq_some_iff.1 hx).1, hx]
  | forget g bonds =>
    have handles : (b.step a).handles =
        b.handles.modify g fun x => { x with clients := x.clients - 1 } := congrArg Prod.fst bonds
    by_cases hgh : g = h
    · subst hgh
      exact ⟨g, { x with clients := x.clients - 1 }, by simp [handles, hx], uses.connected,
        uses.token⟩
    · exact kept (by simp [handles, hgh, hx])
  | disconnect g asked bonds =>
    rw [asked] at asks
    cases asks
  | observe g bonds =>
    exact (sim.uses_observe upheld ⟨h, x, hx, uses⟩ hs unclosed g).of_handles
      (congrArg Prod.fst bonds)
  | listen ready turns => exact same (by rw [turns, handles_listen])
  | wake j generation turns => exact same (by rw [turns, handles_wakeCountdown])
  | @shut j u shutting fresh hu handles sessions bonds =>
    refine bound hu bonds (handles ▸ hx) ?_
    rintro rfl
    have after : (b.step a).sessions = (shutting.letGo u.current).sessions :=
      congrArg Prod.snd bonds
    cases live'.symm.trans (released_of_shut hu sessions (after ▸ hs'))
  | @fail g share reason served handles sessions =>
    refine kept ?_
    rw [handles, List.getElem?_modify, hx]
    by_cases hgh : g = h <;> simp [hgh, Handle.failed_of_answered answered]
  | supersede served handles sessions =>
    refine kept ?_
    rw [handles, hx, Option.map_some, Handle.failed_of_answered answered, ite_self]
  | @attach g share j t y token o served noClose noCloseAll active takes bonds =>
    have other : g ≠ h := by
      rintro rfl
      obtain rfl : x = y := Option.some.inj (hx.symm.trans takes.handle)
      exact answered takes.waits
    by_cases hij : j = i
    · subst hij
      obtain rfl : s = t := Option.some.inj (hs.symm.trans takes.session)
      have apart : s.current ≠ some g := by
        rw [current]
        exact fun same => other (Option.some.inj same).symm
      exact (takes.uses live apart).of_handles (congrArg Prod.fst bonds)
    · exact bound takes.session bonds (by rw [takes.handles, List.getElem?_set_ne other, hx]) hij
  | join handles sessions => exact same handles

/-! The invariant. -/

/-- What holds as long as clients only ask for simulated cameras. -/
structure Attended (b : Broker) : Prop where
  simulated : b.Simulated
  once : b.AtMostOnce
  upheld : b.Upheld
  opens : ∀ h share, .open h share ∈ b.waiting → b.Waits h
  noCloseAll : .closeAll ∉ b.waiting
  used : ∀ (i : SessionId) (s : Session), b.sessions[i]? = some s → s.timer.released = false →
    b.Uses i ∨ b.view.Awaited i
  asked : ∀ i, .close i ∈ b.waiting → b.view.Awaited i

theorem Attended.start {s : Setup} (retries : ∃ p, s.opener = .retrying p) :
    s.broker.Attended := by
  have none : s.broker.waiting = [] := congrArg View.waiting (view_start s)
  have absent : ∀ r, r ∉ s.broker.waiting := by
    rw [none]
    exact nofun
  exact ⟨.start retries, (begins_setup s).atMostOnce, nofun, fun h share mem => absurd mem (absent _),
    absent _, nofun, fun i mem => absurd mem (absent _)⟩

theorem Simulated.count_accepted (sim : b.Simulated) (r : Request) :
    b.acceptedRequests.count r = b.servicedRequests.count r + b.waiting.count r := by
  obtain ⟨⟨lost, alive, perm⟩, -⟩ := sim.reachable.perm_accepted
  rw [alive sim.alive, List.append_nil] at perm
  rw [← perm.count_eq, List.count_append]

/-- A request that a client makes is an open. -/
theorem Reachable.noCloseAll_step (hr : Reachable b) {a : Action} (asks : a.onlyAsks = true)
    (none : .closeAll ∉ b.waiting) : .closeAll ∉ (b.step a).waiting := by
  intro mem
  by_cases ha : a = .turn .loop
  · subst ha
    rcases loop_turn hr.sound with stays | ⟨turns, turn⟩
    · exact none (stays ▸ mem)
    · rw [turns] at mem
      exact none (turn.waits_before hr.sound mem)
  · cases a with
    | turn t =>
      simp only [Broker.step] at mem
      split at mem
      · cases t with
        | release d => exact none mem
        | observe h =>
          have same : (b.observe h).waiting = b.waiting :=
            congrArg View.waiting (b.view_observe h)
          exact none (same ▸ mem)
        | listen k =>
          rcases waits_of_listen mem with old | ⟨new, -⟩
          · exact none old
          · cases new
        | close k => exact none (b.waiting_resumeClose k ▸ mem)
        | countdown k generation =>
          rcases waits_of_wakeCountdown mem with old | ⟨new, -⟩
          · exact none old
          · cases new
        | loop => exact absurd rfl ha
      · exact none mem
    | «open» c share =>
      simp only [Broker.step] at mem
      split at mem
      · rcases waits_of_requestOpen mem with old | new
        · exact none old
        · cases new
      · exact none mem
    | forget h => exact none mem
    | elapse ms => exact none mem
    | _ => cases asks

/-- The handle of an open that waits waits itself, as long as nobody cancels it. -/
theorem Reachable.waits_step (hr : Reachable b) {a : Action} (asks : a.onlyAsks = true)
    (opens : ∀ h share, .open h share ∈ b.waiting → b.Waits h) {share : Bool}
    (waits : .open h share ∈ (b.step a).waiting) : (b.step a).Waits h := by
  have kept : a ≠ .disconnect h := by
    rintro rfl
    cases asks
  cases hx : b.handles[h]? with
  | none =>
    have there := lt_of_waiting (hr.step a).sound waits
    have hy : (b.step a).handles[h]? = some (b.step a).handles[h] := List.getElem?_eq_getElem there
    exact ⟨_, hy, hr.state_of_new waits hx hy⟩
  | some x =>
    obtain ⟨known, -⟩ := List.getElem?_eq_some_iff.1 hx
    have still : .open h share ∈ (b.run [a]).waiting := waits
    obtain ⟨share', before⟩ := hr.waiting_before known still
    obtain ⟨z, hz, state⟩ := opens h share' before
    obtain rfl : x = z := Option.some.inj (hx.symm.trans hz)
    obtain ⟨y, hy, same⟩ := hr.state_step_of_waiting waits kept hx
    exact ⟨y, hy, same.trans state⟩

theorem Reachable.awaited_step (hr : Reachable b) {a : Action} (other : a ≠ .turn .loop)
    (awaited : b.view.Awaited i) : (b.step a).view.Awaited i := by
  have aside := View.Aside.of_meanwhile (beside_step hr.sound.devicesFit other).view
  exact awaited.of_loop aside.loop aside.faces fun h c wanted => hr.wanted_step wanted a

/-- The loop gives the handle of an open to the session of its camera. -/
theorem resumeLoop_of_attach {share : Bool} (evaluates : b.Evaluates h share x)
    (waits : x.state = .unopened) (alone : share = false → (b.conflicting x.camera).1 = [])
    (active : b.activeFor? x.camera = some i)
    (up : ((b.takeIn.sessionStream? i).any fun st => st.state.isTearingDown) = false) :
    b.resumeLoop = ((b.takeIn.connectTo i h).popHead).setStage .reading := by
  have placed : b.takeIn.place h x.camera =
      ((b.takeIn.connectTo i h).popHead).setStage .reading := by
    have same : b.takeIn.activeFor? x.camera = some i := active
    unfold place
    rw [same]
    dsimp only
    rw [up]
    exact if_neg Bool.false_ne_true
  have hx : b.takeIn.handles[h]? = some x := evaluates.handle
  rw [resumeLoop_of_evaluates evaluates, ← placed]
  unfold serveOpen
  rw [hx]
  dsimp only
  rw [if_neg (not_not.2 waits)]
  cases share with
  | true => exact if_pos rfl
  | false =>
    have none : b.takeIn.conflicting x.camera = ([], (b.conflicting x.camera).2) :=
      Prod.ext (alone rfl) rfl
    rw [if_neg Bool.false_ne_true, none]

/-- While the close of the session that is awaited waits, the loop does nothing else. -/
theorem Rule.awaited_of_asked (rule : Rule b b' w) (awaited : b.view.Awaited i)
    (only : ∀ j, .close j ∈ b.waiting → j = i) (asked : .close i ∈ b.waiting)
    (once : b.waiting.count (.close i) ≤ 1) (still : .close i ∈ w.waiting) : w.Awaited i := by
  have reading : b.loop.stage = .reading := awaited.reading
  cases rule with
  | idle => exact awaited
  | start stage => cases reading.symm.trans stage
  | finish stage done noClient leaves =>
    rw [done] at asked
    cases asked
  | @close stage j rest first left leaves =>
    -- The close is serviced, and there was only one.
    exfalso
    obtain ⟨before, after, waiting, rfl, -⟩ := firstClose?_eq_some first
    obtain rfl : j = i := only j (by simp [waiting])
    have still : .close j ∈ before ++ after := by
      rw [View.waiting_retire] at still
      exact (waiting_take (before ++ after) b.view) ▸ still
    have more : 0 < (before ++ after).count (.close j) := List.count_pos_iff.2 still
    rw [waiting, List.count_append, List.count_cons_self] at once
    rw [List.count_append] at more
    omega
  | closeAll stage noClose last resolved leaves =>
    exact absurd asked (firstClose?_eq_none noClose i)
  | serve stage head camera serves noClose noCloseAll =>
    exact absurd asked (firstClose?_eq_none noClose i)
  | opener stage camera opens => cases reading.symm.trans stage
  | await stage sub down => cases reading.symm.trans stage

namespace Attended

theorem unclosed (h : b.Attended) (hs : b.sessions[i]? = some s)
    (live : s.timer.released = false) : s.closing = false := by
  have settled := h.once.settled i s hs
  by_contra closing
  cases live.symm.trans (settled.retired (settled.closing (by simpa using closing)))

/-- A session that has asked for its close is released. -/
theorem released_of_asked (h : b.Attended) (mem : .close i ∈ b.waiting)
    (hs : b.sessions[i]? = some s) : s.timer.released = true := by
  have accepted : .close i ∈ b.acceptedRequests := by
    rw [← List.count_pos_iff, h.simulated.count_accepted]
    exact Nat.add_pos_right _ (List.count_pos_iff.2 mem)
  obtain ⟨t, ht, released⟩ := h.once.released i accepted
  obtain rfl : s = t := Option.some.inj (hs.symm.trans ht)
  exact released

theorem count_close (h : b.Attended) (i : SessionId) : b.waiting.count (.close i) ≤ 1 := by
  have accepted := h.simulated.count_accepted (.close i)
  have once := h.once.once i
  omega

/-- Only a session that is awaited is about to ask for its close. -/
theorem awaited_of_pleads (h : b.Attended) {a : SessionAction} (pleads : b.Pleads i a) :
    b.view.Awaited i := by
  cases pleads with
  | @idle s hs live free due =>
    refine (h.used i s hs live).resolve_left fun uses => ?_
    exact absurd free (Nat.ne_of_gt (h.simulated.reachable.tokens_of_uses uses hs))
  | @lost s st hs live held stream news lost =>
    have stream : b.stream? s.device = some st := by simpa [sessionStream?, hs] using stream
    cases lost.symm.trans
      (h.simulated.stream_of_held h.upheld hs (h.unclosed hs live) held stream)

theorem pleads_of_new (h : b.Attended) {a : Action} (old : .close i ∉ b.waiting)
    (new : .close i ∈ (b.step a).waiting) : b.Pleads i (.act a) := by
  by_contra silent
  have same : (b.step a).acceptedRequests.count (.close i) =
      b.acceptedRequests.count (.close i) := by
    rcases b.calm_or_asked (.act a) with calm | ⟨j, pleads, asked⟩
    · exact calm.accepted i
    · have other : j ≠ i := by
        rintro rfl
        exact silent pleads
      have accepted : (b.step a).acceptedRequests = b.acceptedRequests ++ [.close j] :=
        asked.accepted
      rw [accepted, List.count_append]
      simp [other]
  have before := h.simulated.count_accepted (.close i)
  have after := (h.simulated.step a).count_accepted (.close i)
  have serviced := (h.simulated.reachable.servicedRequests_step a).sublist.count_le (.close i)
  have none : b.waiting.count (.close i) = 0 := List.count_eq_zero.2 old
  have one : 0 < (b.step a).waiting.count (.close i) := List.count_pos_iff.2 new
  omega

/-- The loop gives a session that is awaited its handle. -/
theorem uses_turn (h : b.Attended) (awaited : b.view.Awaited i) (hs : b.sessions[i]? = some s)
    (live : s.timer.released = false) : (b.step (.turn .loop)).Uses i := by
  have hv := h.simulated.reachable.sound
  have unclosed := h.unclosed hs live
  obtain ⟨g, share, rest, c, pending, wanted, camera, single⟩ := awaited.head
  have head : b.waiting = .open g share :: (rest ++ b.inbox.buffer) :=
    congrArg (· ++ b.inbox.buffer) pending
  obtain ⟨x, hx, waits⟩ := h.opens g share (head ▸ List.mem_cons_self)
  obtain rfl : x.camera = c := by simpa [view, hx] using wanted
  have noClose : ∀ j, .close j ∉ b.waiting := by
    intro j mem
    obtain rfl : j = i := (h.asked j mem).eq hv awaited
    cases live.symm.trans (h.released_of_asked mem hs)
  have evaluates : b.Evaluates g share x :=
    ⟨awaited.reading, ⟨_, head⟩, noClose, h.noCloseAll, hx⟩
  have active : b.activeFor? x.camera = some i := by
    cases found : b.activeFor? x.camera with
    | none => exact absurd camera (free_of_activeFor? found i awaited.active)
    | some j =>
      obtain ⟨mem, t, ht, own⟩ := session_of_activeFor? found
      have same : b.view.cameraOf j = some x.camera := by
        simp [View.cameraOf, view, Session.face, ht, own]
      rw [hv.eq_of_cameraOf mem awaited.active (same.trans camera.symm)]
  have alone : share = false → (b.conflicting x.camera).1 = [] := by
    intro exclusive
    have one : b.loop.active = [i] := single exclusive
    have own : s.camera = x.camera := by
      simpa [View.cameraOf, view, Session.face, hs] using camera
    simp [conflicting_eq, one, hs, own]
  have up : ((b.takeIn.sessionStream? i).any fun st => st.state.isTearingDown) = false := by
    by_contra down
    obtain ⟨f, y, hf, hy, tears⟩ := isClosing_of_stream (Bool.of_not_eq_false down)
    have hf : b.view.faces[i]? = some f := hf
    have hy : b.hw.devices[f.device]? = some y := hy
    obtain rfl : s.face = f := by simpa [view, hs] using hf
    have simulated := h.simulated.devices y (List.mem_of_getElem? hy)
    cases unclosed.symm.trans (h.upheld i s hs ⟨y, hy, simulated, tears⟩)
  have some : b.waiting ≠ [] := by
    rw [head]
    exact List.cons_ne_nil _ _
  have turns : b.step (.turn .loop) = ((b.takeIn.connectTo i g).popHead).setStage .reading :=
    (step_loop (loopReady_of_waiting awaited.reading some)).trans
      (resumeLoop_of_attach evaluates waits alone active up)
  obtain ⟨token, bound, takes, bonds⟩ := connectTo_bonds (b := b.takeIn) hs hx waits
  have apart : s.current ≠ Option.some g := fun current =>
    h.simulated.reachable.bindings.not_current ⟨x, hx, waits⟩ i ((current_of_session hs).2 current)
  refine (takes.uses live apart).of_handles ?_
  rw [turns]
  exact (handles_popHead _).trans (congrArg Prod.fst bonds)

theorem asked_step (h : b.Attended) {a : Action} (mem : .close i ∈ (b.step a).waiting) :
    (b.step a).view.Awaited i := by
  have hr := h.simulated.reachable
  by_cases ha : a = .turn .loop
  · subst ha
    rcases loop_turn hr.sound with stays | ⟨turns, turn⟩
    · rw [stays] at mem ⊢
      exact h.asked i mem
    · rw [turns] at mem ⊢
      have before := turn.waits_before hr.sound mem
      have awaited := h.asked i before
      exact turn.rule.awaited_of_asked awaited (fun j hj => (h.asked j hj).eq hr.sound awaited)
        before (h.count_close i) mem
  · refine hr.awaited_step ha ?_
    by_cases old : .close i ∈ b.waiting
    · exact h.asked i old
    · exact h.awaited_of_pleads (h.pleads_of_new old mem)

theorem used_step (h : b.Attended) {a : Action} (asks : a.onlyAsks = true) {s' : Session}
    (hs' : (b.step a).sessions[i]? = some s') (live' : s'.timer.released = false) :
    (b.step a).Uses i ∨ (b.step a).view.Awaited i := by
  have hr := h.simulated.reachable
  cases hs : b.sessions[i]? with
  | none => exact .inr (hr.awaited_of_new hs hs')
  | some s =>
    have keeps : Keeps b (b.step a) := by
      rcases b.calm_or_asked (.act a) with calm | ⟨j, -, asked⟩
      · exact calm.keeps
      · exact asked.keeps
    obtain ⟨t, ht, onward⟩ := keeps.goesOn i s hs
    obtain rfl : s' = t := Option.some.inj (hs'.symm.trans ht)
    have live : s.timer.released = false := by
      by_contra released
      cases live'.symm.trans (onward.released (by simpa using released))
    rcases h.used i s hs live with uses | awaited
    · exact .inl (h.simulated.uses_step h.upheld asks uses hs (h.unclosed hs live) live hs' live')
    · by_cases ha : a = .turn .loop
      · subst ha
        exact .inl (h.uses_turn awaited hs live)
      · exact .inr (hr.awaited_step ha awaited)

theorem step (h : b.Attended) {a : Action} (asks : a.onlyAsks = true) :
    (b.step a).Attended where
  simulated := h.simulated.step a
  once := h.once.perform (.act a)
  upheld := h.simulated.reachable.upheld_step h.upheld asks
  opens _ _ := h.simulated.reachable.waits_step asks h.opens
  noCloseAll := h.simulated.reachable.noCloseAll_step asks h.noCloseAll
  used _ _ := h.used_step asks
  asked _ := h.asked_step

theorem run (h : b.Attended) {actions : List Action} (asks : ∀ a ∈ actions, a.onlyAsks = true) :
    (b.run actions).Attended := by
  induction actions generalizing b with
  | nil => exact h
  | cons a actions ih =>
    exact ih (h.step (asks a List.mem_cons_self)) fun a' mem => asks a' (List.mem_cons_of_mem a mem)

/-- Sessions take at most one place in the inbox, and only while the open waits that the session was
opened for. -/
theorem buffer_le (h : b.Attended) : b.inbox.buffer.length ≤ b.outstanding := by
  have total := countP_isClose b.inbox.buffer
  have split : b.outstanding = b.loop.pending.countP (fun r => r.isClose = false) +
      b.inbox.buffer.countP fun r => r.isClose = false := List.countP_append
  by_cases none : b.inbox.buffer.countP (fun r => r.isClose = true) = 0
  · omega
  obtain ⟨r, mem, close⟩ := List.countP_pos_iff.1 (Nat.pos_of_ne_zero none)
  cases r with
  | close i =>
    have waits : ∀ {r : Request}, r ∈ b.inbox.buffer → r ∈ b.waiting :=
      List.mem_append_right _
    have awaited := h.asked i (waits mem)
    have same : b.inbox.buffer.countP (fun r => r.isClose = true) =
        b.inbox.buffer.count (.close i) := by
      refine List.countP_congr fun r hr => ?_
      cases r with
      | close j =>
        obtain rfl : j = i := (h.asked j (waits hr)).eq h.simulated.reachable.sound awaited
        simp [Request.isClose]
      | _ => simp [Request.isClose]
    have once : b.inbox.buffer.count (.close i) ≤ b.waiting.count (.close i) :=
      (List.sublist_append_right _ _).count_le _
    have one := h.count_close i
    have first : 0 < b.loop.pending.countP fun r => r.isClose = false := by
      obtain ⟨g, share, rest, c, pending, -⟩ := awaited.head
      have pending : b.loop.pending = .open g share :: rest := pending
      exact List.countP_pos_iff.2 ⟨_, pending ▸ List.mem_cons_self, rfl⟩
    omega
  | _ => cases of_decide_eq_true close

end Attended

end Broker

end CameraBroker
