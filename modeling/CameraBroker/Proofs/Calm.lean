import CameraBroker.Proofs.Fates
import CameraBroker.Proofs.SessionMoves

/-! Calm steps. Whatever state a broker is in, neither the loop nor a client nor a device makes a
session ask for its close, and none of them undoes what a timer has come to. -/
namespace CameraBroker

namespace Hardware
variable {w w' : Hardware}

def accepted (w : Hardware) : List Request := (w.history.filterMap Event.accepted?).reverse

theorem accepted_emit {e : Event} (quiet : e.accepted? = none) :
    (w.emit e).accepted = w.accepted := by
  simp [accepted, emit, quiet]

theorem accepted_of_operates (operates : w.Operates w') : w'.accepted = w.accepted := by
  have same := operates.filterMap (f := Event.accepted?) fun e news => by
    cases e <;> first | rfl | cases news
  rw [accepted, same, accepted]

theorem accepted_beginOpen (c : CameraId) (w : Hardware) :
    (w.beginOpen c).2.accepted = w.accepted := by
  obtain ⟨attempts, -, ⟨e, cameras, failed⟩ | begun⟩ := w.beginOpen_cases c
  · rw [failed]
    rfl
  · rw [begun]
    rfl

end Hardware

namespace Session

/-- A session that is being closed has retired its timer, and a retired timer is released. -/
structure Settled (s : Session) : Prop where
  closing : s.closing = true → s.timer.retired = true
  retired : s.timer.retired = true → s.timer.released = true

structure Onward (s s' : Session) : Prop where
  closing : s.closing = true → s'.closing = true
  retired : s.timer.retired = true → s'.timer.retired = true
  released : s.timer.released = true → s'.timer.released = true
  settled : s.Settled → s'.Settled

variable {s s' s'' : Session}

theorem Onward.refl (s : Session) : s.Onward s := ⟨id, id, id, id⟩

theorem Onward.trans (h : s.Onward s') (k : s'.Onward s'') : s.Onward s'' :=
  ⟨k.closing ∘ h.closing, k.retired ∘ h.retired, k.released ∘ h.released, k.settled ∘ h.settled⟩

theorem Onward.of_eq (closing : s'.closing = s.closing)
    (retired : s'.timer.retired = s.timer.retired)
    (released : s'.timer.released = s.timer.released) : s.Onward s' :=
  ⟨closing.trans, retired.trans, released.trans, fun settled =>
    ⟨fun h => retired.trans (settled.closing (closing.symm.trans h)),
      fun h => released.trans (settled.retired (retired.symm.trans h))⟩⟩

/-- A timer that is released on purpose settles its session. -/
theorem Onward.of_release (closing : s.closing = true → s'.closing = true)
    (timer : s'.timer = s.timer.release.2) : s.Onward s' := by
  have retired : s'.timer.retired = true := timer ▸ IdleTimer.retired_release
  have released : s'.timer.released = true := timer ▸ IdleTimer.released_release
  exact ⟨closing, fun _ => retired, fun _ => released,
    fun _ => ⟨fun _ => retired, fun _ => released⟩⟩

theorem settled_start (c : CameraId) (d : DeviceId) (now : Nat) :
    (start c d now).Settled := ⟨nofun, nofun⟩

end Session

namespace Broker
variable {b o b' : Broker}

structure Keeps (b b' : Broker) : Prop where
  goesOn : ∀ (i : SessionId) (s : Session), b.sessions[i]? = some s →
    ∃ s', b'.sessions[i]? = some s' ∧ s.Onward s'
  starts : ∀ (i : SessionId) (s : Session), b.sessions[i]? = none → b'.sessions[i]? = some s →
    s.Settled

namespace Keeps

theorem of_eq (sessions : b'.sessions = b.sessions) : Keeps b b' := by
  refine ⟨fun i s hs => ⟨s, by rw [sessions, hs], .refl s⟩, fun i s none some => ?_⟩
  rw [sessions, none] at some
  cases some

theorem trans (h : Keeps b o) (k : Keeps o b') : Keeps b b' := by
  refine ⟨fun i s hs => ?_, fun i s none some => ?_⟩
  · obtain ⟨t, ht, first⟩ := h.goesOn i s hs
    obtain ⟨u, hu, second⟩ := k.goesOn i t ht
    exact ⟨u, hu, first.trans second⟩
  · cases there : o.sessions[i]? with
    | none => exact k.starts i s there some
    | some t =>
      obtain ⟨u, hu, onward⟩ := k.goesOn i t there
      obtain rfl : u = s := Option.some.inj (hu.symm.trans some)
      exact onward.settled (h.starts i t none there)

/-- One session goes on. -/
theorem of_set {i : SessionId} {s s' : Session} (hs : b.sessions[i]? = some s)
    (sessions : b'.sessions = b.sessions.set i s') (onward : s.Onward s') : Keeps b b' := by
  obtain ⟨hi, -⟩ := List.getElem?_eq_some_iff.1 hs
  refine ⟨fun j t ht => ?_, fun j t none some => ?_⟩
  · by_cases hij : i = j
    · subst hij
      obtain rfl : s = t := Option.some.inj (hs.symm.trans ht)
      exact ⟨s', by simp [sessions, hi], onward⟩
    · exact ⟨t, by rw [sessions, List.getElem?_set_ne hij, ht], .refl t⟩
  · by_cases hij : i = j
    · subst hij
      cases hs.symm.trans none
    · rw [sessions, List.getElem?_set_ne hij, none] at some
      cases some

/-- A session starts. -/
theorem of_concat {s : Session} (sessions : b'.sessions = b.sessions ++ [s]) (settled : s.Settled) :
    Keeps b b' := by
  refine ⟨fun i t ht => ⟨t, ?_, .refl t⟩, fun i t none some => ?_⟩
  · obtain ⟨hi, -⟩ := List.getElem?_eq_some_iff.1 ht
    rw [sessions, List.getElem?_append_left hi, ht]
  · rw [sessions] at some
    rcases View.of_getElem?_concat some with there | ⟨-, rfl⟩
    · cases none.symm.trans there
    · exact settled

end Keeps

/-- A handle is bound, with the timer's token or without it, unless it has its answer already. -/
theorem connectTo_cases (i : SessionId) (h : HandleId) (b : Broker) :
    b.connectTo i h = b ∨ ∃ s, b.sessions[i]? = some s ∧ ∃ timed token,
      (timed = b ∨ ∃ t, s.timer.acquire? = some t ∧ timed = b.onTimer i fun _ => t) ∧
      (b.connectTo i h = (timed.giveBack token).emit (.attachRefused h s.camera) ∨
        ∃ y, b.connectTo i h = (timed.bindHandle i h s.camera y).letGo s.current) := by
  cases hs : b.sessions[i]? with
  | none => exact .inl (by simp [connectTo, hs])
  | some s =>
    cases hx : b.handles[h]? with
    | none => exact .inl (by simp [connectTo, hs, hx])
    | some x =>
      refine .inr ⟨s, rfl, ?_⟩
      cases taken : s.timer.acquire? with
      | none =>
        refine ⟨b, none, .inl rfl, ?_⟩
        cases joined : x.connect? s.device none with
        | none => exact .inl (by simp [connectTo, hs, hx, taken, joined])
        | some y =>
          refine .inr ⟨y, ?_⟩
          simp only [connectTo, hs, hx, taken, joined]
          cases s.current <;> rfl
      | some t =>
        refine ⟨b.onTimer i fun _ => t, some i, .inr ⟨t, rfl, rfl⟩, ?_⟩
        cases joined : x.connect? s.device (some i) with
        | none => exact .inl (by simp [connectTo, hs, hx, taken, joined])
        | some y =>
          refine .inr ⟨y, ?_⟩
          simp only [connectTo, hs, hx, taken, joined]
          cases s.current <;> rfl

structure Calm (b b' : Broker) : Prop where
  accepted : ∀ i, b'.acceptedRequests.count (.close i) = b.acceptedRequests.count (.close i)
  keeps : Keeps b b'

namespace Calm

theorem of_keeps (accepted : b'.hw.accepted = b.hw.accepted) (keeps : Keeps b b') : Calm b b' := by
  have same : b'.acceptedRequests = b.acceptedRequests := accepted
  exact ⟨fun i => by rw [same], keeps⟩

theorem of_eq (accepted : b'.hw.accepted = b.hw.accepted) (sessions : b'.sessions = b.sessions) :
    Calm b b' := .of_keeps accepted (.of_eq sessions)

theorem refl (b : Broker) : Calm b b := .of_eq rfl rfl

theorem trans (h : Calm b o) (k : Calm o b') : Calm b b' :=
  ⟨fun i => (k.accepted i).trans (h.accepted i), h.keeps.trans k.keeps⟩

/-- A calm step after changes that do not count here. -/
theorem after (calm : Calm o b') (accepted : o.hw.accepted = b.hw.accepted)
    (sessions : o.sessions = b.sessions) : Calm b b' :=
  (of_eq accepted sessions).trans calm

theorem emit {e : Event} (quiet : e.accepted? = none) (b : Broker) : Calm b (b.emit e) :=
  .of_eq (Hardware.accepted_emit quiet) rfl

/-- One session changes, and nothing else. -/
theorem onSession {i : SessionId} {f : Session → Session}
    (onward : ∀ s, b.sessions[i]? = some s → s.Onward (f s)) : Calm b (b.onSession i f) := by
  refine .of_keeps rfl ?_
  cases hs : b.sessions[i]? with
  | none =>
    exact .of_eq (List.modify_eq_self (List.getElem?_eq_none_iff.1 hs))
  | some s =>
    obtain ⟨hi, rfl⟩ := List.getElem?_eq_some_iff.1 hs
    exact .of_set hs (List.modify_eq_set_get f hi) (onward _ hs)

theorem giveBack (token : Option TimerId) (b : Broker) : Calm b (b.giveBack token) := by
  cases token with
  | none => exact .refl b
  | some i =>
    exact .onSession (f := fun s => { s with timer := s.timer.giveBack b.now }) fun s _ =>
      .of_eq rfl (IdleTimer.retired_giveBack _) (IdleTimer.released_giveBack _)

theorem failHandle (h : HandleId) (reason : OpenFailure) (b : Broker) :
    Calm b (b.failHandle h reason) := by
  refine .of_eq ?_ (b.sessions_failHandle h reason)
  unfold Broker.failHandle
  split
  · rfl
  · split <;> rfl

theorem disconnect (h : HandleId) (b : Broker) : Calm b (b.disconnect h) := by
  unfold Broker.disconnect
  split
  · exact .refl b
  · rename_i x hx
    dsimp only
    refine Calm.trans ?_ (.giveBack x.token? _)
    split <;> exact .of_eq rfl rfl

theorem letGo (current : Option HandleId) (b : Broker) : Calm b (b.letGo current) := by
  cases current with
  | none => exact .refl b
  | some h => exact .disconnect h b

theorem observe (h : HandleId) (b : Broker) : Calm b (b.observe h) := by
  unfold Broker.observe
  split
  · exact .refl b
  · split
    · exact .refl b
    · rename_i x hx _ s hs
      dsimp only
      split
      · exact .of_eq rfl rfl
      · exact (giveBack x.token? _).after rfl rfl

/-- A request that is no close of a session is offered. -/
theorem offer {r : Request} (offered : b.offer r = .ok b') (other : ∀ i, r ≠ .close i) :
    Calm b b' := by
  unfold Broker.offer at offered
  cases taken : b.inbox.offer r with
  | error e =>
    rw [taken] at offered
    cases offered
  | ok inbox =>
    rw [taken] at offered
    cases offered
    have more : ({ b with inbox }.emit (.accepted r)).acceptedRequests =
        b.acceptedRequests ++ [r] := by
      simp [acceptedRequests, Broker.emit, Hardware.emit, Event.accepted?]
    refine ⟨fun i => ?_, .of_eq rfl⟩
    rw [more, List.count_append, List.count_singleton]
    simp [other i]

theorem connectTo (i : SessionId) (h : HandleId) (b : Broker) : Calm b (b.connectTo i h) := by
  obtain same | ⟨s, hs, timed, token, timing, outcome⟩ := b.connectTo_cases i h
  · rw [same]
    exact .refl b
  · have calm : Calm b timed := by
      obtain rfl | ⟨t, taken, rfl⟩ := timing
      · exact .refl _
      · refine .onSession (f := fun s => { s with timer := t }) fun s' hs' => ?_
        obtain rfl : s = s' := Option.some.inj (hs.symm.trans hs')
        exact .of_eq rfl (IdleTimer.retired_of_acquire taken) (IdleTimer.released_of_acquire taken)
    obtain refused | ⟨y, bound⟩ := outcome
    · rw [refused]
      exact calm.trans ((giveBack token timed).trans (emit rfl _))
    · have told : Calm timed (timed.bindHandle i h s.camera y) :=
        (onSession (b := (timed.setHandle h y).emit (.attached h s.camera i))
          (f := fun s => { s with current := some h }) fun s _ => .of_eq rfl rfl rfl).after rfl rfl
      rw [bound]
      exact calm.trans (told.trans (letGo s.current _))

/-- A session that is closed retires its timer, without a word to the loop. -/
theorem beginClose (i : SessionId) (b : Broker) : Calm b (b.beginClose i).2 := by
  unfold Broker.beginClose
  split
  · exact .refl b
  · rename_i s hs
    dsimp only
    let told := if s.closing then b else b.emit (.sessionClosing s.camera i)
    have first : Calm b told := by
      unfold told
      split
      · exact .refl b
      · exact .emit rfl b
    let shutting := told.onSession i Session.shut
    have shut : Calm told shutting := .onSession fun s _ => .of_release (fun _ => rfl) rfl
    have left : Calm b (shutting.letGo s.current) := first.trans (shut.trans (.letGo _ _))
    refine left.trans (.of_eq ?_ ?_)
    · exact Hardware.accepted_of_operates (.closeDevice s.device (shutting.letGo s.current).hw)
    · rfl

theorem resumeClose (k : Nat) (b : Broker) : Calm b (b.resumeClose k) := by
  unfold Broker.resumeClose
  split
  · exact .refl b
  · rename_i c hk
    obtain ⟨i, stage⟩ := c
    cases stage with
    | fresh =>
      have begun := beginClose i b
      cases h : b.beginClose i with
      | mk started after =>
        rw [h] at begun
        cases started <;> exact begun.trans (.of_eq rfl rfl)
    | awaiting => exact .of_eq rfl rfl
    | done => exact .of_eq rfl rfl

theorem awaitClosed (sessions left : List SessionId) (after : AfterClose) (b : Broker) :
    Calm b (b.awaitClosed sessions left after) := by
  refine .of_eq ?_ (congrArg Prod.snd (b.bonds_awaitClosed sessions left after))
  unfold Broker.awaitClosed
  split
  · cases after <;> rfl
  · rfl

theorem closeSessions (sessions : List SessionId) (after : AfterClose) (b : Broker) :
    Calm b (b.closeSessions sessions after) := by
  refine Calm.trans ?_ (.awaitClosed sessions sessions after _)
  induction sessions generalizing b with
  | nil => exact .refl b
  | cons i sessions ih => exact (ih (b.spawnClose i)).after rfl rfl

theorem popHead (b : Broker) : Calm b b.popHead := by
  unfold Broker.popHead
  split <;> exact .of_eq rfl rfl

theorem giveUpOpen (h : HandleId) (reason : OpenFailure) (b : Broker) :
    Calm b (b.giveUpOpen h reason) :=
  (failHandle h reason b).trans ((popHead _).trans (.of_eq rfl rfl))

theorem deviceReady (c : CameraId) (d : DeviceId) (b : Broker) : Calm b (b.deviceReady c d) := by
  unfold Broker.deviceReady Broker.startSession
  dsimp only
  split
  · exact .of_eq rfl rfl
  · rename_i x hx
    exact .of_keeps rfl (.of_concat rfl (Session.settled_start _ _ _))

theorem attemptFailed (p : RetryPolicy) (h : HandleId) (c : CameraId) (attempt : Nat)
    (e : DeviceError) (b : Broker) : Calm b (b.attemptFailed p h c attempt e) := by
  unfold Broker.attemptFailed
  split
  · exact .of_eq rfl rfl
  · exact (emit (e := .gaveUp c attempt e) rfl b).trans ((emit rfl _).trans (giveUpOpen h _ _))

theorem beginAttempt (p : RetryPolicy) (h : HandleId) (c : CameraId) (attempt : Nat)
    (b : Broker) : Calm b (b.beginAttempt p h c attempt) := by
  obtain ⟨attempts, -, ⟨e, cameras, failed⟩ | ⟨x, -, -, -, -, begun⟩⟩ :=
    b.beginAttempt_cases p h c attempt
  · rw [failed]
    exact (attemptFailed p h c attempt e _).after rfl rfl
  · rw [begun]
    exact .of_eq rfl rfl

theorem endAttempt (p : RetryPolicy) (h : HandleId) (c : CameraId) (attempt : Nat) (d : DeviceId)
    (b : Broker) : Calm b (b.endAttempt p h c attempt d) := by
  have kept := Hardware.accepted_of_operates (.finishOpen c d b.hw)
  unfold Broker.endAttempt
  split
  · rename_i e hw failed
    rw [failed] at kept
    exact (attemptFailed p h c attempt e { b with hw }).after kept rfl
  · rename_i hw opened
    rw [opened] at kept
    dsimp only
    split
    · exact (deviceReady c d _).after kept rfl
    · exact (deviceReady c d _).after kept rfl

theorem endScripted (h : HandleId) (c : CameraId) (onClose : OnClose) (outcome : ScriptedOpen)
    (b : Broker) : Calm b (b.endScripted h c onClose outcome) := by
  cases outcome with
  | refused => exact (emit rfl b).trans (giveUpOpen h _ _)
  | crash => exact .of_eq rfl rfl
  | device state =>
    exact (deviceReady c _ { b with hw := (b.hw.addManual c state onClose).2 }).after rfl rfl

theorem beginOpening (h : HandleId) (c : CameraId) (b : Broker) :
    Calm b (b.beginOpening h c) := by
  unfold Broker.beginOpening
  dsimp only
  refine Calm.trans (o := b.emit (.permissionAsked c b.granted)) (.emit rfl b) ?_
  split
  · refine Calm.trans (.emit (e := .openerAsked c h) rfl _) ?_
    split
    · exact .beginAttempt _ h c 1 _
    · exact .of_eq rfl rfl
  · exact .giveUpOpen h _ _

theorem resumeOpening (h : HandleId) (call : OpenerCall) (b : Broker) :
    Calm b (b.resumeOpening h call) := by
  unfold Broker.resumeOpening
  split
  · exact .refl b
  · split
    · exact .endAttempt _ h _ _ _ b
    · exact .beginAttempt _ h _ _ b
    · rename_i delay onClose outcomes _
      exact (endScripted h _ onClose _
        { b with opener := .scripted delay onClose outcomes.tail }).after rfl rfl
    · exact .refl b

theorem supersede (before : List Request) (b : Broker) :
    Calm b (before.foldl Broker.supersede b) := by
  induction before generalizing b with
  | nil => exact .refl b
  | cons r before ih =>
    refine Calm.trans ?_ (ih _)
    cases r with
    | «open» h share => exact (failHandle h .superseded b).trans (.emit rfl _)
    | close i => exact .emit rfl b
    | closeAll => exact .emit rfl b

theorem place (h : HandleId) (c : CameraId) (b : Broker) : Calm b (b.place h c) := by
  unfold Broker.place
  split
  · exact .beginOpening h c b
  · split
    · exact (closeSessions _ .read _).after rfl rfl
    · exact (connectTo _ h b).trans ((popHead _).trans (.of_eq rfl rfl))

theorem serveOpen (h : HandleId) (share : Bool) (b : Broker) : Calm b (b.serveOpen h share) := by
  unfold Broker.serveOpen
  split
  · exact (popHead b).trans (.of_eq rfl rfl)
  · split
    · exact (emit rfl b).trans ((popHead _).trans (.of_eq rfl rfl))
    · split
      · exact .place h _ b
      · split
        · exact .place h _ b
        · exact (closeSessions _ .read _).after rfl rfl

theorem serve (b : Broker) : Calm b b.serve := by
  unfold Broker.serve
  split
  · exact (closeSessions _ .read _).after rfl rfl
  · split
    · rename_i before after _
      have cleared : Calm b (before.foldl Broker.supersede (b.setPending after)) :=
        (supersede before (b.setPending after)).after rfl rfl
      exact cleared.trans ((closeSessions _ .read _).after rfl rfl)
    · split
      · exact .serveOpen _ _ b
      · exact .refl b

theorem read (b : Broker) : Calm b b.read := by
  unfold Broker.read
  split
  · split
    · unfold Broker.finish
      split
      · exact .of_eq rfl rfl
      · exact (closeSessions _ .stop _).after rfl rfl
    · exact .refl b
  · exact (serve _).after rfl rfl

/-- Whatever the loop does in a turn, no session asks for its close. -/
theorem resumeLoop (b : Broker) : Calm b b.resumeLoop := by
  unfold Broker.resumeLoop
  split
  · exact .of_eq rfl rfl
  · exact .read b
  · exact .resumeOpening _ _ b
  · exact .awaitClosed _ _ _ b
  · exact .refl b
  · exact .refl b

/-! All that clients and the environment do. -/

theorem fill (n : Nat) (b : Broker) : Calm b (b.fill n).2 := by
  induction n generalizing b with
  | zero => exact .refl b
  | succ n ih =>
    unfold Broker.fill
    split
    · exact ih b
    · rename_i o offered
      exact (Calm.offer offered (by simp)).trans (ih o)

theorem requestOpen (c : CameraId) (share : Bool) (b : Broker) :
    Calm b (orUnchanged (b.requestOpen c share) b) := by
  have created : Calm b (b.createHandle c) := .of_eq rfl rfl
  unfold Broker.requestOpen
  cases offered : (b.createHandle c).offer (.open b.handles.length share) with
  | ok o => simpa [offered, orUnchanged] using created.trans (.offer offered (by simp))
  | error e =>
    cases e with
    | full => simpa [offered, orUnchanged] using Calm.refl b
    | closed =>
      simpa [offered, orUnchanged] using
        created.trans ((emit (e := .requestDropped) rfl _).trans (.failHandle _ _ _))

theorem requestCloseAll (b : Broker) : Calm b (orUnchanged b.requestCloseAll b) := by
  unfold Broker.requestCloseAll
  cases offered : b.offer .closeAll with
  | ok o => exact .offer offered (by simp)
  | error e =>
    cases e with
    | full => exact .refl b
    | closed => exact .emit rfl b

theorem beginShutdown (b : Broker) : Calm b b.beginShutdown := by
  unfold Broker.beginShutdown Broker.offerOrLeave
  split
  · rename_i o offered
    exact (Calm.offer offered (by simp)).trans (.of_eq rfl rfl)
  · exact .of_eq rfl rfl

theorem onManual (d : DeviceId) (f : Stream → Stream) (b : Broker) : Calm b (b.onManual d f) := by
  refine .of_eq ?_ (congrArg Prod.snd (b.bonds_onManual d f))
  unfold Broker.onManual
  split
  · split <;> rfl
  · rfl

/-- Only a listener and a countdown make a session ask for its close. -/
theorem resumeTask {t : Task} (listens : ∀ i, t ≠ .listen i) (wakes : ∀ i g, t ≠ .countdown i g)
    (b : Broker) : Calm b (b.resumeTask t) := by
  cases t with
  | release d => exact .of_eq (Hardware.accepted_of_operates (.resumeRelease d b.hw)) rfl
  | observe h => exact .observe h b
  | listen i => exact absurd rfl (listens i)
  | close k => exact .resumeClose k b
  | countdown i g => exact absurd rfl (wakes i g)
  | loop => exact .resumeLoop b

/-- What is not possible just then changes nothing. -/
theorem guarded {p : Prop} [Decidable p] (calm : Calm b b') : Calm b (if p then b' else b) := by
  split
  · exact calm
  · exact .refl b

theorem step {a : Action} (listens : ∀ i, a ≠ .turn (.listen i))
    (wakes : ∀ i g, a ≠ .turn (.countdown i g)) (b : Broker) : Calm b (b.step a) := by
  cases a with
  | turn t =>
    exact .guarded (.resumeTask (fun i same => listens i (same ▸ rfl))
      (fun i g same => wakes i g (same ▸ rfl)) b)
  | «open» c share => exact .guarded (.requestOpen c share b)
  | closeAll => exact .guarded (.requestCloseAll b)
  | shutdown => exact .guarded (.beginShutdown b)
  | leave => exact .guarded (.of_eq rfl rfl)
  | join =>
    have reported : Calm b b.endShutdown := .of_eq (by unfold endShutdown; split <;> rfl)
      (by unfold endShutdown; split <;> rfl)
    exact .guarded reported
  | disconnect h => exact .disconnect h b
  | forget h => exact .of_eq rfl rfl
  | grant =>
    unfold Broker.step Broker.grant
    dsimp only
    split <;> exact .of_eq rfl rfl
  | revoke => exact .guarded (.of_eq rfl rfl)
  | unplug c => exact .of_eq (Hardware.accepted_of_operates (.unplug c _ b.hw)) rfl
  | addCamera c =>
    refine .of_eq ?_ rfl
    unfold Broker.step Broker.onHardware Hardware.addCamera
    dsimp only
    split <;> rfl
  | failNext c n => exact .of_eq rfl rfl
  | setLatency o c => exact .of_eq rfl rfl
  | publish d state => exact .onManual d _ b
  | dropPublisher d => exact .onManual d _ b
  | script delay onClose outcomes =>
    unfold Broker.step Broker.rescript
    dsimp only
    split <;> exact .of_eq rfl rfl
  | elapse ms => exact .of_eq rfl rfl

end Calm

end Broker

end CameraBroker
