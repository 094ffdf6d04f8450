import CameraBroker.Proofs.HandleMoves
import CameraBroker.Proofs.TimerMoves

/-! What a step does to one session and its idle timer. A live timer without tokens always has a
countdown under way, and a timer that is released has asked the loop for the close of its session,
unless nobody could hear it. -/
namespace CameraBroker

namespace Session

def refund (now : Nat) (s : Session) : Session := { s with timer := s.timer.giveBack now }

structure Rests (s s' : Session) : Prop where
  face : s'.face = s.face
  tie : s'.tie = s.tie
  tokens : s'.timer.tokens = s.timer.tokens
  sane : s.timer.Sane → s'.timer.Sane

theorem Rests.refl (s : Session) : s.Rests s := ⟨rfl, rfl, rfl, id⟩

end Session

namespace Broker

def Unheard (b : Broker) (i : SessionId) : Prop :=
  b.holdsSession i = false ∨ b.inbox.producers = 0 ∨ b.inbox.reader ≠ .open

/-- A timer that is released now was so before, or the session is being closed, or has just asked
for its close. -/
def Asks (b b' : Broker) (i : SessionId) (s s' : Session) : Prop :=
  s.timer.Sane → s'.timer.released = true → s.timer.released = true ∨ s.closing = true ∨
    .close i ∈ b'.waiting ∨ b.Unheard i

inductive Ticks (b b' : Broker) (i : SessionId) (s : Session) : Session → Prop where
  | keep {s' : Session} (tie : s'.tie = s.tie) (sane : s.timer.Sane → s'.timer.Sane)
      (asks : b.Asks b' i s s') : Ticks b b' i s s'
  | shut {s' : Session} (fresh : { session := i } ∈ b.closes) (tie : s'.tie = ⟨none, true⟩)
      (sane : s'.timer.Sane) : Ticks b b' i s s'
  | attach {s' : Session} {h : HandleId} (noClose : firstClose? b.waiting = none)
      (noCloseAll : lastCloseAll? b.waiting = none) (active : i ∈ b.loop.active)
      (waits : b.Waits h) (tie : s'.tie = ⟨some h, s.closing⟩)
      (sane : s.timer.Sane → s'.timer.Sane) (released : s'.timer.released = s.timer.released) :
      Ticks b b' i s s'

section Frames
variable (b : Broker)

theorem getElem?_sessions_onTimer (i j : SessionId) (f : IdleTimer → IdleTimer) :
    (b.onTimer i f).sessions[j]? = (b.sessions[j]?).map fun s =>
      if i = j then { s with timer := f s.timer } else s := by
  by_cases hij : i = j <;> simp [onTimer, onSession, hij]

/-- A handle that is let go gives its token back. -/
theorem getElem?_sessions_disconnect (h : HandleId) (i : SessionId) :
    (b.disconnect h).sessions[i]? = (b.sessions[i]?).map fun s =>
      if (b.handles[h]?).bind Handle.token? = some i then s.refund b.now else s := by
  unfold disconnect
  cases hx : b.handles[h]? with
  | none => simp
  | some x =>
    dsimp only
    let told := if (x.move? .disconnected).isSome then b.emit (.handleDisconnected h x.camera)
      else b
    have same : (told.setHandle h x.disconnect).sessions = b.sessions := by
      unfold told
      split <;> rfl
    have clock : (told.setHandle h x.disconnect).now = b.now := by
      unfold told
      split <;> rfl
    have given : ((told.setHandle h x.disconnect).giveBack x.token?).sessions[i]? =
        (b.sessions[i]?).map fun s => if x.token? = some i then s.refund b.now else s := by
      cases x.token? with
      | none =>
        have kept : ((told.setHandle h x.disconnect).giveBack none).sessions = b.sessions := same
        rw [kept]
        simp
      | some j =>
        have modified := (told.setHandle h x.disconnect).getElem?_sessions_onTimer j i
          (·.giveBack (told.setHandle h x.disconnect).now)
        rw [same, clock] at modified
        simpa [giveBack, clock, Session.refund] using modified
    exact given

/-- Sessions change only by tokens that come back. -/
def Refunds (b b' : Broker) : Prop :=
  ∃ refunded : SessionId → Bool, ∀ i : SessionId, b'.sessions[i]? =
    (b.sessions[i]?).map fun s => if refunded i then s.refund b.now else s

theorem Refunds.of_eq {b b' : Broker} (same : b'.sessions = b.sessions) : b.Refunds b' :=
  ⟨fun _ => false, fun i => by simp [same]⟩

theorem refunds_letGo (current : Option HandleId) : b.Refunds (b.letGo current) := by
  cases current with
  | none => exact .of_eq rfl
  | some h =>
    refine ⟨fun i => decide ((b.handles[h]?).bind Handle.token? = some i), fun i => ?_⟩
    simp only [letGo, getElem?_sessions_disconnect, decide_eq_true_eq]

theorem refunds_observe (h : HandleId) : b.Refunds (b.observe h) := by
  unfold observe
  split
  · exact .of_eq rfl
  · rename_i x hx
    split
    · exact .of_eq rfl
    · rename_i st hs
      dsimp only
      split
      · exact .of_eq rfl
      · cases x.token? with
        | none => exact .of_eq rfl
        | some j =>
          refine ⟨fun i => decide (j = i), fun i => ?_⟩
          have modified := (b.setHandle h (x.observe st)).getElem?_sessions_onTimer j i
            (·.giveBack (b.setHandle h (x.observe st)).now)
          refine modified.trans ?_
          simp [Session.refund, setHandle, Broker.now]

end Frames

/-! Notifications. -/

section Notifying
variable (b : Broker) (i : SessionId)

/-- A notification that was delivered is a request for the close, unless nobody could hear it. -/
theorem requestClose_asks : (b.requestClose i).2.sessions = b.sessions ∧
    ((b.requestClose i).1 = true → i < b.sessions.length →
      .close i ∈ (b.requestClose i).2.waiting ∨ b.Unheard i) := by
  unfold requestClose
  cases hs : b.sessions[i]? with
  | none =>
    exact ⟨rfl, fun _ there => absurd there (Nat.not_lt.2 (List.getElem?_eq_none_iff.1 hs))⟩
  | some s =>
    dsimp only
    split
    · rename_i unheard
      refine ⟨rfl, fun _ _ => .inr ?_⟩
      have unheard : b.holdsSession i = false ∨ b.inbox.producers = 0 := by simpa using unheard
      exact unheard.imp id .inl
    · cases ho : b.offer (.close i) with
      | ok b' =>
        have offered : b'.view = b.view.arrive (.close i) := (offer_ok ho).2.2.1
        refine ⟨congrArg Prod.snd (bonds_offer ho), fun _ _ => .inl ?_⟩
        have waits : b'.waiting = b.waiting ++ [.close i] := by
          rw [← view_waiting, offered, View.waiting_arrive]
          rfl
        have kept : (b'.emit (.idleCloseRequested s.camera i)).waiting = b'.waiting := rfl
        rw [kept, waits]
        simp
      | error e =>
        cases e with
        | full => exact ⟨rfl, nofun⟩
        | closed =>
          refine ⟨rfl, fun _ _ => .inr (.inr (.inr fun reader => ?_))⟩
          by_cases full : inboxDepth ≤ b.inbox.buffer.length <;>
            simp [offer, Inbox.offer, reader, full, Except.map] at ho

variable {b i}

/-- A change of the session's timer alone. -/
theorem sessions_onTimer {s : Session} (hs : b.sessions[i]? = some s)
    (f : IdleTimer → IdleTimer) :
    (b.onTimer i f).sessions = b.sessions.set i { s with timer := f s.timer } := by
  obtain ⟨hi, rfl⟩ := List.getElem?_eq_some_iff.1 hs
  have modified : (b.onTimer i f).sessions =
      b.sessions.modify i fun s => { s with timer := f s.timer } := rfl
  rw [modified, List.modify_eq_set_get _ hi]
  rfl

/-- A session whose timer is released just now asks for its close, or its timer is revived. -/
theorem notify_asks {s : Session} (hs : b.sessions[i]? = some s) {u : IdleTimer}
    (tokens : u.tokens = s.timer.tokens) (retired : u.retired = s.timer.retired)
    (released : u.released = true) :
    ∃ t, ((b.onTimer i fun _ => u).notify i).sessions = b.sessions.set i { s with timer := t } ∧
      t.tokens = s.timer.tokens ∧ t.Sane ∧ (s.timer.Sane → t.released = true →
        s.timer.released = true ∨ .close i ∈ ((b.onTimer i fun _ => u).notify i).waiting ∨
          b.Unheard i) := by
  let begun := b.onTimer i fun _ => u
  have started : begun.sessions = b.sessions.set i { s with timer := u } := sessions_onTimer hs _
  have hi : i < b.sessions.length := (List.getElem?_eq_some_iff.1 hs).1
  obtain ⟨sessions, asks⟩ := begun.requestClose_asks i
  let t := u.answered (begun.requestClose i).2.now (begun.requestClose i).1
  refine ⟨t, ?_, ?_, ?_, fun sane live => ?_⟩
  · have found : (begun.requestClose i).2.sessions[i]? = some { s with timer := u } := by
      simp [sessions, started, hi]
    have answered : (begun.notify i).sessions =
        (begun.requestClose i).2.sessions.set i { s with timer := t } := sessions_onTimer found _
    rw [answered, sessions, started, List.set_set]
  · exact (IdleTimer.tokens_answered _ _).trans tokens
  · exact (IdleTimer.Sane.of_released released).answered _ _
  · cases before : s.timer.released with
    | true => exact .inl rfl
    | false =>
      have live' : u.retired = false := retired.trans (sane.not_retired before)
      have there : i < begun.sessions.length := by simpa [started] using hi
      exact .inr (asks (IdleTimer.delivered_of_answered _ live' live) there)

/-- A countdown that wakes moves no handle and no token. -/
theorem wakeCountdown_rests {s : Session} (hs : b.sessions[i]? = some s) (generation : Nat) :
    ∃ s', (b.wakeCountdown i generation).sessions = b.sessions.set i s' ∧ s.Rests s' ∧
      b.Asks (b.wakeCountdown i generation) i s s' := by
  unfold wakeCountdown
  rw [hs]
  dsimp only
  cases fired : (s.timer.awaken generation).fire? generation with
  | none =>
    exact ⟨_, sessions_onTimer hs _, ⟨rfl, rfl, rfl, fun sane => sane.awaken fired⟩,
      fun _ => .inl⟩
  | some u =>
    have retired : u.retired = (s.timer.awaken generation).retired :=
      IdleTimer.retired_of_fire fired
    obtain ⟨t, sessions, tokens, sane, asks⟩ := notify_asks hs
      (IdleTimer.tokens_of_fire fired).1 retired (IdleTimer.released_of_fire fired)
    exact ⟨_, sessions, ⟨rfl, rfl, tokens, fun _ => sane⟩,
      fun sound live => (asks sound live).imp id .inr⟩

/-- A timer that expires moves no token. -/
theorem expire_asks {s : Session} (hs : b.sessions[i]? = some s) :
    ∃ t, (b.expire i).2.sessions = b.sessions.set i { s with timer := t } ∧
      t.tokens = s.timer.tokens ∧ (s.timer.Sane → t.Sane) ∧ (s.timer.Sane → t.released = true →
        s.timer.released = true ∨ .close i ∈ (b.expire i).2.waiting ∨ b.Unheard i) := by
  unfold expire
  rw [hs]
  dsimp only [Option.bind_some]
  cases expired : s.timer.expire? with
  | none =>
    obtain ⟨hi, rfl⟩ := List.getElem?_eq_some_iff.1 hs
    exact ⟨b.sessions[i].timer, (List.set_getElem_self hi).symm, rfl, id, fun _ => .inl⟩
  | some u =>
    obtain ⟨t, sessions, tokens, sane, asks⟩ := notify_asks hs
      (IdleTimer.tokens_of_expire expired) (IdleTimer.retired_of_expire expired)
      (IdleTimer.released_of_expire expired)
    exact ⟨t, sessions, tokens, fun _ => sane, asks⟩

/-- A listener that looks moves no handle and no token. -/
theorem listen_rests {s : Session} (hs : b.sessions[i]? = some s) :
    ∃ s', (b.listen i).sessions = b.sessions.set i s' ∧ s.Rests s' ∧
      b.Asks (b.listen i) i s s' := by
  obtain ⟨hi, rfl⟩ := List.getElem?_eq_some_iff.1 hs
  have changed : ∀ f : Session → Session, (b.onSession i f).sessions =
      b.sessions.set i (f b.sessions[i]) := fun f => List.modify_eq_set_get f hi
  unfold listen
  rw [hs]
  cases b.sessionStream? i with
  | none => exact ⟨b.sessions[i], by simp, .refl _, fun _ => .inl⟩
  | some st =>
    dsimp only
    split
    · let looked := b.onSession i fun x => { x with listener := .done }
      have sessions : looked.sessions =
          b.sessions.set i { b.sessions[i] with listener := .done } := changed _
      have found : looked.sessions[i]? = some { b.sessions[i] with listener := .done } := by
        simp [sessions, hi]
      split
      · rename_i closing
        have released : (looked.onTimer i fun t => t.release.2).sessions =
            b.sessions.set i { b.sessions[i] with
              listener := .done, timer := b.sessions[i].timer.release.2 } := by
          rw [sessions_onTimer found, sessions, List.set_set]
        exact ⟨_, released, ⟨rfl, rfl, IdleTimer.tokens_release, fun _ => .release _⟩,
          fun _ _ => .inr (.inl closing)⟩
      · obtain ⟨t, expired, tokens, sane, asks⟩ := expire_asks found
        have all : (looked.expire i).2.sessions =
            b.sessions.set i { b.sessions[i] with listener := .done, timer := t } := by
          rw [expired, sessions, List.set_set]
        have rests : b.sessions[i].Rests { b.sessions[i] with listener := .done, timer := t } :=
          ⟨rfl, rfl, tokens, sane⟩
        have asked : b.Asks (looked.expire i).2 i b.sessions[i]
            { b.sessions[i] with listener := .done, timer := t } :=
          fun sound live => (asks sound live).imp id .inr
        split
        · exact ⟨_, all, rests, asked⟩
        · exact ⟨_, all, rests, asked⟩
    · exact ⟨_, changed _, ⟨rfl, rfl, rfl, id⟩, fun _ => .inl⟩

end Notifying

variable {b : Broker}

theorem Ticks.refund {b' : Broker} {i : SessionId} (s : Session) (refunded : Bool) (now : Nat) :
    Ticks b b' i s (if refunded then s.refund now else s) := by
  cases refunded with
  | false => exact .keep rfl id fun _ => .inl
  | true =>
    refine .keep rfl (·.giveBack now) fun _ live => .inl ?_
    exact (IdleTimer.released_giveBack now).symm.trans live

theorem Ticks.shut_refund {b' : Broker} {i : SessionId} (fresh : { session := i } ∈ b.closes)
    (s : Session) (refunded : Bool) (now : Nat) :
    Ticks b b' i s (if refunded then s.shut.refund now else s.shut) := by
  have sane : s.shut.timer.Sane := .release _
  cases refunded with
  | false => exact .shut fresh rfl sane
  | true => exact .shut fresh rfl (sane.giveBack now)

/-- The session that a handle is attached to may get back the token of the handle before. -/
theorem Ticks.attach_refund {b' : Broker} {i : SessionId} {h : HandleId} {s s' : Session}
    (noClose : firstClose? b.waiting = none) (noCloseAll : lastCloseAll? b.waiting = none)
    (active : i ∈ b.loop.active) (waits : b.Waits h) (tie : s'.tie = ⟨some h, s.closing⟩)
    (sane : s.timer.Sane → s'.timer.Sane) (released : s'.timer.released = s.timer.released)
    (refunded : Bool) (now : Nat) :
    Ticks b b' i s (if refunded then s'.refund now else s') := by
  cases refunded with
  | false => exact .attach noClose noCloseAll active waits tie sane released
  | true =>
    refine .attach noClose noCloseAll active waits tie (fun h => (sane h).giveBack now) ?_
    exact (IdleTimer.released_giveBack now).trans released

/-- A deed changes every session in one of these ways, or starts a session. -/
theorem Deed.ticks_or_starts {a : Action} (deed : Deed b a (b.step a)) :
    (∃ f : SessionId → Session → Session,
      (∀ i : SessionId, (b.step a).sessions[i]? = (b.sessions[i]?).map (f i)) ∧
        ∀ i s, b.sessions[i]? = some s → Ticks b (b.step a) i s (f i s)) ∨
      ∃ c d instant, (b.step a).sessions = b.sessions ++ [.start c d instant] := by
  have sessionsOf : ∀ {o : Broker}, (b.step a).bonds = o.bonds →
      (b.step a).sessions = o.sessions := congrArg Prod.snd
  have refunds : b.Refunds (b.step a) → ∃ f : SessionId → Session → Session,
      (∀ i : SessionId, (b.step a).sessions[i]? = (b.sessions[i]?).map (f i)) ∧
        ∀ i s, b.sessions[i]? = some s → Ticks b (b.step a) i s (f i s) :=
    fun ⟨refunded, sessions⟩ => ⟨_, sessions, fun i s _ => .refund s (refunded i) b.now⟩
  have left : (b.step a).sessions = b.sessions → ∃ f : SessionId → Session → Session,
      (∀ i : SessionId, (b.step a).sessions[i]? = (b.sessions[i]?).map (f i)) ∧
        ∀ i s, b.sessions[i]? = some s → Ticks b (b.step a) i s (f i s) :=
    fun same => refunds (.of_eq same)
  have rests : ∀ (j : SessionId) (t t' : Session), b.sessions[j]? = some t →
      (b.step a).sessions = b.sessions.set j t' → t.Rests t' → b.Asks (b.step a) j t t' →
      ∃ f : SessionId → Session → Session,
        (∀ i : SessionId, (b.step a).sessions[i]? = (b.sessions[i]?).map (f i)) ∧
          ∀ i s, b.sessions[i]? = some s → Ticks b (b.step a) i s (f i s) := by
    intro j t t' ht sessions rests asks
    refine ⟨fun i s => if j = i then t' else s, fun i => ?_, fun i s hs => ?_⟩
    · rw [sessions, List.getElem?_set']
      by_cases hij : j = i
      · simp [hij, Function.const_def]
      · simp [hij]
    · dsimp only
      by_cases hij : j = i
      · subst hij
        obtain rfl : t = s := Option.some.inj (ht.symm.trans hs)
        rw [if_pos rfl]
        exact .keep rests.tie rests.sane asks
      · rw [if_neg hij]
        exact .keep rfl id fun _ => .inl
  cases deed with
  | quiet same => exact .inl (left (sessionsOf same))
  | create unbound state handles sessions => exact .inl (left sessions)
  | forget g same =>
    have same : (b.step a).sessions = (b.forget g).sessions := sessionsOf same
    exact .inl (left same)
  | disconnect g asked same =>
    obtain ⟨refunded, given⟩ := b.refunds_letGo (some g)
    have same : (b.step a).sessions = (b.letGo (some g)).sessions := sessionsOf same
    exact .inl (refunds ⟨refunded, fun i => by rw [same, given]⟩)
  | observe g same =>
    obtain ⟨refunded, given⟩ := b.refunds_observe g
    exact .inl (refunds ⟨refunded, fun i => by rw [sessionsOf same, given]⟩)
  | @listen j ready same =>
    cases ht : b.sessions[j]? with
    | none =>
      have nothing : b.listen j = b := by simp [Broker.listen, ht]
      exact .inl (left (by rw [same, nothing]))
    | some t =>
      obtain ⟨t', sessions, rest, asks⟩ := listen_rests ht
      rw [← same] at sessions asks
      exact .inl (rests j t t' ht sessions rest asks)
  | wake j generation same =>
    cases ht : b.sessions[j]? with
    | none =>
      have nothing : b.wakeCountdown j generation = b := by simp [wakeCountdown, ht]
      exact .inl (left (by rw [same, nothing]))
    | some t =>
      obtain ⟨t', sessions, rest, asks⟩ := wakeCountdown_rests ht generation
      rw [← same] at sessions asks
      exact .inl (rests j t t' ht sessions rest asks)
  | @shut j t shutting fresh ht handles sessions same =>
    obtain ⟨refunded, given⟩ := shutting.refunds_letGo t.current
    refine .inl ⟨fun i s => if j = i then (if refunded i then t.shut.refund shutting.now else t.shut)
      else if refunded i then s.refund shutting.now else s, fun i => ?_, fun i s hs => ?_⟩
    · rw [sessionsOf same, given, sessions, List.getElem?_set']
      by_cases hij : j = i
      · subst hij
        simp [ht]
      · simp [hij]
    · dsimp only
      by_cases hij : j = i
      · subst hij
        obtain rfl : t = s := Option.some.inj (ht.symm.trans hs)
        rw [if_pos rfl]
        exact .shut_refund fresh t _ _
      · rw [if_neg hij]
        exact .refund s _ _
  | fail reason served handles sessions => exact .inl (left sessions)
  | supersede served handles sessions => exact .inl (left sessions)
  | @attach h share j t x token bound served noClose noCloseAll active takes same =>
    obtain ⟨refunded, given⟩ := bound.refunds_letGo t.current
    have waits : b.Waits h := ⟨x, takes.handle, takes.waits⟩
    obtain ⟨t', set, tie, sane, released⟩ : ∃ t', bound.sessions = b.sessions.set j t' ∧
        t'.tie = ⟨some h, t.closing⟩ ∧ (t.timer.Sane → t'.timer.Sane) ∧
        t'.timer.released = t.timer.released := by
      rcases takes.timer with ⟨u, hu, -, set⟩ | ⟨-, -, set⟩
      · exact ⟨_, set, rfl, (·.acquire hu), IdleTimer.released_of_acquire hu⟩
      · exact ⟨_, set, rfl, id, rfl⟩
    refine .inl ⟨fun i s => if j = i then (if refunded i then t'.refund bound.now else t')
      else if refunded i then s.refund bound.now else s, fun i => ?_, fun i s hs => ?_⟩
    · rw [sessionsOf same, given, set, List.getElem?_set']
      by_cases hij : j = i
      · subst hij
        simp [takes.session]
      · simp [hij]
    · dsimp only
      by_cases hij : j = i
      · subst hij
        obtain rfl : t = s := Option.some.inj (takes.session.symm.trans hs)
        rw [if_pos rfl]
        exact .attach_refund noClose noCloseAll active waits tie sane released _ _
      · rw [if_neg hij]
        exact .refund s _ _
  | @join c d instant handles sessions => exact .inr ⟨c, d, instant, sessions⟩

theorem Reachable.ticks (hr : Reachable b) (a : Action) {i : SessionId} {s : Session}
    (hs : b.sessions[i]? = some s) :
    ∃ s', (b.step a).sessions[i]? = some s' ∧ Ticks b (b.step a) i s s' := by
  rcases (hr.deed a).ticks_or_starts with ⟨f, sessions, ticks⟩ | ⟨c, d, instant, sessions⟩
  · exact ⟨f i s, by rw [sessions, hs]; rfl, ticks i s hs⟩
  · obtain ⟨hi, -⟩ := List.getElem?_eq_some_iff.1 hs
    exact ⟨s, by rw [sessions, List.getElem?_append_left hi, hs], .keep rfl id fun _ => .inl⟩

/-- A session that is new counts down, without a handle or a token. -/
theorem Reachable.started (hr : Reachable b) (a : Action) {i : SessionId} {s : Session}
    (new : b.sessions[i]? = none) (hs : (b.step a).sessions[i]? = some s) :
    ∃ c d instant, s = .start c d instant := by
  rcases (hr.deed a).ticks_or_starts with ⟨f, sessions, -⟩ | ⟨c, d, instant, sessions⟩
  · rw [sessions, new] at hs
    cases hs
  · rw [sessions] at hs
    rcases View.of_getElem?_concat hs with there | ⟨-, rfl⟩
    · cases new.symm.trans there
    · exact ⟨c, d, instant, rfl⟩

theorem sane_start (c : CameraId) (d : DeviceId) (instant : Nat) :
    (Session.start c d instant).timer.Sane := by
  have begun : (Session.start c d instant).timer =
      IdleTimer.arm instant { window := idleWindow } := rfl
  rw [begun]
  apply IdleTimer.Sane.arm
  intro retired
  cases retired

theorem Ticks.sane {b' : Broker} {i : SessionId} {s s' : Session} (ticks : Ticks b b' i s s')
    (sane : s.timer.Sane) : s'.timer.Sane := by
  cases ticks with
  | keep tie kept asks => exact kept sane
  | shut fresh tie now => exact now
  | attach noClose noCloseAll active waits tie kept released => exact kept sane

/-- What holds of every session that is new, and of a session after a step if it held of it before,
holds of every session in every reachable state. -/
theorem Reachable.session_invariant {P : Broker → SessionId → Session → Prop}
    (starts : ∀ b a i c d instant, Reachable b → b.sessions[i]? = none →
      (b.step a).sessions[i]? = some (.start c d instant) → P (b.step a) i (.start c d instant))
    (ticks : ∀ b a i s s', Reachable b → b.sessions[i]? = some s → (b.step a).sessions[i]? = some s' →
      P b i s → Ticks b (b.step a) i s s' → P (b.step a) i s') (hr : Reachable b) :
    ∀ (i : SessionId) (s : Session), b.sessions[i]? = some s → P b i s := by
  refine hr.invariant (P := fun b => ∀ (i : SessionId) (s : Session), b.sessions[i]? = some s →
    P b i s) (fun _ i s hs => ?_) fun b a hb hp i s' hs' => ?_
  · cases (List.getElem?_nil.symm.trans hs : none = some s)
  · cases hs : b.sessions[i]? with
    | none =>
      obtain ⟨c, d, instant, rfl⟩ := hb.started a hs hs'
      exact starts b a i c d instant hb hs hs'
    | some s =>
      obtain ⟨t, ht, ticked⟩ := hb.ticks a hs
      obtain rfl : s' = t := Option.some.inj (hs'.symm.trans ht)
      exact ticks b a i s s' hb hs hs' (hp i s hs) ticked

/-- In every reachable state a live timer without tokens counts down. -/
theorem Reachable.sane (hr : Reachable b) :
    ∀ (i : SessionId) (s : Session), b.sessions[i]? = some s → s.timer.Sane :=
  hr.session_invariant (P := fun _ _ s => s.timer.Sane)
    (fun _ _ _ c d instant _ _ _ => sane_start c d instant)
    fun _ _ _ _ _ _ _ _ sane ticked => ticked.sane sane

end Broker

end CameraBroker
