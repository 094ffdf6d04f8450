import CameraBroker.Proofs.Calm

/-! A session asks to be closed at most once, and never once somebody has begun to close it. Besides
all that happens to a broker, handles may be bound to the session and it may be closed directly, in
any order and any number of times. -/
namespace CameraBroker.Broker
variable {b b' : Broker} {i : SessionId} {s : Session}

inductive SessionAction where
  | act (action : Action)
  | create (camera : CameraId)
  | fail (handle : HandleId) (reason : OpenFailure)
  | connect (session : SessionId) (handle : HandleId)
  | close (session : SessionId)
  | keep (session : SessionId)
  | unkeep (session : SessionId)
  | fill (count : Nat)
  | receive
  | dropReader
deriving DecidableEq

def perform (b : Broker) : SessionAction → Broker
  | .act a => b.step a
  | .create c => b.createHandle c
  | .fail h reason => b.failHandle h reason
  | .connect i h => b.connectTo i h
  | .close i => b.spawnClose i
  | .keep i => b.keep i
  | .unkeep i => b.unkeep i
  | .fill n => (b.fill n).2
  | .receive => b.receive.2
  | .dropReader => b.dropReader

def performAll (actions : List SessionAction) (b : Broker) : Broker := actions.foldl perform b

structure Begins (b : Broker) : Prop where
  accepted : b.acceptedRequests = []
  sessions : ∀ s ∈ b.sessions, ∃ c d now, s = .start c d now

/-- The timer of the session is live and about to notify: its current countdown wakes while no token
is held, or its listener finds that the device is lost. -/
inductive Pleads (b : Broker) (i : SessionId) : SessionAction → Prop where
  | idle {s : Session} (session : b.sessions[i]? = some s) (live : s.timer.released = false)
      (free : s.timer.tokens = 0) (due : s.timer.generation ∈ s.timer.due b.now) :
      Pleads b i (.act (.turn (.countdown i s.timer.generation)))
  | lost {s : Session} {st : Stream} (session : b.sessions[i]? = some s)
      (live : s.timer.released = false) (held : b.holdsSession i = true)
      (stream : b.sessionStream? i = some st) (news : s.canListen st = true)
      (lost : st.isLost = true) : Pleads b i (.act (.turn (.listen i)))

/-- The timer of the session is live and counts down one whole window. -/
def CountsDown (b : Broker) (i : SessionId) : Prop :=
  ∃ s, b.sessions[i]? = some s ∧ s.timer.released = false ∧
    ⟨s.timer.generation, b.now + s.timer.window⟩ ∈ s.timer.countdowns

/-! Notifications. -/

section Notifying

/-- What comes of a notification: nobody hears it, the inbox takes the request, or it is full. -/
inductive Hearing (b : Broker) (i : SessionId) : Bool → Broker → Prop where
  | unheard (deaf : b.Unheard i) : Hearing b i true b
  | taken {b' : Broker} (hears : ¬b.Unheard i) (room : b.inbox.buffer.length < inboxDepth)
      (accepted : b'.acceptedRequests = b.acceptedRequests ++ [.close i])
      (sessions : b'.sessions = b.sessions) : Hearing b i true b'
  | refused {b' : Broker} (hears : ¬b.Unheard i) (full : inboxDepth ≤ b.inbox.buffer.length)
      (accepted : b'.acceptedRequests = b.acceptedRequests)
      (sessions : b'.sessions = b.sessions) (now : b'.now = b.now) : Hearing b i false b'

theorem hearing_requestClose (hs : b.sessions[i]? = some s) :
    b.Hearing i (b.requestClose i).1 (b.requestClose i).2 := by
  unfold requestClose
  rw [hs]
  dsimp only
  split
  · rename_i deaf
    have deaf : b.holdsSession i = false ∨ b.inbox.producers = 0 := by simpa using deaf
    exact .unheard (deaf.imp id .inl)
  · rename_i reaches
    have reaches : b.holdsSession i = true ∧ b.inbox.producers ≠ 0 := by simpa using reaches
    by_cases reader : b.inbox.reader = .open
    · have hears : ¬b.Unheard i := by
        rintro (free | none | closed)
        · cases free.symm.trans reaches.1
        · exact reaches.2 none
        · exact closed reader
      by_cases full : inboxDepth ≤ b.inbox.buffer.length
      · have refused : b.offer (.close i) = .error .full := by
          simp [offer, Inbox.offer, reader, full, Except.map]
        rw [refused]
        exact .refused hears full rfl rfl rfl
      · let grown := { b.inbox with buffer := b.inbox.buffer ++ [Request.close i] }
        have taken : b.offer (.close i) =
            .ok ({ b with inbox := grown }.emit (.accepted (.close i))) := by
          simp [offer, Inbox.offer, reader, full, Except.map, grown]
        rw [taken]
        exact .taken hears (Nat.lt_of_not_le full) List.reverse_cons rfl
    · have closed : b.offer (.close i) = .error .closed := by
        simp [offer, Inbox.offer, reader, Except.map]
      rw [closed]
      exact .unheard (.inr (.inr reader))

/-- What comes of a timer that was just released. The session may differ from the one before in its
listener. -/
inductive Notice (b : Broker) (i : SessionId) (s : Session) (b' : Broker) : Prop where
  | unheard {t : IdleTimer} (deaf : b.Unheard i)
      (accepted : b'.acceptedRequests = b.acceptedRequests)
      (sessions : b'.sessions = b.sessions.set i { s with timer := t })
      (released : t.released = true) (retired : t.retired = s.timer.retired)
  | taken {t : IdleTimer} (hears : ¬b.Unheard i) (room : b.inbox.buffer.length < inboxDepth)
      (accepted : b'.acceptedRequests = b.acceptedRequests ++ [.close i])
      (sessions : b'.sessions = b.sessions.set i { s with timer := t })
      (released : t.released = true) (retired : t.retired = s.timer.retired)
  | refused {t : IdleTimer} (hears : ¬b.Unheard i) (full : inboxDepth ≤ b.inbox.buffer.length)
      (accepted : b'.acceptedRequests = b.acceptedRequests)
      (sessions : b'.sessions = b.sessions.set i { s with timer := t.answered b.now false })
      (released : t.released = true) (retired : t.retired = s.timer.retired) (now : b'.now = b.now)

theorem notice_notify (hs : b.sessions[i]? = some s) {u : IdleTimer} (released : u.released = true)
    (retired : u.retired = s.timer.retired) :
    b.Notice i s ((b.onTimer i fun _ => u).notify i) := by
  let begun := b.onTimer i fun _ => u
  have started : begun.sessions = b.sessions.set i { s with timer := u } := sessions_onTimer hs _
  have hi : i < b.sessions.length := (List.getElem?_eq_some_iff.1 hs).1
  have found : begun.sessions[i]? = some { s with timer := u } := by simp [started, hi]
  have answered : ∀ (o : Broker) (delivered : Bool), o.sessions = begun.sessions →
      (o.onTimer i (·.answered o.now delivered)).sessions =
        b.sessions.set i { s with timer := u.answered o.now delivered } := by
    intro o delivered same
    rw [sessions_onTimer (s := { s with timer := u }) (by rw [same, found]), same, started,
      List.set_set]
  -- Nothing comes of an answer that is no refusal: the timer stays released.
  have final : ∀ now, u.answered now true = u := fun now => if_pos (.inl rfl)
  have hearing := hearing_requestClose found
  have notified : begun.notify i = (begun.requestClose i).2.onTimer i
      (·.answered (begun.requestClose i).2.now (begun.requestClose i).1) := rfl
  rw [notified]
  generalize (begun.requestClose i).1 = delivered at hearing ⊢
  generalize (begun.requestClose i).2 = o at hearing ⊢
  cases hearing with
  | unheard deaf =>
    have sessions := answered begun true rfl
    rw [final] at sessions
    exact .unheard deaf rfl sessions released retired
  | taken hears room accepted sessions =>
    have sessions := answered o true sessions
    rw [final] at sessions
    exact .taken hears room accepted sessions released retired
  | refused hears full accepted sessions now =>
    have clock : o.now = b.now := now
    have sessions := (answered o false sessions).trans (by rw [clock])
    exact .refused hears full accepted sessions released retired clock

/-- The notification is the same if the listener is done. -/
theorem notice_expire (hs : b.sessions[i]? = some s) (live : s.timer.released = false) :
    (b.expire i).1 = true ∧ b.Notice i s (b.expire i).2 := by
  have expires : s.timer.expire? = some { s.timer.callOff with released := true } := by
    simp [IdleTimer.expire?, live]
  unfold expire
  rw [hs]
  simp only [Option.bind_some, expires]
  exact ⟨trivial, notice_notify hs rfl rfl⟩

theorem notice_wake {g : Nat} (hs : b.sessions[i]? = some s) {u : IdleTimer}
    (fires : (s.timer.awaken g).fire? g = some u) : b.Notice i s (b.wakeCountdown i g) := by
  have retired : u.retired = (s.timer.awaken g).retired := IdleTimer.retired_of_fire fires
  unfold wakeCountdown
  rw [hs]
  simp only [fires]
  exact notice_notify hs (IdleTimer.released_of_fire fires) retired

theorem notice_listen {st : Stream} (hs : b.sessions[i]? = some s)
    (live : s.timer.released = false) (stream : b.sessionStream? i = some st)
    (lost : st.isLost = true) (unclosed : s.closing = false) :
    b.Notice i { s with listener := .done } (b.listen i) := by
  let looked := b.onSession i fun x => { x with listener := .done }
  obtain ⟨hi, rfl⟩ := List.getElem?_eq_some_iff.1 hs
  have sessions : looked.sessions = b.sessions.set i { b.sessions[i] with listener := .done } :=
    List.modify_eq_set_get _ hi
  have found : looked.sessions[i]? = some { b.sessions[i] with listener := .done } := by
    simp [sessions, hi]
  obtain ⟨expired, notice⟩ := notice_expire found live
  have pruned : b.listen i = (looked.expire i).2.emit (.sessionPruned i) := by
    unfold listen
    rw [hs, stream]
    simp [lost, unclosed, looked, expired]
  rw [pruned]
  have twice : ∀ x, looked.sessions.set i x = b.sessions.set i x := fun x => by
    rw [sessions, List.set_set]
  generalize (looked.expire i).2 = o at notice
  cases notice with
  | unheard deaf accepted set released retired =>
    exact .unheard deaf accepted (set.trans (twice _)) released retired
  | taken hears room accepted set released retired =>
    exact .taken hears room accepted (set.trans (twice _)) released retired
  | refused hears full accepted set released retired now =>
    exact .refused hears full accepted (set.trans (twice _)) released retired now

end Notifying

/-! One thing that happens. -/

structure Asked (b : Broker) (i : SessionId) (b' : Broker) : Prop where
  accepted : b'.acceptedRequests = b.acceptedRequests ++ [.close i]
  keeps : Keeps b b'
  live : ∃ s, b.sessions[i]? = some s ∧ s.timer.released = false
  released : ∃ s, b'.sessions[i]? = some s ∧ s.timer.released = true

section Steps

/-- A notification is calm unless the inbox takes the request. -/
theorem Notice.calm_or_asked {s' : Session} (notice : b.Notice i s' b')
    (hs : b.sessions[i]? = some s) (live : s.timer.released = false)
    (closing : s'.closing = s.closing) (timer : s'.timer = s.timer) :
    Calm b b' ∨ b.Asked i b' := by
  have onward : ∀ {t : IdleTimer}, t.retired = s'.timer.retired →
      (t.retired = true → t.released = true) → s.Onward { s' with timer := t } := by
    intro t retired last
    have same : t.retired = s.timer.retired := timer ▸ retired
    refine ⟨closing.trans, same.trans, fun released => ?_, fun settled => ⟨fun h => ?_, last⟩⟩
    · cases live.symm.trans released
    · exact same.trans (settled.closing (closing.symm.trans h))
  have calm : b'.acceptedRequests = b.acceptedRequests → Keeps b b' → Calm b b' :=
    fun same keeps => ⟨fun i => by rw [same], keeps⟩
  cases notice with
  | unheard deaf accepted sessions released retired =>
    exact .inl (calm accepted (.of_set hs sessions (onward retired fun _ => released)))
  | taken hears room accepted sessions released retired =>
    obtain ⟨hi, -⟩ := List.getElem?_eq_some_iff.1 hs
    exact .inr ⟨accepted, .of_set hs sessions (onward retired fun _ => released), ⟨s, hs, live⟩,
      _, by rw [sessions, List.getElem?_set_self hi], released⟩
  | @refused t hears full accepted sessions released retired now =>
    refine .inl (calm accepted (.of_set hs sessions (onward ?_ fun again => ?_)))
    · exact (IdleTimer.retired_answered _ _).trans retired
    · have final : t.retired = true := (IdleTimer.retired_answered _ _).symm.trans again
      rw [IdleTimer.answered, if_pos (.inr final)]
      exact released

theorem wake_cases (b : Broker) (i : SessionId) (g : Nat) : Calm b (b.wakeCountdown i g) ∨
    b.Asked i (b.wakeCountdown i g) ∧ ∃ s, b.sessions[i]? = some s ∧ s.timer.released = false ∧
      s.timer.tokens = 0 ∧ s.timer.generation = g := by
  cases hs : b.sessions[i]? with
  | none =>
    have nothing : b.wakeCountdown i g = b := by simp [wakeCountdown, hs]
    rw [nothing]
    exact .inl (.refl b)
  | some s =>
    cases fires : (s.timer.awaken g).fire? g with
    | none =>
      have woken : b.wakeCountdown i g = b.onTimer i fun _ => s.timer.awaken g := by
        simp [wakeCountdown, hs, fires]
      rw [woken]
      refine .inl (.onSession (f := fun x => { x with timer := s.timer.awaken g }) fun t ht => ?_)
      obtain rfl : s = t := Option.some.inj (hs.symm.trans ht)
      exact .of_eq rfl rfl rfl
    | some u =>
      have live : (s.timer.awaken g).released = false := IdleTimer.live_of_fire fires
      rcases (notice_wake hs fires).calm_or_asked hs live rfl rfl with calm | asked
      · exact .inl calm
      · have able := IdleTimer.able_of_fire fires
        exact .inr ⟨asked, s, rfl, live, able⟩

theorem listen_cases (b : Broker) (i : SessionId) : Calm b (b.listen i) ∨
    b.Asked i (b.listen i) ∧ ∃ s st, b.sessions[i]? = some s ∧ s.timer.released = false ∧
      b.sessionStream? i = some st ∧ st.isLost = true := by
  cases hs : b.sessions[i]? with
  | none =>
    have nothing : b.listen i = b := by simp [listen, hs]
    rw [nothing]
    exact .inl (.refl b)
  | some s =>
    have done : Calm b (b.onSession i fun x => { x with listener := .done }) :=
      .onSession fun s _ => .of_eq rfl rfl rfl
    cases stream : b.sessionStream? i with
    | none =>
      have nothing : b.listen i = b := by simp [listen, hs, stream]
      rw [nothing]
      exact .inl (.refl b)
    | some st =>
      cases lost : st.isLost with
      | false =>
        have watches : b.listen i =
            b.onSession i fun x => { x with listener := .watching (some st.version) } := by
          simp [listen, hs, stream, lost]
        rw [watches]
        exact .inl (.onSession fun s _ => .of_eq rfl rfl rfl)
      | true =>
        cases closing : s.closing with
        | true =>
          have released : b.listen i =
              (b.onSession i fun x => { x with listener := .done }).onTimer i
                fun t => t.release.2 := by
            simp [listen, hs, stream, lost, closing]
          rw [released]
          exact .inl (done.trans (.onSession fun s _ => .of_release id rfl))
        | false =>
          cases live : s.timer.released with
          | true =>
            have spent : b.listen i = b.onSession i fun x => { x with listener := .done } := by
              obtain ⟨hi, rfl⟩ := List.getElem?_eq_some_iff.1 hs
              simp [listen, stream, lost, closing, expire, onSession, hi, IdleTimer.expire?, live]
            rw [spent]
            exact .inl done
          | false =>
            have notice := notice_listen hs live stream lost closing
            rcases notice.calm_or_asked hs live rfl rfl with calm | asked
            · exact .inl calm
            · exact .inr ⟨asked, s, st, rfl, live, rfl, lost⟩

theorem ready_countdown {g : Nat} : .countdown i g ∈ b.readyTasks ↔
    ∃ s, b.sessions[i]? = some s ∧ g ∈ s.timer.due b.now := by
  have counts : .countdown i g ∈ b.readyTasks ↔ (i, g) ∈ b.readyCountdowns := by
    simp [readyTasks]
  rw [counts, readyCountdowns, List.mem_flatMap]
  constructor
  · rintro ⟨j, -, mem⟩
    cases hs : b.sessions[j]? with
    | none => simp [hs] at mem
    | some s =>
      obtain ⟨due, rfl⟩ : g ∈ s.timer.due b.now ∧ j = i := by simpa [hs] using mem
      exact ⟨s, hs, due⟩
  · rintro ⟨s, hs, due⟩
    obtain ⟨hi, -⟩ := List.getElem?_eq_some_iff.1 hs
    exact ⟨i, List.mem_range.2 hi, by simpa [hs] using due⟩

theorem ready_listen : .listen i ∈ b.readyTasks ↔ b.holdsSession i = true ∧
    ∃ s st, b.sessions[i]? = some s ∧ b.sessionStream? i = some st ∧ s.canListen st = true := by
  have listens : .listen i ∈ b.readyTasks ↔ i ∈ b.readyListeners := by
    simp [readyTasks]
  rw [listens, readyListeners, List.mem_filter]
  constructor
  · rintro ⟨-, mem⟩
    cases hs : b.sessions[i]? with
    | none => simp [hs] at mem
    | some s =>
      cases stream : b.sessionStream? i with
      | none => simp [hs, stream] at mem
      | some st =>
        have both : b.holdsSession i = true ∧ s.canListen st = true := by
          simpa [hs, stream] using mem
        exact ⟨both.1, s, st, rfl, rfl, both.2⟩
  · rintro ⟨held, s, st, hs, stream, news⟩
    obtain ⟨hi, -⟩ := List.getElem?_eq_some_iff.1 hs
    exact ⟨List.mem_range.2 hi, by simp [held, hs, stream, news]⟩

/-- Whatever happens is calm, or one session asks for its close. -/
theorem calm_or_asked (b : Broker) (a : SessionAction) :
    Calm b (b.perform a) ∨ ∃ i, b.Pleads i a ∧ b.Asked i (b.perform a) := by
  cases a with
  | act a =>
    by_cases listens : ∃ i, a = .turn (.listen i)
    · obtain ⟨i, rfl⟩ := listens
      by_cases ready : .listen i ∈ b.readyTasks
      · have turns : b.perform (.act (.turn (.listen i))) = b.listen i := step_of_ready ready
        rw [turns]
        obtain ⟨held, s, st, hs, stream, news⟩ := ready_listen.1 ready
        rcases b.listen_cases i with calm | ⟨asked, s', st', hs', live, stream', lost⟩
        · exact .inl calm
        · obtain rfl : s = s' := Option.some.inj (hs.symm.trans hs')
          obtain rfl : st = st' := Option.some.inj (stream.symm.trans stream')
          exact .inr ⟨i, .lost hs live held stream news lost, asked⟩
      · have stays : b.perform (.act (.turn (.listen i))) = b := step_of_unready ready
        rw [stays]
        exact .inl (.refl b)
    · by_cases wakes : ∃ i g, a = .turn (.countdown i g)
      · obtain ⟨i, g, rfl⟩ := wakes
        by_cases ready : .countdown i g ∈ b.readyTasks
        · have turns : b.perform (.act (.turn (.countdown i g))) = b.wakeCountdown i g :=
            step_of_ready ready
          rw [turns]
          obtain ⟨s, hs, due⟩ := ready_countdown.1 ready
          rcases b.wake_cases i g with calm | ⟨asked, s', hs', live, free, rfl⟩
          · exact .inl calm
          · obtain rfl : s = s' := Option.some.inj (hs.symm.trans hs')
            exact .inr ⟨i, .idle hs live free due, asked⟩
        · have stays : b.perform (.act (.turn (.countdown i g))) = b := step_of_unready ready
          rw [stays]
          exact .inl (.refl b)
      · exact .inl (.step (fun i same => listens ⟨i, same⟩) (fun i g same => wakes ⟨i, g, same⟩) b)
  | create c => exact .inl (.of_eq rfl rfl)
  | fail h reason => exact .inl (.failHandle h reason b)
  | connect i h => exact .inl (.connectTo i h b)
  | close i => exact .inl (.of_eq rfl rfl)
  | keep i => exact .inl (.of_eq rfl rfl)
  | unkeep i => exact .inl (.of_eq rfl rfl)
  | fill n => exact .inl (.fill n b)
  | receive => exact .inl (.of_eq rfl rfl)
  | dropReader => exact .inl (.of_eq rfl rfl)

end Steps

/-! Whole runs. -/

structure AtMostOnce (b : Broker) : Prop where
  settled : ∀ (i : SessionId) (s : Session), b.sessions[i]? = some s → s.Settled
  once : ∀ i, b.acceptedRequests.count (.close i) ≤ 1
  released : ∀ i, .close i ∈ b.acceptedRequests →
    ∃ s, b.sessions[i]? = some s ∧ s.timer.released = true

section Runs

theorem Begins.atMostOnce (begins : b.Begins) : b.AtMostOnce := by
  refine ⟨fun i s hs => ?_, fun i => ?_, fun i mem => ?_⟩
  · obtain ⟨c, d, now, rfl⟩ := begins.sessions s (List.mem_of_getElem? hs)
    exact Session.settled_start c d now
  · simp [begins.accepted]
  · rw [begins.accepted] at mem
    cases mem

theorem Keeps.settled (h : b.AtMostOnce) (keeps : Keeps b b') :
    ∀ (i : SessionId) (s : Session), b'.sessions[i]? = some s → s.Settled := by
  intro i s' hs'
  cases hs : b.sessions[i]? with
  | none => exact keeps.starts i s' hs hs'
  | some s =>
    obtain ⟨t, ht, onward⟩ := keeps.goesOn i s hs
    obtain rfl : s' = t := Option.some.inj (hs'.symm.trans ht)
    exact onward.settled (h.settled i s hs)

theorem AtMostOnce.perform (h : b.AtMostOnce) (a : SessionAction) : (b.perform a).AtMostOnce := by
  rcases b.calm_or_asked a with calm | ⟨j, -, asked⟩
  · refine ⟨calm.keeps.settled h, fun i => calm.accepted i ▸ h.once i, fun i mem => ?_⟩
    have before : .close i ∈ b.acceptedRequests := by
      rw [← List.count_pos_iff, ← calm.accepted i]
      exact List.count_pos_iff.2 mem
    obtain ⟨s, hs, released⟩ := h.released i before
    obtain ⟨s', hs', onward⟩ := calm.keeps.goesOn i s hs
    exact ⟨s', hs', onward.released released⟩
  · -- A session that has asked before is released, so the one that asks now has not.
    obtain ⟨s, hs, live⟩ := asked.live
    have never : .close j ∉ b.acceptedRequests := fun mem => by
      obtain ⟨t, ht, released⟩ := h.released j mem
      obtain rfl : s = t := Option.some.inj (hs.symm.trans ht)
      cases live.symm.trans released
    refine ⟨asked.keeps.settled h, fun i => ?_, fun i mem => ?_⟩
    · rw [asked.accepted, List.count_append]
      by_cases hij : i = j
      · subst hij
        simp [List.count_eq_zero_of_not_mem never]
      · have other : [Request.close j].count (.close i) = 0 := by simp [Ne.symm hij]
        rw [other]
        exact h.once i
    · rw [asked.accepted] at mem
      rcases List.mem_append.1 mem with old | new
      · obtain ⟨t, ht, released⟩ := h.released i old
        obtain ⟨t', ht', onward⟩ := asked.keeps.goesOn i t ht
        exact ⟨t', ht', onward.released released⟩
      · obtain rfl : i = j := by simpa using new
        exact asked.released

theorem AtMostOnce.performAll (h : b.AtMostOnce) (actions : List SessionAction) :
    (b.performAll actions).AtMostOnce := by
  induction actions generalizing b with
  | nil => exact h
  | cons a actions ih => exact ih (h.perform a)

/-- Once somebody has begun to close the session, it asks for nothing any more. -/
theorem AtMostOnce.silent (h : b.AtMostOnce) (hs : b.sessions[i]? = some s)
    (closing : s.closing = true) (a : SessionAction) :
    (b.perform a).acceptedRequests.count (.close i) = b.acceptedRequests.count (.close i) ∧
      ∃ s', (b.perform a).sessions[i]? = some s' ∧ s'.closing = true := by
  have settled := h.settled i s hs
  rcases b.calm_or_asked a with calm | ⟨j, -, asked⟩
  · obtain ⟨s', hs', onward⟩ := calm.keeps.goesOn i s hs
    exact ⟨calm.accepted i, s', hs', onward.closing closing⟩
  · have other : i ≠ j := by
      rintro rfl
      obtain ⟨t, ht, live⟩ := asked.live
      obtain rfl : s = t := Option.some.inj (hs.symm.trans ht)
      cases live.symm.trans (settled.retired (settled.closing closing))
    obtain ⟨s', hs', onward⟩ := asked.keeps.goesOn i s hs
    refine ⟨?_, s', hs', onward.closing closing⟩
    rw [asked.accepted, List.count_append]
    simp [other.symm]

theorem AtMostOnce.silent_run (h : b.AtMostOnce) (hs : b.sessions[i]? = some s)
    (closing : s.closing = true) (actions : List SessionAction) :
    (b.performAll actions).acceptedRequests.count (.close i) =
      b.acceptedRequests.count (.close i) := by
  induction actions generalizing b s with
  | nil => rfl
  | cons a actions ih =>
    obtain ⟨same, s', hs', closing⟩ := h.silent hs closing a
    exact (ih (h.perform a) hs' closing).trans same

/-- A task that is to close a session can go on at once, and its first turn marks the session as
closing. -/
theorem closing_of_firstTurn {k : Nat} (fresh : b.closes[k]? = some ⟨i, .fresh⟩)
    (hs : b.sessions[i]? = some s) :
    ∃ s', (b.perform (.act (.turn (.close k)))).sessions[i]? = some s' ∧ s'.closing = true := by
  obtain ⟨hk, -⟩ := List.getElem?_eq_some_iff.1 fresh
  have closes : k ∈ b.readyCloses :=
    List.mem_filter.2 ⟨List.mem_range.2 hk, by simp [fresh, closeReady]⟩
  have ready : .close k ∈ b.readyTasks := by simp [readyTasks, closes]
  have turns : b.perform (.act (.turn (.close k))) = b.resumeClose k := step_of_ready ready
  obtain ⟨shutting, -, sessions, same⟩ := beginClose_bonds hs
  have begun : (b.resumeClose k).sessions = (b.beginClose i).2.sessions := by
    simp only [resumeClose, fresh]
    cases b.beginClose i with
    | mk started o => cases started <;> rfl
  have left : (b.beginClose i).2.sessions = (shutting.letGo s.current).sessions :=
    congrArg Prod.snd same
  obtain ⟨hi, -⟩ := List.getElem?_eq_some_iff.1 hs
  have shut : shutting.sessions[i]? = some s.shut := by rw [sessions, List.getElem?_set_self hi]
  obtain ⟨s', hs', onward⟩ := (Calm.letGo s.current shutting).keeps.goesOn i s.shut shut
  exact ⟨s', by rw [turns, begun, left, hs'], onward.closing rfl⟩

end Runs

section Outcomes

/-- A live timer that is about to notify does. -/
theorem Pleads.notice {a : SessionAction} (pleads : b.Pleads i a)
    (settled : ∀ s, b.sessions[i]? = some s → s.Settled) :
    ∃ s, s.timer.retired = false ∧ i < b.sessions.length ∧ b.Notice i s (b.perform a) := by
  have unretired : ∀ s, b.sessions[i]? = some s → s.timer.released = false →
      s.timer.retired = false := by
    intro s hs live
    by_contra retired
    cases live.symm.trans ((settled s hs).retired (by simpa using retired))
  cases pleads with
  | @idle s hs live free due =>
    have ready : .countdown i s.timer.generation ∈ b.readyTasks := ready_countdown.2 ⟨s, hs, due⟩
    have turns : b.perform (.act (.turn (.countdown i s.timer.generation))) =
        b.wakeCountdown i s.timer.generation := step_of_ready ready
    have fires : (s.timer.awaken s.timer.generation).fire? s.timer.generation =
        some { s.timer.awaken s.timer.generation with released := true } := by
      simp [IdleTimer.fire?, IdleTimer.awaken, live, free]
    rw [turns]
    exact ⟨s, unretired s hs live, (List.getElem?_eq_some_iff.1 hs).1, notice_wake hs fires⟩
  | @lost s st hs live held stream news lost =>
    have ready : .listen i ∈ b.readyTasks := ready_listen.2 ⟨held, s, st, hs, stream, news⟩
    have turns : b.perform (.act (.turn (.listen i))) = b.listen i := step_of_ready ready
    have unclosed : s.closing = false := by
      by_contra closing
      cases (unretired s hs live).symm.trans ((settled s hs).closing (by simpa using closing))
    rw [turns]
    exact ⟨{ s with listener := .done }, unretired s hs live, (List.getElem?_eq_some_iff.1 hs).1,
      notice_listen hs live stream lost unclosed⟩

/-- If the inbox has room, it takes the request. -/
theorem Notice.accepted_of_room (notice : b.Notice i s b') (hears : ¬b.Unheard i)
    (room : b.inbox.buffer.length < inboxDepth) :
    b'.acceptedRequests = b.acceptedRequests ++ [.close i] := by
  cases notice with
  | unheard deaf => exact absurd deaf hears
  | taken _ _ accepted => exact accepted
  | refused _ full => exact absurd full (Nat.not_le.2 room)

/-- If the inbox is full, the timer is live again and counts down one more window. -/
theorem Notice.countsDown_of_full (notice : b.Notice i s b') (unretired : s.timer.retired = false)
    (there : i < b.sessions.length) (hears : ¬b.Unheard i)
    (full : inboxDepth ≤ b.inbox.buffer.length) :
    b'.acceptedRequests = b.acceptedRequests ∧ b'.CountsDown i := by
  cases notice with
  | unheard deaf => exact absurd deaf hears
  | taken _ room => exact absurd full (Nat.not_le.2 room)
  | @refused t _ _ accepted sessions released retired now =>
    have revived : t.answered b.now false = { t with released := false }.start b.now := by
      refine if_neg ?_
      simp [retired, unretired]
    rw [revived] at sessions
    refine ⟨accepted, _, by rw [sessions, List.getElem?_set_self there], rfl, ?_⟩
    rw [now]
    exact List.mem_append_right _ List.mem_cons_self

end Outcomes

/-! Where runs begin. -/

theorem begins_setup (s : Setup) : s.broker.Begins := by
  refine ⟨?_, fun t mem => nomatch mem⟩
  rw [← view_accepted, view_start]
  rfl

theorem begins_withSession {d : DeviceId} {hw : Hardware} (accepted : hw.accepted = []) :
    (withSession (d, hw)).Begins := by
  unfold withSession startSession
  cases hw.devices[d]? with
  | none => exact ⟨accepted, fun t mem => nomatch mem⟩
  | some x =>
    refine ⟨accepted, fun t mem => ?_⟩
    obtain rfl := List.mem_singleton.1 mem
    exact ⟨_, _, _, rfl⟩

theorem begins_manualSession (c : CameraId) (state : DeviceState) (onClose : OnClose) :
    (manualSession c state onClose).Begins := begins_withSession rfl

theorem begins_simulatedSession (c : CameraId) (closeLatency : Nat) :
    (simulatedSession c closeLatency).Begins := by
  have begun := Hardware.accepted_beginOpen c (Hardware.addCamera c { closeLatency })
  have none : (Hardware.addCamera c { closeLatency }).accepted = [] := rfl
  unfold simulatedSession
  split
  · rename_i d due hw opening
    rw [opening] at begun
    have finished := Hardware.accepted_of_operates (.finishOpen c d hw)
    exact begins_withSession (finished.trans (begun.trans none))
  · rename_i e hw failed
    rw [failed] at begun
    exact begins_withSession (begun.trans none)

/-- In every run a session asks for its close at most once, and never once somebody has begun to
close it: only its live timer makes it ask. A notification that is heard is accepted if the inbox has
room. If the inbox is full, nothing is accepted and the timer is live again, so that it can ask
later. -/
theorem asks_once {b₀ : Broker} {actions : List SessionAction} (begins : b₀.Begins)
    (run : b₀.performAll actions = b) (i : SessionId) :
    b.acceptedRequests.count (.close i) ≤ 1 ∧
    (∀ s, b.sessions[i]? = some s → s.closing = true → ∀ more,
      (b.performAll more).acceptedRequests.count (.close i) =
        b.acceptedRequests.count (.close i)) ∧
    (∀ a, b.acceptedRequests.count (.close i) < (b.perform a).acceptedRequests.count (.close i) →
      b.Pleads i a) ∧
    (∀ a, b.Pleads i a → ¬b.Unheard i →
      (b.inbox.buffer.length < inboxDepth →
        (b.perform a).acceptedRequests = b.acceptedRequests ++ [.close i]) ∧
      (inboxDepth ≤ b.inbox.buffer.length →
        (b.perform a).acceptedRequests = b.acceptedRequests ∧ (b.perform a).CountsDown i)) := by
  have h : b.AtMostOnce := run ▸ begins.atMostOnce.performAll actions
  refine ⟨h.once i, fun s hs closing more => h.silent_run hs closing more, fun a more => ?_,
    fun a pleads hears => ?_⟩
  · rcases b.calm_or_asked a with calm | ⟨j, pleads, asked⟩
    · exact absurd (calm.accepted i) (Nat.ne_of_gt more)
    · by_cases hij : j = i
      · exact hij ▸ pleads
      · rw [asked.accepted, List.count_append] at more
        simp [hij] at more
  · obtain ⟨s, unretired, there, notice⟩ := pleads.notice (h.settled i)
    exact ⟨notice.accepted_of_room hears, notice.countsDown_of_full unretired there hears⟩

/-- The idle timer of a session fires while the inbox is full, and the next window goes by. -/
def refusedFirst : Broker :=
  (manualSession front .open .closed).performAll
    [.fill 8, .act (.elapse 1000), .act (.turn (.countdown 0 1)), .receive, .act (.elapse 1000)]

def closeBegun : Broker :=
  (simulatedSession front 30).performAll [.close 0, .act (.turn (.close 0))]

theorem asks_once_refusedFirst : (.close 0 ∉ refusedFirst.acceptedRequests ∧
    (refusedFirst.perform (.act (.turn (.countdown 0 2)))).acceptedRequests =
      refusedFirst.acceptedRequests ++ [.close 0]) ∧
    ∀ more, .close 0 ∉ (closeBegun.performAll more).acceptedRequests := by
  constructor
  · have session : (refusedFirst.sessions[0]?).map (fun s =>
        (s.timer.generation, s.timer.released, s.timer.tokens, s.timer.due refusedFirst.now)) =
          some (2, false, 0, [2]) := by decide
    obtain ⟨s, hs, same⟩ := Option.map_eq_some_iff.1 session
    obtain ⟨generation, live, free, due⟩ : s.timer.generation = 2 ∧ s.timer.released = false ∧
        s.timer.tokens = 0 ∧ s.timer.due refusedFirst.now = [2] := by simpa using same
    have pleads : refusedFirst.Pleads 0 (.act (.turn (.countdown 0 2))) := by
      rw [← generation]
      exact .idle hs live free (by simp [generation, due])
    have hears : ¬refusedFirst.Unheard 0 := by
      rintro (free | none | closed)
      · exact absurd free (by decide)
      · exact absurd none (by decide)
      · exact closed (by decide)
    obtain ⟨-, -, -, heard⟩ := asks_once (begins_manualSession front .open .closed)
      (rfl : _ = refusedFirst) 0
    exact ⟨by decide, (heard _ pleads hears).1 (by decide)⟩
  · intro more
    let spawned := (simulatedSession front 30).perform (.close 0)
    have begun : closeBegun = spawned.perform (.act (.turn (.close 0))) := by
      simp only [closeBegun, spawned, performAll, List.foldl_cons, List.foldl_nil]
    have fresh : spawned.closes[0]? = some ⟨0, .fresh⟩ := by decide
    have session : spawned.sessions[0]?.isSome := by decide
    obtain ⟨s₀, hs₀⟩ := Option.isSome_iff_exists.1 session
    obtain ⟨s, hs, closing⟩ := closing_of_firstTurn fresh hs₀
    rw [← begun] at hs
    obtain ⟨-, silent, -, -⟩ := asks_once (begins_simulatedSession front 30)
      (rfl : _ = closeBegun) 0
    have before : closeBegun.acceptedRequests.count (.close 0) = 0 := by decide
    exact List.count_eq_zero.1 ((silent s hs closing more).trans before)

end CameraBroker.Broker
