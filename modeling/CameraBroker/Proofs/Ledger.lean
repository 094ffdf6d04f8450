import CameraBroker.Proofs.SessionMoves

/-! Who holds a device and a token. A bound handle is the current one of the session whose device
it follows, and a timer has handed out as many tokens as handles keep. -/
namespace CameraBroker

structure Seat where
  device : DeviceId
  current : Option HandleId := none
  tokens : Nat := 0

def Session.seat (s : Session) : Seat := ⟨s.device, s.current, s.timer.tokens⟩

def Handle.grip (x : Handle) : Option Binding := x.binding.map fun k => { k with seen := none }

structure Ledger where
  grips : List (Option Binding) := []
  seats : List Seat := []

namespace Ledger

def tokensOf (l : Ledger) (i : SessionId) : Nat :=
  l.grips.countP fun g => g.bind (·.token) = some i

def giveBack (token : Option TimerId) (l : Ledger) : Ledger :=
  match token with
  | none => l
  | some i => { l with seats := l.seats.modify i fun s => { s with tokens := s.tokens - 1 } }

def letGo (h : HandleId) (l : Ledger) : Ledger :=
  match l.grips[h]? with
  | some (some k) => { l with grips := l.grips.set h none }.giveBack k.token
  | _ => l

/-- Every handle that is bound is the current one of a session, but for a loose one that is about
to be let go, and the tokens are counted. -/
structure Coherent (loose : Option HandleId) (l : Ledger) : Prop where
  tokens : ∀ (i : SessionId) (s : Seat), l.seats[i]? = some s → s.tokens = l.tokensOf i
  held : ∀ (h : HandleId) (k : Binding), l.grips[h]? = some (some k) → loose = some h ∨
    ∃ (i : SessionId) (s : Seat), l.seats[i]? = some s ∧ s.current = some h ∧
      k.device = s.device ∧ (k.token = none ∨ k.token = some i)

section
variable {l : Ledger} {loose : Option HandleId}

theorem Coherent.loosen (hl : l.Coherent none) (loose : Option HandleId) : l.Coherent loose :=
  ⟨hl.tokens, fun h k hk => .inr ((hl.held h k hk).resolve_left nofun)⟩

theorem seat_giveBack (token : Option TimerId) {j : SessionId} {s : Seat}
    (hs : l.seats[j]? = some s) :
    ∃ n, (l.giveBack token).seats[j]? = some { s with tokens := n } := by
  cases token with
  | none => exact ⟨s.tokens, hs⟩
  | some i =>
    by_cases hij : i = j
    · exact ⟨s.tokens - 1, by simp [giveBack, hij, hs]⟩
    · exact ⟨s.tokens, by simp [giveBack, hij, hs]⟩

theorem seat_of_giveBack (token : Option TimerId) {j : SessionId} {s : Seat}
    (hs : (l.giveBack token).seats[j]? = some s) :
    ∃ t, l.seats[j]? = some t ∧ s.tokens = t.tokens - if token = some j then 1 else 0 := by
  cases token with
  | none => exact ⟨s, hs, by simp⟩
  | some i =>
    by_cases hij : i = j
    · subst hij
      obtain ⟨t, ht, rfl⟩ : ∃ t, l.seats[i]? = some t ∧ { t with tokens := t.tokens - 1 } = s := by
        simpa [giveBack] using hs
      exact ⟨t, ht, by simp⟩
    · exact ⟨s, by simpa [giveBack, hij] using hs, by simp [hij]⟩

/-- The loose handle is let go. -/
theorem Coherent.letGo {h : HandleId} (hl : l.Coherent (some h)) : (l.letGo h).Coherent none := by
  have unheld : (∀ k, l.grips[h]? ≠ some (some k)) → l.Coherent none := by
    intro none
    refine ⟨hl.tokens, fun g k hk => .inr ((hl.held g k hk).resolve_left fun same => ?_)⟩
    cases same
    exact none k hk
  unfold Ledger.letGo
  split
  · rename_i k hk
    refine ⟨fun i s hs => ?_, fun g m hm => .inr ?_⟩
    · obtain ⟨t, ht, tokens⟩ := seat_of_giveBack k.token hs
      have grips : ({ l with grips := l.grips.set h none }.giveBack k.token).grips =
          l.grips.set h none := by
        cases k.token <;> rfl
      have count := countP_set_add (p := fun g : Option Binding => g.bind (·.token) = some i) hk
        none
      have before := hl.tokens i t ht
      unfold tokensOf at before ⊢
      rw [grips, tokens, before]
      by_cases own : k.token = some i
      · simp [own] at count ⊢
        omega
      · simp [own] at count ⊢
        omega
    · have grips : ({ l with grips := l.grips.set h none }.giveBack k.token).grips =
          l.grips.set h none := by
        cases k.token <;> rfl
      rw [grips] at hm
      rcases View.of_getElem?_set hm with old | ⟨-, none⟩
      · rcases hl.held g m old with same | ⟨i, s, hs, current, device, token⟩
        · obtain rfl : h = g := Option.some.inj same
          obtain ⟨hh, -⟩ := List.getElem?_eq_some_iff.1 hk
          rw [List.getElem?_set_self hh] at hm
          cases hm
        · have hs' : { l with grips := l.grips.set h none }.seats[i]? = some s := hs
          obtain ⟨n, kept⟩ := seat_giveBack k.token hs'
          exact ⟨i, _, kept, current, device, token⟩
      · cases none
  · rename_i none
    exact unheld fun k hk => none k hk

/-- A handle that is new keeps nothing. -/
theorem Coherent.create (hl : l.Coherent none) :
    Coherent none { l with grips := l.grips ++ [none] } := by
  refine ⟨fun i s hs => ?_, fun h k hk => ?_⟩
  · rw [hl.tokens i s hs]
    simp [tokensOf]
  · rcases View.of_getElem?_concat hk with old | ⟨-, none⟩
    · exact hl.held h k old
    · cases none

/-- A session that is new has handed out nothing. -/
theorem Coherent.join (hl : l.Coherent none) (d : DeviceId) :
    Coherent none { l with seats := l.seats ++ [{ device := d }] } := by
  refine ⟨fun i s hs => ?_, fun h k hk => .inr ?_⟩
  · rcases View.of_getElem?_concat hs with old | ⟨rfl, rfl⟩
    · exact hl.tokens i s old
    · -- No handle keeps a token of a session that was not there.
      symm
      unfold tokensOf
      refine List.countP_eq_zero.2 fun g hg token => ?_
      obtain ⟨h, hh⟩ := List.mem_iff_getElem?.1 hg
      obtain ⟨k, rfl, own⟩ := Option.bind_eq_some_iff.1 (of_decide_eq_true token)
      obtain ⟨i, s, hs, -, -, held⟩ := (hl.held h k hh).resolve_left nofun
      have there := (List.getElem?_eq_some_iff.1 hs).1
      rcases held with none | same
      · cases own.symm.trans none
      · obtain rfl : l.seats.length = i := Option.some.inj (own.symm.trans same)
        exact absurd there (Nat.lt_irrefl _)
  · obtain ⟨i, s, hs, rest⟩ := (hl.held h k hk).resolve_left nofun
    have there := (List.getElem?_eq_some_iff.1 hs).1
    exact ⟨i, s, by rw [List.getElem?_append_left there, hs], rest⟩

/-- A session that is being closed forgets its handle. -/
theorem Coherent.shut (hl : l.Coherent none) {i : SessionId} {s : Seat}
    (hs : l.seats[i]? = some s) :
    Coherent s.current { l with seats := l.seats.set i { s with current := none } } := by
  obtain ⟨hi, -⟩ := List.getElem?_eq_some_iff.1 hs
  refine ⟨fun j t ht => ?_, fun h k hk => ?_⟩
  · rcases View.of_getElem?_set ht with old | ⟨rfl, rfl⟩
    · exact hl.tokens j t old
    · exact hl.tokens j s hs
  · obtain ⟨j, t, ht, current, rest⟩ := (hl.held h k hk).resolve_left nofun
    by_cases hij : i = j
    · subst hij
      obtain rfl : s = t := Option.some.inj (hs.symm.trans ht)
      exact .inl current
    · exact .inr ⟨j, t, (List.getElem?_set_ne hij).trans ht, current, rest⟩

/-- A handle that keeps nothing is bound to a session, with a token of its timer or without. -/
theorem Coherent.attach (hl : l.Coherent none) {h : HandleId} {i : SessionId} {s : Seat}
    (hh : l.grips[h]? = some none) (hs : l.seats[i]? = some s) (token : Option TimerId)
    (own : token = none ∨ token = some i) :
    Coherent s.current
      { grips := l.grips.set h (some ⟨s.device, token, none⟩)
        seats := l.seats.set i { s with
          current := some h, tokens := s.tokens + if token = some i then 1 else 0 } } := by
  obtain ⟨there, -⟩ := List.getElem?_eq_some_iff.1 hh
  obtain ⟨hi, -⟩ := List.getElem?_eq_some_iff.1 hs
  have counted : ∀ j, (l.grips.set h (some ⟨s.device, token, none⟩)).countP
      (fun g => g.bind (·.token) = some j) = l.tokensOf j + if token = some j then 1 else 0 := by
    intro j
    have count := countP_set_add (p := fun g : Option Binding => g.bind (·.token) = some j) hh
      (some ⟨s.device, token, none⟩)
    simpa [tokensOf] using count
  refine ⟨fun j t ht => (?_ : t.tokens = _), fun g k hk => ?_⟩
  · unfold tokensOf
    rw [counted]
    by_cases hij : i = j
    · subst hij
      rw [List.getElem?_set_self hi] at ht
      cases ht
      dsimp only
      rw [hl.tokens i s hs]
    · rw [List.getElem?_set_ne hij] at ht
      have other : token ≠ some j := by
        rcases own with rfl | rfl
        · exact nofun
        · exact fun same => hij (Option.some.inj same)
      rw [hl.tokens j t ht, if_neg other, Nat.add_zero]
  · by_cases hgh : h = g
    · subst hgh
      rw [List.getElem?_set_self there] at hk
      cases hk
      exact .inr ⟨i, _, List.getElem?_set_self hi, rfl, rfl, own⟩
    · rw [List.getElem?_set_ne hgh] at hk
      obtain ⟨j, t, ht, current, rest⟩ := (hl.held g k hk).resolve_left nofun
      by_cases hij : i = j
      · subst hij
        obtain rfl : s = t := Option.some.inj (hs.symm.trans ht)
        exact .inl current
      · exact .inr ⟨j, t, (List.getElem?_set_ne hij).trans ht, current, rest⟩

end

end Ledger

namespace Broker

def ledger (b : Broker) : Ledger :=
  ⟨b.handles.map Handle.grip, b.sessions.map Session.seat⟩

section Frames
variable (b : Broker)

theorem ledger_of_bonds {b b' : Broker} (same : b'.bonds = b.bonds) : b'.ledger = b.ledger := by
  have handles : b'.handles = b.handles := congrArg Prod.fst same
  have sessions : b'.sessions = b.sessions := congrArg Prod.snd same
  rw [ledger, handles, sessions]
  rfl

/-- What keeps every grip and every session keeps the ledger. -/
theorem ledger_of_grips {b b' : Broker} {f : HandleId → Handle → Handle}
    (handles : ∀ h : HandleId, b'.handles[h]? = (b.handles[h]?).map (f h))
    (grips : ∀ h x, (f h x).grip = x.grip) (sessions : b'.sessions = b.sessions) :
    b'.ledger = b.ledger := by
  have same : b'.handles.map Handle.grip = b.handles.map Handle.grip := by
    apply List.ext_getElem?
    intro h
    simp [handles, Function.comp_def, grips]
  rw [ledger, same, sessions]
  rfl

theorem seats_onTimer {f : IdleTimer → IdleTimer} {g : Nat → Nat}
    (tokens : ∀ t, (f t).tokens = g t.tokens) (i : TimerId) :
    (b.onTimer i f).sessions.map Session.seat =
      (b.sessions.map Session.seat).modify i fun s => { s with tokens := g s.tokens } := by
  apply List.ext_getElem?
  intro j
  by_cases hij : i = j
  · simp [onTimer, onSession, hij, Session.seat, tokens, Function.comp_def]
  · simp [onTimer, onSession, hij]

theorem ledger_giveBack (token : Option TimerId) :
    (b.giveBack token).ledger = b.ledger.giveBack token := by
  cases token with
  | none => rfl
  | some i =>
    have seats := b.seats_onTimer (f := (·.giveBack b.now)) (g := (· - 1))
      (fun t => t.tokens_giveBack b.now) i
    have same : (b.giveBack (some i)).ledger =
        ⟨b.handles.map Handle.grip, (b.onTimer i (·.giveBack b.now)).sessions.map Session.seat⟩ :=
      rfl
    rw [same, seats]
    rfl

theorem token?_eq_grip (x : Handle) : x.token? = x.grip.bind (·.token) := by
  cases h : x.binding <;> simp [Handle.token?, Handle.grip, h]

/-- A handle that is unbound gives its token back. -/
theorem ledger_setHandle {b : Broker} {h : HandleId} {x y : Handle} (hx : b.handles[h]? = some x)
    (unbound : y.binding = none) :
    ((b.setHandle h y).giveBack x.token?).ledger = b.ledger.letGo h := by
  have grips : (b.setHandle h y).ledger = { b.ledger with grips := b.ledger.grips.set h none } := by
    simp [ledger, setHandle, List.map_set, Handle.grip, unbound]
  have found : b.ledger.grips[h]? = some x.grip := by simp [ledger, hx]
  rw [ledger_giveBack, grips, token?_eq_grip]
  unfold Ledger.letGo
  rw [found]
  cases hg : x.grip with
  | some k => rfl
  | none =>
    have same : b.ledger.grips.set h none = b.ledger.grips := by
      obtain ⟨hh, at'⟩ := List.getElem?_eq_some_iff.1 found
      rw [hg] at at'
      rw [← at', List.set_getElem_self]
    simp [Ledger.giveBack, same]

theorem ledger_disconnect (h : HandleId) : (b.disconnect h).ledger = b.ledger.letGo h := by
  unfold disconnect
  cases hx : b.handles[h]? with
  | none =>
    have none : b.ledger.grips[h]? = none := by simpa [ledger] using hx
    simp [Ledger.letGo, none]
  | some x =>
    let told := if (x.move? .disconnected).isSome then b.emit (.handleDisconnected h x.camera)
      else b
    have same : told.bonds = b.bonds := by
      unfold told
      split <;> rfl
    have hx' : told.handles[h]? = some x := by
      have handles : told.handles = b.handles := congrArg Prod.fst same
      rw [handles, hx]
    rw [← ledger_of_bonds same]
    exact ledger_setHandle hx' rfl

theorem ledger_observe (h : HandleId) :
    (b.observe h).ledger = b.ledger ∨ (b.observe h).ledger = b.ledger.letGo h := by
  unfold observe
  cases hx : b.handles[h]? with
  | none => exact .inl rfl
  | some x =>
    dsimp only
    cases hs : x.binding.bind fun k => b.stream? k.device with
    | none => exact .inl rfl
    | some s =>
      obtain ⟨k, hk, -⟩ := Option.bind_eq_some_iff.1 hs
      dsimp only
      rcases Handle.observe_cases hk s with ⟨-, unbound, -⟩ | ⟨-, bound, -⟩
      · rw [if_neg (by simp [unbound])]
        exact .inr (ledger_setHandle hx unbound)
      · rw [if_pos (by simp [bound])]
        left
        have grip : (x.observe s).grip = x.grip := by simp [Handle.grip, hk, bound]
        have found : (b.handles.map Handle.grip)[h]? = some x.grip := by simp [hx]
        obtain ⟨hh, at'⟩ := List.getElem?_eq_some_iff.1 found
        have same : (b.handles.map Handle.grip).set h x.grip = b.handles.map Handle.grip := by
          rw [← at', List.set_getElem_self]
        simp [ledger, setHandle, List.map_set, grip, same]

theorem ledger_letGo (current : Option HandleId) {l : Ledger} (same : b.ledger = l)
    (hl : l.Coherent current) : (b.letGo current).ledger.Coherent none := by
  subst same
  cases current with
  | none => exact hl
  | some h =>
    have disconnected : (b.letGo (some h)).ledger = b.ledger.letGo h := b.ledger_disconnect h
    rw [disconnected]
    exact hl.letGo

/-- A session whose seat stays keeps the ledger. -/
theorem ledger_of_rests {b b' : Broker} {i : SessionId} {s s' : Session}
    (hs : b.sessions[i]? = some s) (sessions : b'.sessions = b.sessions.set i s')
    (rests : s.Rests s') (handles : b'.handles = b.handles) : b'.ledger = b.ledger := by
  obtain ⟨hi, rfl⟩ := List.getElem?_eq_some_iff.1 hs
  have seat : s'.seat = b.sessions[i].seat := by
    have device : s'.device = b.sessions[i].device := congrArg Face.device rests.face
    have current : s'.current = b.sessions[i].current := congrArg Tie.current rests.tie
    rw [Session.seat, device, current, rests.tokens]
    rfl
  have same : b'.sessions.map Session.seat = b.sessions.map Session.seat := by
    have there : i < (b.sessions.map Session.seat).length := by simpa using hi
    have at' : (b.sessions.map Session.seat)[i] = b.sessions[i].seat := by simp
    rw [sessions, List.map_set, seat, ← at', List.set_getElem_self]
  rw [ledger, same, handles]
  rfl

end Frames

variable {b : Broker}

theorem grip_failed (x : Handle) (reason : OpenFailure) : (x.failed reason).grip = x.grip := by
  rw [Handle.grip, x.binding_failed, Handle.grip]

theorem Takes.ledger {i : SessionId} {h : HandleId} {s : Session} {x : Handle}
    {token : Option TimerId} {bound : Broker} (takes : b.Takes i h s x token bound) :
    bound.ledger = {
      grips := b.ledger.grips.set h (some ⟨s.seat.device, token, none⟩)
      seats := b.ledger.seats.set i { s.seat with
        current := some h, tokens := s.seat.tokens + if token = some i then 1 else 0 } } := by
  have grips : bound.handles.map Handle.grip =
      (b.handles.map Handle.grip).set h (some ⟨s.device, token, none⟩) := by
    simp [takes.handles, List.map_set, Handle.grip]
  have seats : bound.sessions.map Session.seat = (b.sessions.map Session.seat).set i { s.seat with
      current := some h, tokens := s.seat.tokens + if token = some i then 1 else 0 } := by
    rcases takes.timer with ⟨t, ht, rfl, sessions⟩ | ⟨-, rfl, sessions⟩
    · simp [sessions, List.map_set, Session.seat, IdleTimer.tokens_of_acquire ht]
    · simp [sessions, List.map_set, Session.seat]
  rw [Broker.ledger, grips, seats]
  rfl

theorem Takes.own {i : SessionId} {h : HandleId} {s : Session} {x : Handle}
    {token : Option TimerId} {bound : Broker} (takes : b.Takes i h s x token bound) :
    token = none ∨ token = some i := by
  rcases takes.timer with ⟨-, -, own, -⟩ | ⟨-, own, -⟩
  · exact .inr own
  · exact .inl own

/-- A deed keeps the ledger coherent, if a handle that waits follows no device. -/
theorem Deed.coherent {a : Action} (deed : Deed b a (b.step a))
    (fits : ∀ (h : HandleId) (x : Handle), b.handles[h]? = some x → x.Fits)
    (hl : b.ledger.Coherent none) : (b.step a).ledger.Coherent none := by
  cases deed with
  | quiet same => exact ledger_of_bonds same ▸ hl
  | @create y unbound state handles sessions =>
    have same : (b.step a).ledger = { b.ledger with grips := b.ledger.grips ++ [none] } := by
      simp [ledger, handles, sessions, Handle.grip, unbound]
    exact same ▸ hl.create
  | forget g same =>
    have handles : (b.step a).handles = (b.forget g).handles := congrArg Prod.fst same
    have sessions : (b.step a).sessions = b.sessions := congrArg Prod.snd same
    have kept : (b.step a).ledger = b.ledger := by
      refine ledger_of_grips (f := fun h x => if g = h then { x with clients := x.clients - 1 }
        else x) (fun h => ?_) (fun h x => ?_) sessions
      · rw [handles, Broker.forget, List.getElem?_modify]
        rfl
      · split <;> rfl
    exact kept ▸ hl
  | disconnect g asked same =>
    rw [ledger_of_bonds same, ledger_disconnect]
    exact (hl.loosen (some g)).letGo
  | observe g same =>
    rw [ledger_of_bonds same]
    rcases b.ledger_observe g with kept | gone
    · exact kept ▸ hl
    · rw [gone]
      exact (hl.loosen (some g)).letGo
  | @listen i ready same =>
    rw [same]
    cases hs : b.sessions[i]? with
    | none =>
      have nothing : b.listen i = b := by simp [Broker.listen, hs]
      exact nothing.symm ▸ hl
    | some s =>
      obtain ⟨s', sessions, rests, -⟩ := listen_rests hs
      exact ledger_of_rests hs sessions rests (b.handles_listen i) ▸ hl
  | wake i generation same =>
    rw [same]
    cases hs : b.sessions[i]? with
    | none =>
      have nothing : b.wakeCountdown i generation = b := by simp [wakeCountdown, hs]
      exact nothing.symm ▸ hl
    | some s =>
      obtain ⟨s', sessions, rests, -⟩ := wakeCountdown_rests hs generation
      exact ledger_of_rests hs sessions rests (b.handles_wakeCountdown i generation) ▸ hl
  | @shut i s shutting fresh hs handles sessions same =>
    have seat : b.ledger.seats[i]? = some s.seat := by simp [ledger, hs]
    rw [ledger_of_bonds same]
    refine shutting.ledger_letGo s.current ?_ (hl.shut seat)
    simp [ledger, handles, sessions, List.map_set, Session.seat, Session.shut]
  | @fail g share reason served handles sessions =>
    have kept : (b.step a).ledger = b.ledger := by
      refine ledger_of_grips (f := fun h x => if g = h then x.failed reason else x) (fun h => ?_)
        (fun h x => ?_) sessions
      · rw [handles, List.getElem?_modify]
        rfl
      · split
        · exact grip_failed x reason
        · rfl
    exact kept ▸ hl
  | supersede served handles sessions =>
    have kept : (b.step a).ledger = b.ledger := by
      refine ledger_of_grips handles (fun h x => ?_) sessions
      split
      · exact grip_failed x _
      · rfl
    exact kept ▸ hl
  | @attach h share i s x token bound served noClose noCloseAll active takes same =>
    have unbound := (fits h x takes.handle).free takes.waits
    have grip : b.ledger.grips[h]? = some none := by
      simp [ledger, takes.handle, Handle.grip, unbound]
    have seat : b.ledger.seats[i]? = some s.seat := by simp [ledger, takes.session]
    rw [ledger_of_bonds same]
    exact bound.ledger_letGo s.current takes.ledger (hl.attach grip seat token takes.own)
  | @join c d instant handles sessions =>
    have same : (b.step a).ledger =
        { b.ledger with seats := b.ledger.seats ++ [{ device := d }] } := by
      simp [ledger, handles, sessions, Session.start, Session.seat, IdleTimer.arm,
        IdleTimer.start]
    exact same ▸ hl.join d

/-- In every reachable state the ledger is coherent. -/
theorem Reachable.coherent (hr : Reachable b) : b.ledger.Coherent none := by
  refine hr.invariant (P := fun b => b.ledger.Coherent none) (fun s => ?_) fun b a hb hl =>
    (hb.deed a).coherent hb.fits hl
  refine ⟨fun i t ht => ?_, fun h k hk => ?_⟩
  · cases (List.getElem?_nil.symm.trans ht : none = some t)
  · cases (List.getElem?_nil.symm.trans hk : none = some (some k))

/-- A bound handle is the current one of a session. It follows the session's device, and keeps a
token of the session's timer or none. -/
theorem held_of_coherent (hl : b.ledger.Coherent none) {h : HandleId} {x : Handle} {k : Binding}
    (hx : b.handles[h]? = some x) (hk : x.binding = some k) :
    ∃ (i : SessionId) (s : Session), b.sessions[i]? = some s ∧ s.current = some h ∧
      k.device = s.device ∧ (k.token = none ∨ k.token = some i) := by
  have grip : b.ledger.grips[h]? = some (some { k with seen := none }) := by
    simp [ledger, hx, Handle.grip, hk]
  obtain ⟨i, seat, found, current, device, token⟩ := (hl.held h _ grip).resolve_left nofun
  obtain ⟨s, hs, rfl⟩ : ∃ s, b.sessions[i]? = some s ∧ s.seat = seat := by
    simpa [ledger] using found
  exact ⟨i, s, hs, current, device, token⟩

/-- A timer has handed out as many tokens as handles keep. -/
theorem tokens_of_coherent (hl : b.ledger.Coherent none) {i : SessionId} {s : Session}
    (hs : b.sessions[i]? = some s) :
    s.timer.tokens = b.handles.countP fun x => x.token? = some i := by
  have seat : b.ledger.seats[i]? = some s.seat := by simp [ledger, hs]
  have counted := hl.tokens i s.seat seat
  simp only [Ledger.tokensOf, ledger, List.countP_map, Function.comp_def,
    ← token?_eq_grip] at counted
  exact counted

theorem Reachable.held (hr : Reachable b) {h : HandleId} {x : Handle} {k : Binding}
    (hx : b.handles[h]? = some x) (hk : x.binding = some k) :
    ∃ (i : SessionId) (s : Session), b.sessions[i]? = some s ∧ s.current = some h ∧
      k.device = s.device ∧ (k.token = none ∨ k.token = some i) :=
  held_of_coherent hr.coherent hx hk

theorem Reachable.tokens (hr : Reachable b) {i : SessionId} {s : Session}
    (hs : b.sessions[i]? = some s) :
    s.timer.tokens = b.handles.countP fun x => x.token? = some i :=
  tokens_of_coherent hr.coherent hs

end Broker

end CameraBroker
