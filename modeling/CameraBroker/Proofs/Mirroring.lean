import CameraBroker.Proofs.DeviceLog
import CameraBroker.Proofs.ExternalClosure
import CameraBroker.Proofs.HandleLife
import CameraBroker.Proofs.TimerMoves

/-! How a bound handle follows its device. The observer sees the latest state only, whenever it comes to
look. Once it has nothing to look at any more, the handle shows where the device stands, whatever was
published in between, and a disconnect freezes it. -/
namespace CameraBroker

/-- At rest, a handle that was connected with this token shows where its device stands. -/
structure Handle.Mirrors (token : Option TimerId) (x : Handle) (s : Stream) : Prop where
  connected : x.state = .connected ∧ x.binding.isSome = true ∧ x.token? = token ↔
    s.live = true ∧ (s.state = .unopened ∨ s.state = .opening ∨ s.state = .open)
  disconnected : x.state = .disconnected ∧ x.binding.isSome = true ∧ x.token? = token ↔
    s.live = true ∧ s.state = .closing
  closed : x.state = .closed ∧ x.binding = none ∧ x.token? = none ↔
    s.state = .closed ∨ s.live = false

/-- A handle and the stream that it was connected to, as long as nobody else lets go of it: it follows
the stream, which may be ahead of it, or it has seen the end. -/
inductive Handle.Tracks (d : DeviceId) (token : Option TimerId) (x : Handle) (s : Stream) : Prop where
  | follows {k : Binding} (bound : x.binding = some k) (device : k.device = d)
      (kept : k.token = token) (early : ∀ v, k.seen = some v → v ≤ s.version)
      (state : x.state = .connected ∨ x.state = .disconnected ∧ s.state.isTearingDown = true)
      (seen : k.seen = some s.version →
        s.state ≠ .closed ∧ (s.state = .closing → x.state = .disconnected))
  | ended (unbound : x.binding = none) (closed : x.state = .closed) (gone : s.isGone = true)

namespace Handle.Tracks
variable {d : DeviceId} {token : Option TimerId} {x y : Handle} {s : Stream}

theorem of_same (h : x.Tracks d token s) (same : x.Same y) : y.Tracks d token s := by
  cases h with
  | follows bound device kept early state seen =>
    rw [← same.state] at state seen
    exact .follows (same.binding.trans bound) device kept early state seen
  | ended unbound closed gone =>
    exact .ended (same.binding.trans unbound) (same.state.trans closed) gone

theorem resolved (h : x.Tracks d token s) : x.state ≠ .unopened := by
  cases h with
  | follows bound device kept early state seen =>
    rcases state with state | ⟨state, -⟩ <;> simp [state]
  | ended unbound closed gone => simp [closed]

theorem taken (d : DeviceId) (token : Option TimerId) (x : Handle) (s : Stream) :
    (x.taken d token).Tracks d token s :=
  .follows rfl rfl rfl nofun (.inl rfl) nofun

theorem tearingDown_of_rank_le {a b : DeviceState} (h : a.rank ≤ b.rank)
    (tearing : a.isTearingDown = true) : b.isTearingDown = true := by
  revert h tearing
  cases a <;> cases b <;> decide

theorem closed_of_rank_le {a : DeviceState} (h : DeviceState.closed.rank ≤ a.rank) :
    a = .closed := by
  revert h
  cases a <;> decide

/-- A publication is news for everyone. -/
theorem publish (h : x.Tracks d token s) (live : s.live = true) {state : DeviceState}
    (forward : s.state.rank ≤ state.rank) : x.Tracks d token (s.publish state) := by
  cases h with
  | follows bound device kept early stands seen =>
    refine .follows bound device kept (fun v hv => Nat.le_succ_of_le (early v hv)) ?_ fun now => ?_
    · exact stands.imp_right fun ⟨disconnected, tearing⟩ =>
        ⟨disconnected, tearingDown_of_rank_le forward tearing⟩
    · exact absurd (early _ now) (Nat.not_succ_le_self _)
  | ended unbound closed gone =>
    have last : s.state = .closed := by simpa [Stream.isGone, live] using gone
    have still : state = .closed := closed_of_rank_le (last ▸ forward)
    exact .ended unbound closed (by simp [Stream.isGone, Stream.publish, still])

theorem drop (h : x.Tracks d token s) : x.Tracks d token s.drop := by
  cases h with
  | follows bound device kept early state seen =>
    exact .follows bound device kept early state seen
  | ended unbound closed gone =>
    exact .ended unbound closed (by simp [Stream.isGone, Stream.drop])

theorem moveTo_disconnected (h : x.state = .connected ∨ x.state = .disconnected) :
    (x.moveTo .disconnected).state = .disconnected := by
  unfold Handle.moveTo Handle.move?
  rcases h with h | h <;> simp [h, HandleState.canMoveTo, HandleState.rank]

theorem observe (h : x.Tracks d token s) : (x.observe s).Tracks d token s := by
  cases h with
  | follows bound device kept early state seen =>
    rcases Handle.observe_cases bound s with ⟨gone, unbound, closed⟩ | ⟨alive, bound', moved⟩
    · exact .ended unbound closed gone
    · have unclosed : s.state ≠ .closed := by
        intro closed
        simp [Stream.isGone, closed] at alive
      have early' : ∀ v, some s.version = some v → v ≤ s.version := fun v same =>
        Nat.le_of_eq (Option.some.inj same).symm
      by_cases closing : s.state = .closing
      · have disconnected : (x.observe s).state = .disconnected := by
          have leaves := moveTo_disconnected (state.imp_right And.left)
          unfold Handle.observe
          simp [bound, alive, closing, leaves]
        exact .follows bound' device kept early' (.inr ⟨disconnected, by simp [closing,
          DeviceState.isTearingDown]⟩) fun _ => ⟨unclosed, fun _ => disconnected⟩
      · have same : (x.observe s).state = x.state :=
          moved.resolve_right fun moved => closing moved.1
        exact .follows bound' device kept early' (same ▸ state) fun _ =>
          ⟨unclosed, fun now => absurd now closing⟩
  | ended unbound closed gone =>
    have still : x.observe s = x := by simp [Handle.observe, unbound]
    rw [still]
    exact .ended unbound closed gone

/-- The observer has nothing to look at, so it has seen all there is. -/
theorem mirrors (h : x.Tracks d token s) (rest : x.canObserve s = false) : x.Mirrors token s := by
  cases h with
  | @follows k bound device kept early state seen =>
    have looked : k.seen = some s.version ∧ s.live = true := by
      simpa [Handle.canObserve, bound, Stream.hasNews] using rest
    obtain ⟨unclosed, closing⟩ := seen looked.1
    have kept : x.token? = token := by simp [Handle.token?, bound, kept]
    have bound : x.binding.isSome = true := by simp [bound]
    have unbound : x.binding ≠ none := Option.isSome_iff_ne_none.1 bound
    rcases state with connected | ⟨disconnected, tearing⟩
    · have up : s.state ≠ .closing := fun now => nomatch connected.symm.trans (closing now)
      refine ⟨⟨fun _ => ⟨looked.2, ?_⟩, fun _ => ⟨connected, bound, kept⟩⟩, ?_, ?_⟩
      · cases now : s.state <;> simp_all
      · simp [connected, up]
      · simp [connected, unclosed, looked.2]
    · have down : s.state = .closing := by
        cases now : s.state <;> simp_all [DeviceState.isTearingDown]
      refine ⟨?_, ⟨fun _ => ⟨looked.2, down⟩, fun _ => ⟨disconnected, bound, kept⟩⟩, ?_⟩
      · simp [disconnected, down]
      · simp [disconnected, down, looked.2]
  | ended unbound closed gone =>
    have nothing : x.token? = none := by simp [Handle.token?, unbound]
    have finished : s.state = .closed ∨ s.live = false := by simpa [Stream.isGone] using gone
    refine ⟨?_, ?_, ⟨fun _ => finished, fun _ => ⟨closed, unbound, nothing⟩⟩⟩
    · rcases finished with finished | finished <;> simp [closed, finished]
    · rcases finished with finished | finished <;> simp [closed, finished]

end Handle.Tracks

namespace HandleBench
variable {b start : HandleBench} {h i : HandleId} {d : DeviceId} {x y : Handle} {s : Stream}
  {token : Option TimerId}

def offered (takeToken : Bool) (b : HandleBench) : Option TimerId :=
  if takeToken = true ∧ b.timer.released = false then some benchTimer else none

/-- What is published on the stream moves its device forward, and only while it has a publisher. -/
def MovesForward (d : DeviceId) (b : HandleBench) : Act → Prop
  | .publish e state => e = d → ∀ s, b.streams[d]? = some s →
      s.live = true ∧ s.state.rank ≤ state.rank
  | _ => True

def Keeps (h : HandleId) (b : HandleBench) : Act → Prop
  | .disconnect i => i ≠ h
  | .forget i => i = h → ∀ x, b.handles[h]? = some x → 1 < x.clients
  | _ => True

def Undisturbed (h : HandleId) (d : DeviceId) : List Act → HandleBench → Prop
  | [], _ => True
  | a :: acts, b => (MovesForward d b a ∧ Keeps h b a) ∧ Undisturbed h d acts (b.act a)

section Steps

theorem connect_outcome (hx : b.handles[i]? = some x) (d : DeviceId) (takeToken : Bool) :
    x.state = .unopened ∧ (b.connect i d takeToken).1 = true ∧
      (b.connect i d takeToken).2.handles = b.handles.set i (x.taken d (b.offered takeToken)) ∧
      (b.connect i d takeToken).2.timer.tokens =
        b.timer.tokens + (if (b.offered takeToken).isSome then 1 else 0) ∨
    x.state ≠ .unopened ∧ (b.connect i d takeToken).1 = false ∧
      (b.connect i d takeToken).2.handles = b.handles ∧
      (b.connect i d takeToken).2.timer.tokens = b.timer.tokens := by
  unfold connect offered
  rw [hx]
  by_cases wanted : takeToken = true ∧ b.timer.released = false
  · obtain ⟨rfl, live⟩ := wanted
    have taken : b.timer.acquire? =
        some { b.timer.callOff with tokens := b.timer.tokens + 1 } := by
      simp [IdleTimer.acquire?, live]
    by_cases waits : x.state = .unopened
    · simp [taken, connect?_eq, waits, setHandle, live]
    · simp [taken, connect?_eq, waits, giveBack]
  · have refused : (if takeToken = true then b.timer.acquire? else none) = none := by
      split
      · exact IdleTimer.acquire?_eq_none.2 (by simp_all)
      · rfl
    by_cases waits : x.state = .unopened
    · simp [refused, connect?_eq, waits, setHandle, wanted]
    · simp [refused, connect?_eq, waits, giveBack]

theorem streams_giveBack (token : Option TimerId) : (b.giveBack token).streams = b.streams := by
  cases token <;> rfl

theorem streams_connect (i : HandleId) (d : DeviceId) (takeToken : Bool) :
    (b.connect i d takeToken).2.streams = b.streams := by
  unfold connect
  cases b.handles[i]? with
  | none => rfl
  | some x =>
    dsimp only
    cases if takeToken then b.timer.acquire? else none with
    | none => dsimp only; split <;> rfl
    | some t => dsimp only; split <;> rfl

/-- Only a publication and the loss of the publisher change a stream. -/
theorem act_stream (hs : b.streams[d]? = some s) (a : Act) :
    ∃ s', (b.act a).streams[d]? = some s' ∧ (s' = s ∨
      (∃ state, a = .publish d state ∧ s' = s.publish state) ∨
      a = .dropPublisher d ∧ s' = s.drop) := by
  have same : (b.act a).streams = b.streams → (b.act a).streams[d]? = some s :=
    fun streams => by rw [streams, hs]
  have changed : ∀ (f : Stream → Stream) (e : DeviceId),
      (b.onStream f e).streams[d]? = some (if e = d then f s else s) := by
    intro f e
    rw [onStream, List.getElem?_modify, hs]
    by_cases here : e = d <;> simp [here]
  cases a with
  | create c => exact ⟨s, hs, .inl rfl⟩
  | share i =>
    refine ⟨s, same ?_, .inl rfl⟩
    simp only [act, share]
    split <;> rfl
  | forget i =>
    refine ⟨s, same ?_, .inl rfl⟩
    simp only [act, forget]
    split
    · rfl
    · split
      · exact streams_giveBack _
      · rfl
  | addStream state =>
    obtain ⟨hd, -⟩ := List.getElem?_eq_some_iff.1 hs
    exact ⟨s, (List.getElem?_append_left hd).trans hs, .inl rfl⟩
  | publish e state =>
    refine ⟨_, changed (·.publish state) e, ?_⟩
    by_cases here : e = d
    · subst here
      exact .inr (.inl ⟨state, rfl, if_pos rfl⟩)
    · exact .inl (if_neg here)
  | dropPublisher e =>
    refine ⟨_, changed (·.drop) e, ?_⟩
    by_cases here : e = d
    · subst here
      exact .inr (.inr ⟨rfl, if_pos rfl⟩)
    · exact .inl (if_neg here)
  | connect i e takeToken => exact ⟨s, same (streams_connect i e takeToken), .inl rfl⟩
  | fail i reason =>
    refine ⟨s, same ?_, .inl rfl⟩
    simp only [act, fail]
    split
    · rfl
    · split <;> rfl
  | disconnect i =>
    refine ⟨s, same ?_, .inl rfl⟩
    simp only [act, disconnect]
    split
    · rfl
    · rw [streams_giveBack]
      split <;> rfl
  | observe i =>
    refine ⟨s, same ?_, .inl rfl⟩
    simp only [act, observe]
    split
    · rfl
    · split
      · rfl
      · split
        · rfl
        · exact streams_giveBack _
  | wakeCountdown generation =>
    refine ⟨s, same ?_, .inl rfl⟩
    simp only [act, wakeCountdown]
    split <;> rfl
  | elapse ms => exact ⟨s, hs, .inl rfl⟩

def Act.handle? : Act → Option HandleId
  | .share i | .forget i | .connect i _ _ | .fail i _ | .disconnect i | .observe i => some i
  | _ => none

/-- What is done to one handle leaves the others alone. -/
theorem act_of_other (hx : b.handles[h]? = some x) {a : Act} (other : a.handle? ≠ some h) :
    (b.act a).handles[h]? = some x := by
  obtain ⟨hh, -⟩ := List.getElem?_eq_some_iff.1 hx
  have elsewhere : ∀ {i : HandleId} {l : List Handle} (y : Handle), some i ≠ some h →
      l = b.handles.set i y → l[h]? = some x := by
    rintro i l y other rfl
    rw [List.getElem?_set_ne fun same => other (congrArg some same), hx]
  cases a with
  | create c => exact (List.getElem?_append_left hh).trans hx
  | share i =>
    simp only [act, share]
    split
    · exact hx
    · exact elsewhere _ other rfl
  | forget i =>
    simp only [act, forget]
    split
    · exact hx
    · split
      · exact elsewhere _ other (handles_giveBack _ _)
      · exact elsewhere _ other rfl
  | connect i e takeToken =>
    cases hi : b.handles[i]? with
    | none => simpa [act, connect, hi] using hx
    | some z =>
      rcases connect_cases i hi e takeToken with ⟨-, -, token, handles⟩ | ⟨-, -, handles⟩
      · exact elsewhere _ other handles
      · exact (congrArg (·[h]?) handles).trans hx
  | fail i reason =>
    simp only [act, fail]
    split
    · exact hx
    · split
      · exact hx
      · exact elsewhere _ other rfl
  | disconnect i =>
    simp only [act, disconnect]
    split
    · exact hx
    · rw [handles_giveBack]
      split <;> exact elsewhere _ other rfl
  | observe i =>
    simp only [act, observe]
    split
    · exact hx
    · split
      · exact hx
      · split
        · exact elsewhere _ other rfl
        · exact elsewhere _ other (handles_giveBack _ _)
  | wakeCountdown generation => exact (congrArg (·[h]?) (b.handles_wakeCountdown generation)).trans hx
  | _ => exact hx

/-- The observer of a bound handle looks at its stream. -/
theorem act_observe {k : Binding} (hx : b.handles[h]? = some x) (hk : x.binding = some k)
    (hs : b.streams[k.device]? = some s) :
    (b.act (.observe h)).handles[h]? = some (x.observe s) := by
  obtain ⟨hh, -⟩ := List.getElem?_eq_some_iff.1 hx
  have follows : (x.binding.bind fun k => b.streams[k.device]?) = some s := by simp [hk, hs]
  simp only [act, observe]
  rw [hx]
  dsimp only
  rw [follows]
  dsimp only
  split
  · exact List.getElem?_set_self hh
  · rw [handles_giveBack]
    exact List.getElem?_set_self hh

/-- A handle that is resolved and kept stays as it is, unless its observer looks at its stream. -/
theorem act_kept (hx : b.handles[h]? = some x) (resolved : x.state ≠ .unopened) {a : Act}
    (keeps : Keeps h b a) (blind : a = .observe h →
      (x.binding.bind fun k => b.streams[k.device]?) = none) :
    ∃ y, (b.act a).handles[h]? = some y ∧ x.Same y := by
  obtain ⟨hh, -⟩ := List.getElem?_eq_some_iff.1 hx
  by_cases own : a.handle? = some h
  · cases a with
    | share i =>
      obtain rfl := Option.some.inj own
      refine ⟨{ x with clients := x.clients + 1 }, ?_, ⟨rfl, rfl, rfl⟩⟩
      simp only [act, share, hx]
      exact List.getElem?_set_self hh
    | forget i =>
      obtain rfl := Option.some.inj own
      have more : ¬x.clients ≤ 1 := Nat.not_le.2 (keeps rfl x hx)
      refine ⟨{ x with clients := x.clients - 1 }, ?_, ⟨rfl, rfl, rfl⟩⟩
      simp only [act, forget, hx, if_neg more]
      exact List.getElem?_set_self hh
    | connect i e takeToken =>
      obtain rfl := Option.some.inj own
      rcases connect_cases i hx e takeToken with ⟨waits, -⟩ | ⟨-, -, handles⟩
      · exact absurd waits resolved
      · exact ⟨x, (congrArg (·[i]?) handles).trans hx, .refl x⟩
    | fail i reason =>
      obtain rfl := Option.some.inj own
      refine ⟨x, ?_, .refl x⟩
      simp [act, fail, hx, Handle.fail?, resolved]
    | disconnect i =>
      obtain rfl := Option.some.inj own
      exact absurd rfl keeps
    | observe i =>
      obtain rfl := Option.some.inj own
      refine ⟨x, ?_, .refl x⟩
      simp only [act, observe, hx, blind rfl]
    | _ => cases own
  · exact ⟨x, act_of_other hx own, .refl x⟩

end Steps

section Following

/-- A handle keeps track of its device whatever happens next. -/
theorem tracks_act (tracks : x.Tracks d token s) (hx : b.handles[h]? = some x)
    (hs : b.streams[d]? = some s) {a : Act} (forward : MovesForward d b a) (keeps : Keeps h b a) :
    ∃ y s', (b.act a).handles[h]? = some y ∧ (b.act a).streams[d]? = some s' ∧
      y.Tracks d token s' := by
  by_cases looks : a = .observe h ∧ x.binding ≠ none
  · obtain ⟨rfl, bound⟩ := looks
    obtain ⟨k, hk⟩ := Option.ne_none_iff_exists'.1 bound
    have device : k.device = d := by
      cases tracks with
      | follows bound device => exact Option.some.inj (bound.symm.trans hk) ▸ device
      | ended unbound => cases unbound.symm.trans hk
    refine ⟨x.observe s, s, act_observe hx hk (device ▸ hs), ?_, tracks.observe⟩
    obtain ⟨s', hs', rfl | ⟨_, published, -⟩ | ⟨dropped, -⟩⟩ := act_stream hs (.observe h)
    · exact hs'
    · cases published
    · cases dropped
  · have blind : a = .observe h → (x.binding.bind fun k => b.streams[k.device]?) = none := by
      intro same
      have unbound : x.binding = none := by
        by_contra bound
        exact looks ⟨same, bound⟩
      simp [unbound]
    obtain ⟨y, hy, same⟩ := act_kept hx tracks.resolved keeps blind
    obtain ⟨s', hs', rfl | ⟨state, rfl, rfl⟩ | ⟨rfl, rfl⟩⟩ := act_stream hs a
    · exact ⟨y, s', hy, hs', tracks.of_same same⟩
    · obtain ⟨live, rank⟩ := forward rfl s hs
      exact ⟨y, _, hy, hs', (tracks.of_same same).publish live rank⟩
    · exact ⟨y, _, hy, hs', (tracks.of_same same).drop⟩

theorem tracks_run (tracks : x.Tracks d token s) (hx : b.handles[h]? = some x)
    (hs : b.streams[d]? = some s) {acts : List Act} (undisturbed : Undisturbed h d acts b) :
    ∃ y s', (b.run acts).handles[h]? = some y ∧ (b.run acts).streams[d]? = some s' ∧
      y.Tracks d token s' := by
  induction acts generalizing b x s with
  | nil => exact ⟨x, s, hx, hs, tracks⟩
  | cons a acts ih =>
    obtain ⟨⟨forward, keeps⟩, later⟩ := undisturbed
    obtain ⟨y, s', hy, hs', tracks⟩ := tracks_act tracks hx hs forward keeps
    exact ih tracks hy hs' later

/-- An observer that is not to take a turn has nothing to look at. -/
theorem canObserve_eq_false (tracks : x.Tracks d token s) (hx : b.handles[h]? = some x)
    (hs : b.streams[d]? = some s) (rest : h ∉ b.observers) : x.canObserve s = false := by
  cases tracks with
  | ended unbound => simp [Handle.canObserve, unbound]
  | @follows k bound device =>
    obtain ⟨hh, -⟩ := List.getElem?_eq_some_iff.1 hx
    have follows : (x.binding.bind fun k => b.streams[k.device]?) = some s := by
      simp [bound, device, hs]
    by_contra looks
    refine rest (List.mem_filter.2 ⟨List.mem_range.2 hh, ?_⟩)
    rw [hx]
    dsimp only
    rw [follows]
    exact eq_true_of_ne_false looks

end Following

section Tokens

/-- Every token that the timer counts is kept by one handle, and a handle that waits keeps none. -/
structure Tallied (b : HandleBench) : Prop where
  tokens : b.timer.tokens = b.handles.countP (·.token?.isSome)
  free : ∀ (h : HandleId) (x : Handle), b.handles[h]? = some x → x.state = .unopened → x.binding = none

theorem tokens_giveBack (token : Option TimerId) :
    (b.giveBack token).timer.tokens = b.timer.tokens - if token.isSome then 1 else 0 := by
  cases token with
  | none => rfl
  | some i => exact IdleTimer.tokens_giveBack b.now

/-- A handle that changes gives back the token that it no longer keeps. -/
theorem tokens_set (counted : b.timer.tokens = b.handles.countP (·.token?.isSome))
    (hx : b.handles[i]? = some x) (gone : y.token? = none) :
    b.timer.tokens - (if x.token?.isSome then 1 else 0) =
      (b.handles.set i y).countP (·.token?.isSome) := by
  have count := countP_set_add (p := (·.token?.isSome)) hx y
  simp only [gone, Option.isSome_none, Bool.false_eq_true, if_false, Nat.add_zero] at count
  omega

/-- A handle that changes may keep its token. -/
theorem tokens_set_of_kept (counted : b.timer.tokens = b.handles.countP (·.token?.isSome))
    (hx : b.handles[i]? = some x) (kept : y.token? = x.token?) :
    b.timer.tokens = (b.handles.set i y).countP (·.token?.isSome) := by
  have count := countP_set_add (p := (·.token?.isSome)) hx y
  simp only [kept] at count
  omega

theorem token?_observe (s : Stream) (x : Handle) :
    (x.observe s).binding = none ∨ (x.observe s).token? = x.token? := by
  cases hk : x.binding with
  | none => exact .inl (by simp [Handle.observe, hk])
  | some k =>
    rcases Handle.observe_cases hk s with ⟨-, unbound, -⟩ | ⟨-, bound, -⟩
    · exact .inl unbound
    · exact .inr (by simp [Handle.token?, bound, hk])

theorem tokens_act (tallied : b.Tallied) (a : Act) :
    (b.act a).timer.tokens = (b.act a).handles.countP (·.token?.isSome) := by
  have counted := tallied.tokens
  cases a with
  | create c => simpa [act, create, Handle.token?] using counted
  | share i =>
    simp only [act, share]
    split
    · exact counted
    · rename_i x hx
      exact tokens_set_of_kept counted hx rfl
  | forget i =>
    simp only [act, forget]
    split
    · exact counted
    · rename_i x hx
      split
      · rw [tokens_giveBack, handles_giveBack]
        exact tokens_set counted hx rfl
      · exact tokens_set_of_kept counted hx rfl
  | connect i d takeToken =>
    cases hx : b.handles[i]? with
    | none => simpa [act, connect, hx] using counted
    | some x =>
      rcases connect_outcome hx d takeToken with ⟨waits, -, handles, tokens⟩ |
        ⟨-, -, handles, tokens⟩
      · have none : x.token? = none := by simp [Handle.token?, tallied.free i x hx waits]
        have count := countP_set_add (p := (·.token?.isSome)) hx (x.taken d (b.offered takeToken))
        have taken : (x.taken d (b.offered takeToken)).token? = b.offered takeToken := rfl
        simp only [none, taken, Option.isSome_none, Bool.false_eq_true, if_false,
          Nat.add_zero] at count
        exact tokens.trans ((congrArg (· + _) counted).trans (handles ▸ count.symm))
      · exact tokens.trans (counted.trans (congrArg _ handles.symm))
  | fail i reason =>
    simp only [act, fail]
    split
    · exact counted
    · rename_i x hx
      split
      · exact counted
      · rename_i y fails
        refine tokens_set_of_kept counted hx ?_
        unfold Handle.fail? at fails
        split at fails
        · cases fails
          rfl
        · cases fails
  | disconnect i =>
    simp only [act, disconnect]
    split
    · exact counted
    · rename_i x hx
      rw [tokens_giveBack, handles_giveBack]
      split <;> exact tokens_set counted hx rfl
  | observe i =>
    simp only [act, observe]
    split
    · exact counted
    · rename_i x hx
      split
      · exact counted
      · rename_i s follows
        split
        · rename_i bound
          have kept := (token?_observe s x).resolve_left (Option.isSome_iff_ne_none.1 bound)
          exact tokens_set_of_kept counted hx kept
        · rename_i unbound
          have unbound : (x.observe s).binding = none := by simpa using unbound
          rw [tokens_giveBack, handles_giveBack]
          exact tokens_set counted hx (by simp [Handle.token?, unbound])
  | wakeCountdown generation =>
    have tokens : (b.wakeCountdown generation).timer.tokens = b.timer.tokens := by
      unfold wakeCountdown
      dsimp only
      split
      · rename_i u fires
        exact (IdleTimer.tokens_answered _ _).trans (IdleTimer.tokens_of_fire fires).1
      · rfl
    exact tokens.trans (counted.trans (congrArg _ (b.handles_wakeCountdown generation).symm))
  | _ => exact counted

theorem Tallied.act (tallied : b.Tallied) (a : Act) : (b.act a).Tallied := by
  refine ⟨tokens_act tallied a, fun h y hy => ?_⟩
  cases hx : b.handles[h]? with
  | none =>
    obtain ⟨c, rfl⟩ := act_created hx hy
    exact fun _ => rfl
  | some x =>
    obtain ⟨z, hz, does⟩ := act_does hx a
    obtain rfl : y = z := Option.some.inj (hy.symm.trans hz)
    exact does.free (tallied.free h x hx)

theorem Tallied.run (tallied : b.Tallied) (acts : List Act) : (b.run acts).Tallied := by
  induction acts generalizing b with
  | nil => exact tallied
  | cons a acts ih => exact ih (tallied.act a)

end Tokens

section Frozen

/-- Resolved, and bound to nothing. -/
def Frozen (x : Handle) : Prop :=
  x.binding = none ∧ (x.state = .disconnected ∨ x.state = .closed)

/-- Nothing changes a handle that is resolved and bound to nothing. -/
theorem Does.frozen {a : Act} (does : Does a h x y) (frozen : Frozen x) :
    Frozen y ∧ y.state = x.state := by
  obtain ⟨unbound, finished⟩ := frozen
  have resolved : x.state ≠ .unopened := by
    rcases finished with state | state <;> simp [state]
  cases does with
  | keep state failure binding =>
    exact ⟨⟨binding.elim (·.trans unbound) id, by rwa [state]⟩, state⟩
  | disconnect =>
    have same := Handle.state_disconnect_of_answered finished
    exact ⟨⟨rfl, by rwa [same]⟩, same⟩
  | observe s bound => cases unbound.symm.trans bound
  | fail reason asked waits => exact absurd waits resolved
  | connect token asked waits => exact absurd waits resolved

theorem frozen_run (hx : b.handles[h]? = some x) (frozen : Frozen x) (acts : List Act) :
    ∃ y, (b.run acts).handles[h]? = some y ∧ y.binding = none ∧ y.state = x.state := by
  induction acts generalizing b x with
  | nil => exact ⟨x, hx, frozen.1, rfl⟩
  | cons a acts ih =>
    obtain ⟨y, hy, does⟩ := act_does hx a
    obtain ⟨still, same⟩ := does.frozen frozen
    obtain ⟨z, hz, unbound, state⟩ := ih hy still
    exact ⟨z, hz, unbound, state.trans same⟩

theorem act_disconnect (hx : b.handles[h]? = some x) :
    (b.act (.disconnect h)).handles[h]? = some x.disconnect := by
  obtain ⟨hh, -⟩ := List.getElem?_eq_some_iff.1 hx
  simp only [act, disconnect, hx]
  rw [handles_giveBack]
  split <;> exact List.getElem?_set_self hh

end Frozen

/-- In every run, a handle that was connected to a device shows at rest where the device stands, however
often it was looked at, as long as the device moves forward and the client keeps the handle. From the
moment it is disconnected it is bound to nothing and keeps no token, and its state stays. All the while
the timer counts the tokens that handles keep. -/
theorem connected_mirrors (start : HandleBench) (fresh : start.handles = [])
    (unheld : start.timer.tokens = 0) (before : List Act) (h : HandleId) (d : DeviceId)
    (takeToken : Bool) (after : List Act)
    (device : (start.run before).streams[d]? ≠ none)
    (connects : ((start.run before).connect h d takeToken).1 = true) :
    let b := start.run (before ++ .connect h d takeToken :: after)
    (Undisturbed h d after (start.run (before ++ [.connect h d takeToken])) → h ∉ b.observers →
      ∃ x s, b.handles[h]? = some x ∧ b.streams[d]? = some s ∧
        x.Mirrors ((start.run before).offered takeToken) s) ∧
    (∀ first last, before ++ .connect h d takeToken :: after = first ++ .disconnect h :: last →
      ∀ y, (start.run (first ++ [.disconnect h])).handles[h]? = some y →
        y.binding = none ∧ y.token? = none ∧
        ∃ x, b.handles[h]? = some x ∧ x.binding = none ∧ x.state = y.state) ∧
    b.timer.tokens = b.handles.countP (·.token?.isSome) := by
  intro b
  refine ⟨fun undisturbed rest => ?_, fun first last split y hy => ?_, ?_⟩
  · obtain ⟨s, hs⟩ := Option.ne_none_iff_exists'.1 device
    obtain ⟨z, hz, waits, -⟩ := waits_of_connect connects
    obtain ⟨hh, -⟩ := List.getElem?_eq_some_iff.1 hz
    have handles : ((start.run before).act (.connect h d takeToken)).handles[h]? =
        some (z.taken d ((start.run before).offered takeToken)) := by
      rcases connect_outcome hz d takeToken with ⟨-, -, handles, -⟩ | ⟨resolved, -⟩
      · exact (congrArg (·[h]?) handles).trans (List.getElem?_set_self hh)
      · exact absurd waits resolved
    have streams : ((start.run before).act (.connect h d takeToken)).streams[d]? = some s :=
      (congrArg (·[d]?) (streams_connect h d takeToken)).trans hs
    have later : b = ((start.run before).act (.connect h d takeToken)).run after :=
      run_append _ _ _
    rw [run_append] at undisturbed
    obtain ⟨x, s', hx, hs', tracks⟩ :=
      tracks_run (.taken d _ z s) handles streams undisturbed
    rw [← later] at hx hs'
    exact ⟨x, s', hx, hs', tracks.mirrors (canObserve_eq_false tracks hx hs' rest)⟩
  · have later : b = (start.run (first ++ [.disconnect h])).run last := by
      rw [← run_append, List.append_assoc]
      exact congrArg start.run split
    have ends : ∃ z : Handle, y = z.disconnect := by
      rw [run_append] at hy
      cases hz : (start.run first).handles[h]? with
      | none =>
        have nobody : (start.run first).act (.disconnect h) = start.run first := by
          simp [act, disconnect, hz]
        cases hz.symm.trans ((congrArg (·.handles[h]?) nobody).symm.trans hy)
      | some z => exact ⟨z, Option.some.inj (hy.symm.trans (act_disconnect hz))⟩
    obtain ⟨z, rfl⟩ := ends
    obtain ⟨x, hx, unbound, state⟩ := frozen_run hy ⟨rfl, z.state_disconnect⟩ last
    rw [← later] at hx
    exact ⟨rfl, rfl, x, hx, unbound, state⟩
  · have tallied : start.Tallied := ⟨by simp [fresh, unheld], by simp [fresh]⟩
    exact (tallied.run _).tokens

/-- The observer looks once, after all has been published. -/
def publishedAtOnce : List Act := [.observe 0, .publish 0 .closing, .publish 0 .closed, .observe 0]

theorem connected_mirrors_atOnce :
    ∃ x, (oneStream.run (.create Broker.front :: .connect 0 0 true :: publishedAtOnce)).handles[0]? =
      some x ∧ x.state = .closed ∧ x.binding = none := by
  obtain ⟨shows, -, -⟩ := connected_mirrors oneStream rfl rfl [.create Broker.front] 0 0 true
    publishedAtOnce (by decide) (by decide)
  have forward : Undisturbed 0 0 publishedAtOnce
      (oneStream.run [.create Broker.front, .connect 0 0 true]) := by
    refine ⟨⟨trivial, trivial⟩, ⟨fun _ s hs => ?_, trivial⟩, ⟨fun _ s hs => ?_, trivial⟩,
      ⟨trivial, trivial⟩, trivial⟩
    · cases hs
      decide
    · cases hs
      decide
  obtain ⟨x, s, hx, hs, mirrors⟩ := shows forward (by decide)
  cases hs
  have ended := mirrors.closed.2 (.inl rfl)
  exact ⟨x, hx, ended.1, ended.2.1⟩

end HandleBench

end CameraBroker
