import CameraBroker.Proofs.Bindings
import CameraBroker.Proofs.Deeds

/-! What a step does to one handle, and what follows for every handle: a connected handle follows a
device, one that waits follows none, and the reason of a failure stays. -/
namespace CameraBroker

namespace Handle

structure Fits (x : Handle) : Prop where
  bound : x.state = .connected → x.binding ≠ none
  free : x.state = .unopened → x.binding = none

structure Same (x y : Handle) : Prop where
  state : y.state = x.state
  failure : y.failure = x.failure
  binding : y.binding = x.binding

theorem Same.refl (x : Handle) : x.Same x := ⟨rfl, rfl, rfl⟩

theorem Fades.failed (x : Handle) (reason : OpenFailure) : x.Fades (x.failed reason) := by
  unfold Handle.failed
  cases h : x.fail? reason with
  | none => exact .refl x
  | some y => exact .fail h

theorem binding_failed (x : Handle) (reason : OpenFailure) :
    (x.failed reason).binding = x.binding := by
  unfold failed fail?
  split <;> rfl

/-- A handle that has its answer does not fail. -/
theorem failed_of_answered {x : Handle} (answered : x.state ≠ .unopened) (reason : OpenFailure) :
    x.failed reason = x := by
  simp [failed, fail?, answered]

def taken (device : DeviceId) (token : Option TimerId) (x : Handle) : Handle :=
  { x with state := .connected, binding := some ⟨device, token, none⟩ }

section
variable (x : Handle)

theorem state_disconnect : x.disconnect.state = .disconnected ∨ x.disconnect.state = .closed := by
  unfold disconnect moveTo move?
  cases h : x.state <;> simp [HandleState.canMoveTo, HandleState.rank, unbind, h]

theorem failure_moveTo (next : HandleState) : (x.moveTo next).failure = x.failure := by
  unfold moveTo move?
  split <;> rfl

theorem failure_observe (s : Stream) : (x.observe s).failure = x.failure := by
  have closing : (if s.state = .closing then x.moveTo .disconnected else x).failure =
      x.failure := by
    split
    · exact x.failure_moveTo _
    · rfl
  unfold observe
  split
  · rfl
  · split
    · exact (failure_moveTo _ _).trans closing
    · exact closing

theorem state_moveTo_closed : (x.moveTo .closed).state = .closed := by
  unfold moveTo move?
  cases h : x.state <;> simp [HandleState.canMoveTo, HandleState.rank, h]

end

/-- What an observer does to a handle that follows a device. -/
theorem observe_cases {x : Handle} {k : Binding} (hk : x.binding = some k) (s : Stream) :
    s.isGone = true ∧ (x.observe s).binding = none ∧ (x.observe s).state = .closed ∨
    s.isGone = false ∧ (x.observe s).binding = some { k with seen := some s.version } ∧
      ((x.observe s).state = x.state ∨
        s.state = .closing ∧ (x.observe s).state = (x.moveTo .disconnected).state) := by
  unfold observe
  rw [hk]
  dsimp only
  cases gone : s.isGone with
  | true =>
    refine .inl ⟨rfl, rfl, ?_⟩
    rw [if_pos rfl]
    exact state_moveTo_closed _
  | false =>
    refine .inr ⟨rfl, rfl, ?_⟩
    by_cases hs : s.state = .closing
    · exact .inr ⟨hs, by simp [hs]⟩
    · exact .inl (by simp [hs])

namespace Fits
variable {x y : Handle}

theorem of_same (h : x.Fits) (same : x.Same y) : y.Fits :=
  ⟨fun hy => same.binding ▸ h.bound (same.state ▸ hy),
    fun hy => same.binding.trans (h.free (same.state ▸ hy))⟩

theorem disconnect (x : Handle) : x.disconnect.Fits := by
  rcases x.state_disconnect with h | h
  · exact ⟨fun hy => (nomatch h.symm.trans hy), fun _ => rfl⟩
  · exact ⟨fun hy => (nomatch h.symm.trans hy), fun _ => rfl⟩

theorem failed (h : x.Fits) (reason : OpenFailure) : (x.failed reason).Fits := by
  unfold Handle.failed fail?
  by_cases hx : x.state = .unopened
  · rw [if_pos hx]
    exact ⟨nofun, nofun⟩
  · rw [if_neg hx]
    exact h

theorem observe (h : x.Fits) (s : Stream) : (x.observe s).Fits := by
  cases hk : x.binding with
  | none =>
    have same : x.observe s = x := by simp [Handle.observe, hk]
    rw [same]
    exact h
  | some k =>
    rcases observe_cases hk s with ⟨-, unbound, closed⟩ | ⟨-, bound, -⟩
    · exact ⟨fun hy => (nomatch closed.symm.trans hy), fun hy => (nomatch closed.symm.trans hy)⟩
    · refine ⟨fun _ none => (nomatch bound.symm.trans none), fun hy => ?_⟩
      have before := Broker.eq_unopened_of_rank_le (hy ▸ (Handle.Fades.observe s x).forward)
      cases (h.free before).symm.trans hk

theorem taken (device : DeviceId) (token : Option TimerId) (x : Handle) :
    (x.taken device token).Fits :=
  ⟨nofun, nofun⟩

end Fits

end Handle

namespace Broker

inductive Touches (b : Broker) (a : Action) (b' : Broker) (h : HandleId) (x : Handle) :
    Handle → Prop where
  | leave {y : Handle} (same : x.Same y) : Touches b a b' h x y
  | disconnect (why : a = .disconnect h ∨ ∃ i, b.view.Current i h) :
      Touches b a b' h x x.disconnect
  | observe {k : Binding} {s : Stream} (hk : x.binding = some k)
      (hs : b.stream? k.device = some s) : Touches b a b' h x (x.observe s)
  | fail {share : Bool} (reason : OpenFailure) (served : b.waiting = .open h share :: b'.waiting) :
      Touches b a b' h x (x.failed reason)
  | supersede {before : List Request} (served : b.waiting = before ++ b'.waiting)
      (mem : h ∈ before.filterMap Request.handle?) : Touches b a b' h x (x.failed .superseded)
  | attach {share : Bool} {i : SessionId} {s : Session} {token : Option TimerId}
      (served : b.waiting = .open h share :: b'.waiting) (noClose : firstClose? b.waiting = none)
      (noCloseAll : lastCloseAll? b.waiting = none) (active : i ∈ b.loop.active)
      (hs : b.sessions[i]? = some s) (waits : x.state = .unopened)
      (timer : (∃ t, s.timer.acquire? = some t) ∧ token = some i ∨
        s.timer.acquire? = none ∧ token = none) :
      Touches b a b' h x (x.taken s.device token)

section Frames
variable (b : Broker)

theorem handles_listen (i : SessionId) : (b.listen i).handles = b.handles :=
  (@meanwhile_listen (fun _ => False) i b).2

theorem handles_wakeCountdown (i : SessionId) (generation : Nat) :
    (b.wakeCountdown i generation).handles = b.handles :=
  (@meanwhile_wakeCountdown (fun _ => False) i generation b).2

theorem handles_disconnect (h : HandleId) :
    (b.disconnect h).handles = b.handles.modify h Handle.disconnect := by
  unfold disconnect
  cases hx : b.handles[h]? with
  | none => exact (List.modify_eq_self (List.getElem?_eq_none_iff.1 hx)).symm
  | some x =>
    obtain ⟨hh, rfl⟩ := List.getElem?_eq_some_iff.1 hx
    dsimp only
    rw [handles_giveBack, List.modify_eq_set_get _ hh]
    split <;> rfl

/-- Letting go of a handle changes no other. -/
theorem getElem?_handles_letGo (current : Option HandleId) (g : HandleId) :
    (b.letGo current).handles[g]? = (b.handles[g]?).map fun x =>
      if current = some g then x.disconnect else x := by
  cases current with
  | none => simp [letGo]
  | some h =>
    have same : (b.letGo (some h)).handles = b.handles.modify h Handle.disconnect :=
      b.handles_disconnect h
    rw [same, List.getElem?_modify]
    by_cases hg : h = g <;> simp [hg]

/-- The observer changes its handle only. -/
theorem handles_observe_of_stream {h : HandleId} {x : Handle} {k : Binding} {s : Stream}
    (hx : b.handles[h]? = some x) (hk : x.binding = some k) (hs : b.stream? k.device = some s) :
    (b.observe h).handles = b.handles.set h (x.observe s) := by
  have follows : (x.binding.bind fun k => b.stream? k.device) = some s := by simp [hk, hs]
  unfold observe
  rw [hx]
  dsimp only
  rw [follows]
  dsimp only
  split
  · rfl
  · rw [handles_giveBack]
    rfl

/-- It does so only if it finds the stream. -/
theorem handles_observe (h : HandleId) : (b.observe h).handles = b.handles ∨
    ∃ x k s, b.handles[h]? = some x ∧ x.binding = some k ∧ b.stream? k.device = some s ∧
      (b.observe h).handles = b.handles.set h (x.observe s) := by
  cases hx : b.handles[h]? with
  | none => exact .inl (by simp [observe, hx])
  | some x =>
    cases hs : x.binding.bind fun k => b.stream? k.device with
    | none => exact .inl (by simp [observe, hx, hs])
    | some s =>
      obtain ⟨k, hk, hs⟩ := Option.bind_eq_some_iff.1 hs
      exact .inr ⟨x, k, s, rfl, hk, hs, b.handles_observe_of_stream hx hk hs⟩

end Frames

variable {b : Broker}

/-- A deed touches every handle in one of these ways, or adds a handle that follows no device. -/
theorem Deed.touches_or_creates {a : Action} (deed : Deed b a (b.step a))
    (free : ∀ i ∈ b.loop.active, ∀ h, b.Waits h → ¬b.view.Current i h) :
    (∃ f : HandleId → Handle → Handle,
      (∀ h : HandleId, (b.step a).handles[h]? = (b.handles[h]?).map (f h)) ∧
        ∀ h x, b.handles[h]? = some x → Touches b a (b.step a) h x (f h x)) ∨
      ∃ y : Handle, y.binding = none ∧ (y.state = .unopened ∨
          y.state = .disconnected ∧ (b.step a).waiting = b.waiting) ∧
        (b.step a).handles = b.handles ++ [y] := by
  have handlesOf : ∀ {o : Broker}, (b.step a).bonds = o.bonds → (b.step a).handles = o.handles :=
    congrArg Prod.fst
  have left : (b.step a).handles = b.handles → ∃ f : HandleId → Handle → Handle,
      (∀ h : HandleId, (b.step a).handles[h]? = (b.handles[h]?).map (f h)) ∧
        ∀ h x, b.handles[h]? = some x → Touches b a (b.step a) h x (f h x) :=
    fun same => ⟨fun _ => id, fun h => by simp [same], fun _ x _ => .leave (.refl x)⟩
  cases deed with
  | quiet same => exact .inl (left (handlesOf same))
  | @create y unbound state handles sessions => exact .inr ⟨y, unbound, state, handles⟩
  | forget g same =>
    refine .inl ⟨fun h x => if g = h then { x with clients := x.clients - 1 } else x, ?_, ?_⟩
    · intro h
      have modified : (b.step a).handles =
          b.handles.modify g fun x => { x with clients := x.clients - 1 } := handlesOf same
      rw [modified, List.getElem?_modify]
      rfl
    · intro h x _
      dsimp only
      by_cases hg : g = h
      · rw [if_pos hg]
        exact .leave ⟨rfl, rfl, rfl⟩
      · rw [if_neg hg]
        exact .leave (.refl x)
  | disconnect g asked same =>
    refine .inl ⟨fun h x => if g = h then x.disconnect else x, ?_, ?_⟩
    · intro h
      rw [handlesOf same, handles_disconnect, List.getElem?_modify]
      rfl
    · intro h x _
      dsimp only
      by_cases hg : g = h
      · subst hg
        rw [if_pos rfl]
        exact .disconnect (.inl asked)
      · rw [if_neg hg]
        exact .leave (.refl x)
  | observe g same =>
    rcases b.handles_observe g with old | ⟨x, k, s, hx, hk, hs, new⟩
    · exact .inl (left ((handlesOf same).trans old))
    · refine .inl ⟨fun h y => if g = h then x.observe s else y, ?_, ?_⟩
      · intro h
        rw [handlesOf same, new, List.getElem?_set']
        by_cases hg : g = h
        · simp [hg, Function.const_def]
        · simp [hg]
      · intro h y hy
        dsimp only
        by_cases hg : g = h
        · subst hg
          obtain rfl : x = y := Option.some.inj (hx.symm.trans hy)
          rw [if_pos rfl]
          exact .observe hk hs
        · rw [if_neg hg]
          exact .leave (.refl y)
  | @listen i ready same => exact .inl (left (same ▸ b.handles_listen i))
  | wake i generation same => exact .inl (left (same ▸ b.handles_wakeCountdown i generation))
  | @shut i s shutting fresh hs handles sessions same =>
    refine .inl ⟨fun h x => if s.current = some h then x.disconnect else x, ?_, ?_⟩
    · intro h
      rw [handlesOf same, getElem?_handles_letGo, handles]
    · intro h x _
      dsimp only
      by_cases hg : s.current = some h
      · rw [if_pos hg]
        exact .disconnect (.inr ⟨i, (current_of_session hs).2 hg⟩)
      · rw [if_neg hg]
        exact .leave (.refl x)
  | @fail g share reason served handles sessions =>
    refine .inl ⟨fun h x => if g = h then x.failed reason else x, ?_, ?_⟩
    · intro h
      rw [handles, List.getElem?_modify]
      rfl
    · intro h x _
      dsimp only
      by_cases hg : g = h
      · subst hg
        rw [if_pos rfl]
        exact .fail reason served
      · rw [if_neg hg]
        exact .leave (.refl x)
  | @supersede before served handles sessions =>
    refine .inl ⟨_, handles, fun h x _ => ?_⟩
    by_cases mem : h ∈ before.filterMap Request.handle?
    · rw [if_pos mem]
      exact .supersede served mem
    · rw [if_neg mem]
      exact .leave (.refl x)
  | @attach g share i s z token bound served noClose noCloseAll active takes same =>
    -- The handle that the session had is another one, since the new one still waits.
    have other : s.current ≠ some g := fun current =>
      free i active g ⟨z, takes.handle, takes.waits⟩ ((current_of_session takes.session).2 current)
    have hg : g < b.handles.length := (List.getElem?_eq_some_iff.1 takes.handle).1
    refine .inl ⟨fun h x => if g = h then x.taken s.device token
      else if s.current = some h then x.disconnect else x, fun h => ?_, fun h x hx => ?_⟩
    · rw [handlesOf same, getElem?_handles_letGo, takes.handles]
      by_cases hgh : g = h
      · subst hgh
        rw [List.getElem?_set_self hg, takes.handle]
        simp [other, Handle.taken]
      · rw [List.getElem?_set_ne hgh]
        simp [hgh]
    · dsimp only
      by_cases hgh : g = h
      · subst hgh
        obtain rfl : z = x := Option.some.inj (takes.handle.symm.trans hx)
        rw [if_pos rfl]
        refine .attach served noClose noCloseAll active takes.session takes.waits ?_
        rcases takes.timer with ⟨t, ht, token, -⟩ | ⟨ht, token, -⟩
        · exact .inl ⟨⟨t, ht⟩, token⟩
        · exact .inr ⟨ht, token⟩
      · rw [if_neg hgh]
        by_cases current : s.current = some h
        · rw [if_pos current]
          exact .disconnect (.inr ⟨i, (current_of_session takes.session).2 current⟩)
        · rw [if_neg current]
          exact .leave (.refl x)
  | join handles sessions => exact .inl (left handles)

theorem Reachable.touches_or_creates (hr : Reachable b) (a : Action) :
    (∃ f : HandleId → Handle → Handle,
      (∀ h : HandleId, (b.step a).handles[h]? = (b.handles[h]?).map (f h)) ∧
        ∀ h x, b.handles[h]? = some x → Touches b a (b.step a) h x (f h x)) ∨
      ∃ y : Handle, y.binding = none ∧ (y.state = .unopened ∨
          y.state = .disconnected ∧ (b.step a).waiting = b.waiting) ∧
        (b.step a).handles = b.handles ++ [y] :=
  (hr.deed a).touches_or_creates fun i _ _ waits => hr.bindings.not_current waits i

theorem Reachable.touches (hr : Reachable b) (a : Action) {h : HandleId} {x : Handle}
    (hx : b.handles[h]? = some x) :
    ∃ y, (b.step a).handles[h]? = some y ∧ Touches b a (b.step a) h x y := by
  rcases hr.touches_or_creates a with ⟨f, handles, touches⟩ | ⟨y, -, -, handles⟩
  · exact ⟨f h x, by rw [handles, hx]; rfl, touches h x hx⟩
  · obtain ⟨hh, -⟩ := List.getElem?_eq_some_iff.1 hx
    exact ⟨x, by rw [handles, List.getElem?_append_left hh, hx], .leave (.refl x)⟩

/-- A handle that is new follows no device. It waits, or the loop was over before it came. -/
theorem Reachable.created (hr : Reachable b) (a : Action) {h : HandleId} {y : Handle}
    (new : b.handles[h]? = none) (hy : (b.step a).handles[h]? = some y) :
    y.binding = none ∧ (y.state = .unopened ∨
      y.state = .disconnected ∧ (b.step a).waiting = b.waiting) := by
  rcases hr.touches_or_creates a with ⟨f, handles, -⟩ | ⟨z, unbound, state, handles⟩
  · rw [handles, new] at hy
    cases hy
  · rw [handles] at hy
    rcases View.of_getElem?_concat hy with there | ⟨-, rfl⟩
    · cases new.symm.trans there
    · exact ⟨unbound, state⟩

theorem Touches.fits {a : Action} {b' : Broker} {h : HandleId} {x y : Handle}
    (touches : Touches b a b' h x y) (fits : x.Fits) : y.Fits := by
  cases touches with
  | leave same => exact fits.of_same same
  | disconnect why => exact .disconnect x
  | observe hk hs => exact fits.observe _
  | fail reason served => exact fits.failed reason
  | supersede served mem => exact fits.failed _
  | attach served noClose noCloseAll active hs waits token => exact .taken _ _ x

/-- What holds of every handle that is new, and of a handle after a step if it held of it before, holds
of every handle in every reachable state. -/
theorem Reachable.handle_invariant {P : Broker → Handle → Prop}
    (creates : ∀ b x, x.binding = none → x.state = .unopened ∨ x.state = .disconnected → P b x)
    (touches : ∀ b a h x y, Reachable b → b.handles[h]? = some x → (b.step a).handles[h]? = some y →
      P b x → Touches b a (b.step a) h x y → P (b.step a) y) (hr : Reachable b) :
    ∀ (h : HandleId) (x : Handle), b.handles[h]? = some x → P b x := by
  refine hr.invariant (P := fun b => ∀ (h : HandleId) (x : Handle), b.handles[h]? = some x → P b x)
    (fun s h x hx => ?_) fun b a hb hp h y hy => ?_
  · cases (List.getElem?_nil.symm.trans hx : none = some x)
  · cases hx : b.handles[h]? with
    | none =>
      obtain ⟨unbound, state⟩ := hb.created a hx hy
      exact creates _ y unbound (state.imp id And.left)
    | some x =>
      obtain ⟨z, hz, touched⟩ := hb.touches a hx
      obtain rfl : y = z := Option.some.inj (hy.symm.trans hz)
      exact touches b a h x y hb hx hy (hp h x hx) touched

theorem Reachable.fits (hr : Reachable b) :
    ∀ (h : HandleId) (x : Handle), b.handles[h]? = some x → x.Fits := by
  refine hr.handle_invariant (P := fun _ x => x.Fits) (fun _ x unbound state => ?_)
    fun b a h x y _ _ _ fits touched => touched.fits fits
  refine ⟨fun connected => ?_, fun _ => unbound⟩
  rcases state with waits | given
  · cases waits.symm.trans connected
  · cases given.symm.trans connected

/-- Only a handle that waits becomes connected, and only while no close does. -/
theorem Touches.connected {a : Action} {b' : Broker} {h : HandleId} {x y : Handle}
    (touches : Touches b a b' h x y) (connected : y.state = .connected) :
    x.state = .connected ∨ x.state = .unopened ∧ firstClose? b.waiting = none := by
  cases touches with
  | leave same => exact .inl (same.state.symm.trans connected)
  | disconnect why => exact absurd connected x.disconnect_ne_connected
  | observe hk hs => exact .inl ((Handle.Fades.observe _ x).connected connected)
  | fail reason served => exact .inl ((Handle.Fades.failed x reason).connected connected)
  | supersede served mem => exact .inl ((Handle.Fades.failed x _).connected connected)
  | attach served noClose noCloseAll active hs waits timer => exact .inr ⟨waits, noClose⟩

/-- A handle that is connected after a step was there before it. -/
theorem Reachable.touches_of_connected (hr : Reachable b) {a : Action} {h : HandleId} {y : Handle}
    (hy : (b.step a).handles[h]? = some y) (connected : y.state = .connected) :
    ∃ x, b.handles[h]? = some x ∧ Touches b a (b.step a) h x y := by
  cases hx : b.handles[h]? with
  | none =>
    rcases (hr.created a hx hy).2 with unopened | ⟨given, -⟩
    · cases unopened.symm.trans connected
    · cases given.symm.trans connected
  | some x =>
    obtain ⟨z, hz, touches⟩ := hr.touches a hx
    obtain rfl : y = z := Option.some.inj (hy.symm.trans hz)
    exact ⟨x, rfl, touches⟩

/-- The reason of a failure stays, and a handle that was answered without one never has one. -/
theorem Touches.failure {a : Action} {b' : Broker} {h : HandleId} {x y : Handle}
    (touches : Touches b a b' h x y) (answered : x.state ≠ .unopened) : y.failure = x.failure := by
  have failed := Handle.failed_of_answered answered
  cases touches with
  | leave same => exact same.failure
  | disconnect why => exact x.failure_moveTo _
  | observe hk hs => exact x.failure_observe _
  | fail reason served => rw [failed]
  | supersede served mem => rw [failed]
  | attach served noClose noCloseAll active hs waits token => exact absurd waits answered

theorem Reachable.failure_run (hr : Reachable b) {h : HandleId} {x : Handle}
    (hx : b.handles[h]? = some x) (answered : x.state ≠ .unopened) (actions : List Action) :
    ∃ y, (b.run actions).handles[h]? = some y ∧ y.state ≠ .unopened ∧ y.failure = x.failure := by
  induction actions generalizing b x with
  | nil => exact ⟨x, hx, answered, rfl⟩
  | cons a actions ih =>
    obtain ⟨y, hy, touches⟩ := hr.touches a hx
    obtain ⟨z, hz, still⟩ := hr.resolves_step ⟨x, hx, answered⟩ a
    obtain rfl : y = z := Option.some.inj (hy.symm.trans hz)
    obtain ⟨w, hw, later, same⟩ := ih (hr.step a) hy still
    exact ⟨w, hw, later, same.trans (touches.failure answered)⟩

end Broker

end CameraBroker
