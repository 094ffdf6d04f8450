import CameraBroker.Proofs.AsksOnce
import CameraBroker.Proofs.HandleLife
import CameraBroker.Proofs.Ledger

/-! One session that no loop looks after. Handles are bound to it and let go, its device publishes,
it is closed and its timer fires, in any order. No session comes, and what handles keep and what the
timer has handed out stay accounted for. -/
namespace CameraBroker

namespace IdleTimer

/-- A token that is given back at once leaves a live timer without tokens counting down. -/
theorem countdown_of_acquire {t u : IdleTimer} (taken : t.acquire? = some u) (now : Nat)
    (free : (u.giveBack now).tokens = 0) :
    ⟨(u.giveBack now).generation, now + (u.giveBack now).window⟩ ∈ (u.giveBack now).countdowns := by
  have live : u.released = false := by
    rw [released_of_acquire taken]
    by_contra released
    cases (acquire?_eq_none.2 (by simpa using released)).symm.trans taken
  have last : u.tokens - 1 = 0 := by rwa [tokens_giveBack] at free
  have starts : u.giveBack now = { u with tokens := u.tokens - 1 }.start now :=
    if_pos ⟨last, by simp [live]⟩
  rw [starts]
  exact List.mem_append_right _ List.mem_cons_self

end IdleTimer

namespace Broker
variable {b b' o : Broker} {i : SessionId} {h : HandleId} {s : Session} {x : Handle}

/-! What is left alone beside the loop. -/

structure Apart (b b' : Broker) : Prop where
  loop : b'.loop = b.loop
  faces : b'.view.faces = b.view.faces

namespace Apart

theorem refl (b : Broker) : b.Apart b := ⟨rfl, rfl⟩

theorem trans (h : b.Apart o) (k : o.Apart b') : b.Apart b' :=
  ⟨k.loop.trans h.loop, k.faces.trans h.faces⟩

theorem of_view (same : b'.view = b.view) : b.Apart b' :=
  ⟨congrArg View.loop same, congrArg View.faces same⟩

theorem of_meanwhile {kept : HandleId → Prop} (moves : View.Meanwhile kept b.view b'.view) :
    b.Apart b' := by
  obtain ⟨loop, faces⟩ := moves.invariant
    (P := fun v => v.loop = b.loop ∧ v.faces = b.view.faces)
    (fun v w move hv => by cases move <;> exact hv) ⟨rfl, rfl⟩
  exact ⟨loop, faces⟩

theorem offer {r : Request} (offered : b.offer r = .ok b') : b.Apart b' := by
  obtain ⟨-, -, arrived, -⟩ := offer_ok offered
  have faces : b'.view.faces = (b.view.arrive r).faces := congrArg View.faces arrived
  exact ⟨congrArg View.loop arrived, faces⟩

theorem giveBack (token : Option TimerId) (b : Broker) : b.Apart (b.giveBack token) :=
  .of_view (b.view_giveBack token)

theorem letGo (current : Option HandleId) (b : Broker) : b.Apart (b.letGo current) := by
  cases current with
  | none => exact .refl b
  | some h => exact .of_view (b.view_disconnect h)

theorem failHandle (h : HandleId) (reason : OpenFailure) (b : Broker) :
    b.Apart (b.failHandle h reason) := .of_view (b.view_failHandle h reason)

theorem connectTo (i : SessionId) (h : HandleId) (b : Broker) : b.Apart (b.connectTo i h) := by
  obtain same | ⟨s, -, timed, token, timing, outcome⟩ := b.connectTo_cases i h
  · rw [same]
    exact .refl b
  · have apart : b.Apart timed := by
      obtain rfl | ⟨t, -, rfl⟩ := timing
      · exact .refl _
      · exact .of_view (b.view_onTimer i _)
    obtain refused | ⟨y, bound⟩ := outcome
    · rw [refused]
      exact apart.trans ((giveBack token timed).trans ⟨rfl, rfl⟩)
    · have binds : timed.Apart (timed.bindHandle i h s.camera y) :=
        ⟨rfl, map_face_modify (f := fun s => { s with current := some h }) (fun _ => rfl) i _⟩
      rw [bound]
      exact apart.trans (binds.trans (letGo s.current _))

theorem beginClose (i : SessionId) (b : Broker) : b.Apart (b.beginClose i).2 := by
  cases hs : b.sessions[i]? with
  | none =>
    have nothing : b.beginClose i = (false, b) := by simp [Broker.beginClose, hs]
    rw [nothing]
    exact .refl b
  | some s =>
    obtain ⟨c, shut, -, -, begun⟩ := beginClose_eq hs
    have faces : c.view.faces = (b.view.shut i).faces := congrArg View.faces shut
    rw [begun]
    exact ⟨congrArg View.loop shut, faces⟩

theorem resumeClose (k : Nat) (b : Broker) : b.Apart (b.resumeClose k) := by
  unfold Broker.resumeClose
  split
  · exact .refl b
  · rename_i c hk
    have begun := beginClose c.session b
    cases c.stage with
    | fresh =>
      cases starts : b.beginClose c.session with
      | mk started after =>
        rw [starts] at begun
        cases started <;> exact begun.trans ⟨rfl, rfl⟩
    | awaiting => exact ⟨rfl, rfl⟩
    | done => exact ⟨rfl, rfl⟩

theorem onManual (d : DeviceId) (f : Stream → Stream) (b : Broker) : b.Apart (b.onManual d f) := by
  unfold Broker.onManual
  split
  · split
    · exact ⟨rfl, rfl⟩
    · exact .refl b
  · exact .refl b

theorem requestOpen (c : CameraId) (share : Bool) (b : Broker) :
    b.Apart (orUnchanged (b.requestOpen c share) b) := by
  have created : b.Apart (b.createHandle c) := ⟨rfl, rfl⟩
  have told : b.Apart ((b.createHandle c).emit .requestDropped) := ⟨rfl, rfl⟩
  unfold Broker.requestOpen
  dsimp only
  split
  · rename_i offered
    exact created.trans (.offer offered)
  · exact .refl b
  · exact told.trans (failHandle _ _ _)

theorem requestCloseAll (b : Broker) : b.Apart (orUnchanged b.requestCloseAll b) := by
  unfold Broker.requestCloseAll
  split
  · rename_i offered
    exact .offer offered
  · exact .refl b
  · exact ⟨rfl, rfl⟩

theorem beginShutdown (b : Broker) : b.Apart b.beginShutdown := by
  have left : ∀ o : Broker, o.Apart o.leave := fun _ => ⟨rfl, rfl⟩
  unfold Broker.beginShutdown offerOrLeave
  split
  · rename_i offered
    exact (Apart.offer offered).trans (left _)
  · exact left b

theorem fill (n : Nat) (b : Broker) : b.Apart (b.fill n).2 := by
  induction n generalizing b with
  | zero => exact .refl b
  | succ n ih =>
    unfold Broker.fill
    split
    · exact ih b
    · rename_i offered
      exact (Apart.offer offered).trans (ih _)

theorem resumeTask {t : Task} (ht : t ≠ .loop) (b : Broker) : b.Apart (b.resumeTask t) := by
  cases t with
  | release d => exact ⟨rfl, rfl⟩
  | observe h => exact .of_view (b.view_observe h)
  | listen i => exact .of_meanwhile (@meanwhile_listen (fun _ => False) i b).1
  | close k => exact .resumeClose k b
  | countdown i g => exact .of_meanwhile (@meanwhile_wakeCountdown (fun _ => False) i g b).1
  | loop => exact absurd rfl ht

/-- Every action but a turn of the loop leaves both alone. -/
theorem step {a : Action} (ha : a ≠ .turn .loop) (b : Broker) : b.Apart (b.step a) := by
  have guarded : ∀ {p : Prop} [Decidable p] {b' : Broker}, b.Apart b' →
      b.Apart (if p then b' else b) := by
    intro p _ b' apart
    split
    · exact apart
    · exact .refl b
  cases a with
  | turn t => exact guarded (.resumeTask (fun loop => ha (loop ▸ rfl)) b)
  | «open» c share => exact guarded (.requestOpen c share b)
  | closeAll => exact guarded (.requestCloseAll b)
  | shutdown => exact guarded (.beginShutdown b)
  | leave => exact guarded ⟨rfl, rfl⟩
  | join => exact guarded (guarded ⟨rfl, rfl⟩)
  | disconnect h => exact .of_view (b.view_disconnect h)
  | forget h => exact ⟨rfl, rfl⟩
  | grant =>
    simp only [Broker.step, Broker.grant]
    split <;> exact ⟨rfl, rfl⟩
  | revoke => exact guarded ⟨rfl, rfl⟩
  | unplug c => exact ⟨rfl, rfl⟩
  | addCamera c => exact ⟨rfl, rfl⟩
  | failNext c n => exact ⟨rfl, rfl⟩
  | setLatency o c => exact ⟨rfl, rfl⟩
  | publish d state => exact .onManual d _ b
  | dropPublisher d => exact .onManual d _ b
  | script delay onClose outcomes =>
    simp only [Broker.step, rescript]
    split <;> exact ⟨rfl, rfl⟩
  | elapse ms => exact ⟨rfl, rfl⟩

end Apart

/-! What a connect does. -/

section Connecting

theorem token_of_takes {token : Option TimerId} {bound : Broker}
    (takes : b.Takes i h s x token bound) :
    token = if s.timer.released then none else some i := by
  rcases takes.timer with ⟨t, taken, rfl, -⟩ | ⟨refused, rfl, -⟩
  · have live : s.timer.released = false := by
      by_contra released
      cases (IdleTimer.acquire?_eq_none.2 (by simpa using released)).symm.trans taken
    simp [live]
  · simp [IdleTimer.acquire?_eq_none.1 refused]

/-- A handle that waits is bound, with a token if the timer is live, and the one before is let go. -/
theorem handles_connectTo (hs : b.sessions[i]? = some s) (hx : b.handles[h]? = some x)
    (waits : x.state = .unopened) (other : s.current ≠ some h) (g : HandleId) :
    (b.connectTo i h).handles[g]? = (b.handles[g]?).map fun y =>
      if h = g then y.taken s.device (if s.timer.released then none else some i)
      else if s.current = some g then y.disconnect else y := by
  obtain ⟨token, bound, takes, same⟩ := connectTo_bonds hs hx waits
  have handles : (b.connectTo i h).handles = (bound.letGo s.current).handles :=
    congrArg Prod.fst same
  rw [handles, getElem?_handles_letGo, takes.handles, ← token_of_takes takes]
  by_cases hgh : h = g
  · subst hgh
    obtain ⟨hh, -⟩ := List.getElem?_eq_some_iff.1 hx
    rw [List.getElem?_set_self hh, hx]
    simp [other, Handle.taken]
  · rw [List.getElem?_set_ne hgh]
    simp [hgh]

/-- A handle that has its answer is not bound: its token comes back at once. -/
theorem connectTo_of_resolved (hs : b.sessions[i]? = some s) (hx : b.handles[h]? = some x)
    (resolved : x.state ≠ .unopened) : (b.connectTo i h).handles = b.handles ∧
      ∃ t, (b.connectTo i h).sessions = b.sessions.set i { s with timer := t } ∧
        s.Rests { s with timer := t } ∧ t.released = s.timer.released ∧
        (t.tokens = 0 → t.released = false → (b.connectTo i h).CountsDown i) := by
  obtain ⟨hi, at'⟩ := List.getElem?_eq_some_iff.1 hs
  cases taken : s.timer.acquire? with
  | none =>
    have told : b.connectTo i h = b.emit (.attachRefused h s.camera) := by
      simp [connectTo, hs, hx, taken, HandleBench.connect?_eq, resolved, giveBack]
    have released := IdleTimer.acquire?_eq_none.1 taken
    have kept : b.sessions = b.sessions.set i { s with timer := s.timer } := by
      rw [← at', List.set_getElem_self]
    rw [told]
    refine ⟨rfl, s.timer, kept, .refl s, rfl, fun _ live => ?_⟩
    cases released.symm.trans live
  | some u =>
    let timed := b.onTimer i fun _ => u
    have told : b.connectTo i h = (timed.giveBack (some i)).emit (.attachRefused h s.camera) := by
      simp [connectTo, hs, hx, taken, HandleBench.connect?_eq, resolved, timed]
    have first : timed.sessions = b.sessions.set i { s with timer := u } := sessions_onTimer hs _
    have found : timed.sessions[i]? = some { s with timer := u } := by
      rw [first, List.getElem?_set_self hi]
    have given : (timed.onTimer i (·.giveBack b.now)).sessions =
        timed.sessions.set i { s with timer := u.giveBack b.now } := sessions_onTimer found _
    have sessions : (b.connectTo i h).sessions =
        b.sessions.set i { s with timer := u.giveBack b.now } := by
      rw [told]
      exact given.trans (by rw [first, List.set_set])
    have handles : (b.connectTo i h).handles = b.handles := by
      rw [told]
      rfl
    have now : (b.connectTo i h).now = b.now := by
      rw [told]
      rfl
    refine ⟨handles, u.giveBack b.now, sessions,
      ⟨rfl, rfl, ?_, fun sane => (sane.acquire taken).giveBack b.now⟩, ?_, fun free live => ?_⟩
    · simp [IdleTimer.tokens_of_acquire taken]
    · exact (IdleTimer.released_giveBack b.now).trans (IdleTimer.released_of_acquire taken)
    · refine ⟨_, by rw [sessions, List.getElem?_set_self hi], live, ?_⟩
      rw [now]
      exact IdleTimer.countdown_of_acquire taken b.now free

/-- Where there is no such session or no such handle, nothing happens. -/
theorem connectTo_of_none (none : b.sessions[i]? = none ∨ b.handles[h]? = none) :
    b.connectTo i h = b := by
  unfold connectTo
  rcases none with gone | gone <;> simp [gone]

end Connecting

/-! One thing that happens. -/

structure Lone (b : Broker) : Prop where
  loop : b.loop = { stage := .stopped }
  alone : b.sessions.length ≤ 1
  fits : ∀ (h : HandleId) (x : Handle), b.handles[h]? = some x → x.Fits
  coherent : b.ledger.Coherent none
  resolved : ∀ i h, b.view.Current i h → b.Resolves h

inductive Befalls (b : Broker) (a : SessionAction) (h : HandleId) (x : Handle) : Handle → Prop where
  | leave {y : Handle} (same : x.Same y) : Befalls b a h x y
  | disconnect : Befalls b a h x x.disconnect
  | observe {k : Binding} (s : Stream) (hk : x.binding = some k) : Befalls b a h x (x.observe s)
  | fail (reason : OpenFailure) : Befalls b a h x (x.failed reason)
  | attach {i : SessionId} {s : Session} (asked : a = .connect i h) (hs : b.sessions[i]? = some s)
      (waits : x.state = .unopened) :
      Befalls b a h x (x.taken s.device (if s.timer.released then none else some i))

section Steps

theorem handles_fill (n : Nat) (b : Broker) : (b.fill n).2.handles = b.handles := by
  induction n generalizing b with
  | zero => rfl
  | succ n ih =>
    unfold fill
    split
    · exact ih b
    · rename_i offered
      exact (ih _).trans (congrArg Prod.fst (bonds_offer offered))

theorem sessions_fill (n : Nat) (b : Broker) : (b.fill n).2.sessions = b.sessions := by
  induction n generalizing b with
  | zero => rfl
  | succ n ih =>
    unfold fill
    split
    · exact ih b
    · rename_i offered
      exact (ih _).trans (congrArg Prod.snd (bonds_offer offered))

variable {a : SessionAction}

/-- The loop has no turn. -/
theorem Lone.perform_loop (lone : b.Lone) : b.perform (.act (.turn .loop)) = b := by
  simp [perform, step, resumeTask, resumeLoop, lone.loop]

theorem Lone.apart (lone : b.Lone) (a : SessionAction) : b.Apart (b.perform a) := by
  cases a with
  | act a =>
    by_cases turn : a = .turn .loop
    · rw [turn, lone.perform_loop]
      exact .refl b
    · exact .step turn b
  | create c => exact ⟨rfl, rfl⟩
  | fail h reason => exact .failHandle h reason b
  | connect i h => exact .connectTo i h b
  | close i => exact ⟨rfl, rfl⟩
  | keep i => exact ⟨rfl, rfl⟩
  | unkeep i => exact ⟨rfl, rfl⟩
  | fill n => exact .fill n b
  | receive => exact ⟨rfl, rfl⟩
  | dropReader => exact ⟨rfl, rfl⟩

/-- A deed without a loop happens to handles in these ways, or adds one that is bound to nothing. -/
theorem Lone.befalls_or_creates (lone : b.Lone) (a : SessionAction) :
    (∃ f : HandleId → Handle → Handle,
      (∀ h : HandleId, (b.perform a).handles[h]? = (b.handles[h]?).map (f h)) ∧
        ∀ h x, b.handles[h]? = some x → Befalls b a h x (f h x)) ∨
      ∃ y : Handle, y.binding = none ∧ y.state ≠ .connected ∧
        (b.perform a).handles = b.handles ++ [y] := by
  have left : (b.perform a).handles = b.handles → ∃ f : HandleId → Handle → Handle,
      (∀ h : HandleId, (b.perform a).handles[h]? = (b.handles[h]?).map (f h)) ∧
        ∀ h x, b.handles[h]? = some x → Befalls b a h x (f h x) :=
    fun same => ⟨fun _ => id, fun h => by simp [same], fun _ x _ => .leave (.refl x)⟩
  cases a with
  | act a =>
    by_cases turn : a = .turn .loop
    · exact .inl (left (by rw [turn, lone.perform_loop]))
    · have none : ∀ i ∈ b.loop.active, ∀ h, b.Waits h → ¬b.view.Current i h := by
        simp [lone.loop]
      rcases (deed_step b turn).touches_or_creates none with ⟨f, handles, touches⟩ |
        ⟨y, unbound, state, handles⟩
      · refine .inl ⟨f, handles, fun h x hx => ?_⟩
        have touched := touches h x hx
        generalize f h x = y at touched
        cases touched with
        | leave same => exact .leave same
        | disconnect why => exact .disconnect
        | observe hk hs => exact .observe _ hk
        | fail reason served => exact .fail reason
        | supersede served mem => exact .fail .superseded
        | attach served noClose noCloseAll active hs waits timer => simp [lone.loop] at active
      · refine .inr ⟨y, unbound, fun connected => ?_, handles⟩
        rcases state with waits | ⟨given, -⟩
        · cases waits.symm.trans connected
        · cases given.symm.trans connected
  | create c => exact .inr ⟨{ camera := c }, rfl, by simp, rfl⟩
  | fail g reason =>
    refine .inl ⟨fun h x => if g = h then x.failed reason else x, fun h => ?_, fun h x _ => ?_⟩
    · have modified : (b.perform (.fail g reason)).handles = b.handles.modify g (·.failed reason) :=
        b.handles_failHandle g reason
      rw [modified, List.getElem?_modify]
      rfl
    · dsimp only
      split
      · exact .fail reason
      · exact .leave (.refl x)
  | connect i g =>
    cases hs : b.sessions[i]? with
    | none => exact .inl (left (congrArg Broker.handles (connectTo_of_none (.inl hs))))
    | some s =>
      cases hz : b.handles[g]? with
      | none => exact .inl (left (congrArg Broker.handles (connectTo_of_none (.inr hz))))
      | some z =>
        by_cases waits : z.state = .unopened
        · -- The current handle has its answer, so it is another one.
          have other : s.current ≠ some g := fun current => by
            obtain ⟨y, hy, answered⟩ := lone.resolved i g ((current_of_session hs).2 current)
            obtain rfl : z = y := Option.some.inj (hz.symm.trans hy)
            exact answered waits
          refine .inl ⟨fun h x => if g = h then
              x.taken s.device (if s.timer.released then none else some i)
            else if s.current = some h then x.disconnect else x,
            handles_connectTo hs hz waits other, fun h x hx => ?_⟩
          dsimp only
          by_cases hgh : g = h
          · subst hgh
            obtain rfl : z = x := Option.some.inj (hz.symm.trans hx)
            rw [if_pos rfl]
            exact .attach rfl hs waits
          · rw [if_neg hgh]
            split
            · exact .disconnect
            · exact .leave (.refl x)
        · exact .inl (left (connectTo_of_resolved hs hz waits).1)
  | close i => exact .inl (left rfl)
  | keep i => exact .inl (left rfl)
  | unkeep i => exact .inl (left rfl)
  | fill n => exact .inl (left (b.handles_fill n))
  | receive => exact .inl (left rfl)
  | dropReader => exact .inl (left rfl)

theorem Lone.befalls (lone : b.Lone) (a : SessionAction) (hx : b.handles[h]? = some x) :
    ∃ y, (b.perform a).handles[h]? = some y ∧ Befalls b a h x y := by
  rcases lone.befalls_or_creates a with ⟨f, handles, befalls⟩ | ⟨y, -, -, handles⟩
  · exact ⟨f h x, by rw [handles, hx]; rfl, befalls h x hx⟩
  · obtain ⟨hh, -⟩ := List.getElem?_eq_some_iff.1 hx
    exact ⟨x, by rw [handles, List.getElem?_append_left hh, hx], .leave (.refl x)⟩

/-- A handle that is new is bound to nothing. -/
theorem Lone.created (lone : b.Lone) {y : Handle} (new : b.handles[h]? = none)
    (hy : (b.perform a).handles[h]? = some y) : y.binding = none ∧ y.state ≠ .connected := by
  rcases lone.befalls_or_creates a with ⟨f, handles, -⟩ | ⟨z, unbound, state, handles⟩
  · rw [handles, new] at hy
    cases hy
  · rw [handles] at hy
    rcases View.of_getElem?_concat hy with there | ⟨-, rfl⟩
    · cases new.symm.trans there
    · exact ⟨unbound, state⟩

variable {y : Handle}

theorem Befalls.fits (befalls : Befalls b a h x y) (fits : x.Fits) : y.Fits := by
  cases befalls with
  | leave same => exact fits.of_same same
  | disconnect => exact .disconnect x
  | observe s hk => exact fits.observe s
  | fail reason => exact fits.failed reason
  | attach asked hs waits => exact .taken _ _ x

theorem Befalls.answered (befalls : Befalls b a h x y) (answered : x.state ≠ .unopened) :
    y.state ≠ .unopened := by
  have later : x.state.rank ≤ y.state.rank → y.state ≠ .unopened := fun forward waits =>
    answered (eq_unopened_of_rank_le (waits ▸ forward))
  cases befalls with
  | leave same => exact same.state ▸ answered
  | disconnect => exact later (Handle.Fades.disconnect x).forward
  | observe s hk => exact later (Handle.Fades.observe s x).forward
  | fail reason => exact later (Handle.Fades.failed x reason).forward
  | attach asked hs waits => exact absurd waits answered

/-- A handle that was let go stays so. -/
theorem Befalls.ended (befalls : Befalls b a h x y)
    (ended : x.state.isTerminal = true ∧ x.binding = none) :
    y.state.isTerminal = true ∧ y.binding = none := by
  obtain ⟨terminal, unbound⟩ := ended
  have answered : x.state ≠ .unopened := fun waits => by
    simp [waits, HandleState.isTerminal] at terminal
  cases befalls with
  | leave same => exact ⟨same.state ▸ terminal, same.binding.trans unbound⟩
  | disconnect =>
    refine ⟨?_, rfl⟩
    rcases x.state_disconnect with state | state <;> simp [state, HandleState.isTerminal]
  | observe s hk => cases unbound.symm.trans hk
  | fail reason =>
    rw [Handle.failed_of_answered answered]
    exact ⟨terminal, unbound⟩
  | attach asked hs waits => exact absurd waits answered

/-- A handle that is bound was bound before, with the same device and token, or is attached. -/
theorem Befalls.bound (befalls : Befalls b a h x y) {k : Binding} (hk : y.binding = some k) :
    (∃ m, x.binding = some m ∧ m.token = k.token) ∨
      x.state = .unopened ∧ ∃ (i : SessionId) (s : Session), a = .connect i h ∧
        b.sessions[i]? = some s ∧ k.token = if s.timer.released then none else some i := by
  cases befalls with
  | leave same => exact .inl ⟨k, same.binding.symm.trans hk, rfl⟩
  | disconnect => cases hk
  | @observe m s hm =>
    rcases Handle.observe_cases hm s with ⟨-, unbound, -⟩ | ⟨-, bound, -⟩
    · cases unbound.symm.trans hk
    · cases bound.symm.trans hk
      exact .inl ⟨m, hm, rfl⟩
  | fail reason => exact .inl ⟨k, (x.binding_failed reason).symm.trans hk, rfl⟩
  | @attach i s asked hs waits =>
    cases hk
    exact .inr ⟨waits, i, s, asked, hs, rfl⟩

end Steps

end Broker

end CameraBroker
