import CameraBroker.Proofs.LoneSession

/-! The accounts of one session. At any time one handle at most is bound to it, the current one. Its
timer has one token out if that handle came while the timer was live, and none otherwise. What a
connect replaces is let go for good, and a connect that comes too late leaves no trace. -/
namespace CameraBroker.Broker
variable {b b' : Broker} {i : SessionId} {h : HandleId} {s : Session} {x : Handle}

/-! What every step keeps. -/

section Steps
variable {a : SessionAction}

theorem current_of_ties (same : b'.view.ties = b.view.ties) :
    b'.view.Current i h ↔ b.view.Current i h := by
  unfold View.Current
  rw [same]

theorem Lone.coherent_perform (lone : b.Lone) (a : SessionAction) :
    (b.perform a).ledger.Coherent none := by
  have still : (b.perform a).bonds = b.bonds → (b.perform a).ledger.Coherent none :=
    fun same => ledger_of_bonds same ▸ lone.coherent
  cases a with
  | act a =>
    by_cases turn : a = .turn .loop
    · exact still (by rw [turn, lone.perform_loop])
    · exact (deed_step b turn).coherent lone.fits lone.coherent
  | create c =>
    have more : (b.perform (.create c)).ledger =
        { b.ledger with grips := b.ledger.grips ++ [none] } := by
      simp [perform, createHandle, ledger, Handle.grip]
    exact more ▸ lone.coherent.create
  | fail g reason =>
    have kept : (b.perform (.fail g reason)).ledger = b.ledger := by
      refine ledger_of_grips (f := fun h x => if g = h then x.failed reason else x) (fun h => ?_)
        (fun h x => ?_) (b.sessions_failHandle g reason)
      · have modified : (b.perform (.fail g reason)).handles =
            b.handles.modify g (·.failed reason) := b.handles_failHandle g reason
        rw [modified, List.getElem?_modify]
        rfl
      · split
        · exact grip_failed x reason
        · rfl
    exact kept ▸ lone.coherent
  | connect i g =>
    cases hs : b.sessions[i]? with
    | none => exact still (congrArg Broker.bonds (connectTo_of_none (.inl hs)))
    | some s =>
      cases hx : b.handles[g]? with
      | none => exact still (congrArg Broker.bonds (connectTo_of_none (.inr hx)))
      | some x =>
        by_cases waits : x.state = .unopened
        · obtain ⟨token, bound, takes, same⟩ := connectTo_bonds hs hx waits
          have unbound := (lone.fits g x hx).free waits
          have grip : b.ledger.grips[g]? = some none := by simp [ledger, hx, Handle.grip, unbound]
          have seat : b.ledger.seats[i]? = some s.seat := by simp [ledger, hs]
          have taken : (b.perform (.connect i g)).ledger = (bound.letGo s.current).ledger :=
            ledger_of_bonds same
          rw [taken]
          exact bound.ledger_letGo s.current takes.ledger
            (lone.coherent.attach grip seat token takes.own)
        · obtain ⟨handles, t, sessions, rests, -⟩ := connectTo_of_resolved hs hx waits
          have kept : (b.perform (.connect i g)).ledger = b.ledger :=
            ledger_of_rests hs sessions rests handles
          exact kept ▸ lone.coherent
  | close i => exact still rfl
  | keep i => exact still rfl
  | unkeep i => exact still rfl
  | fill n =>
    have same : (b.fill n).2.bonds = b.bonds :=
      Prod.ext (b.handles_fill n) (b.sessions_fill n)
    exact still same
  | receive => exact still rfl
  | dropReader => exact still rfl

/-- A session's current handle was so before, or a connect has just bound it. -/
theorem Lone.current_perform (lone : b.Lone) (current : (b.perform a).view.Current i h) :
    b.view.Current i h ∨ (b.perform a).Resolves h := by
  have still : (b.perform a).view.ties = b.view.ties →
      b.view.Current i h ∨ (b.perform a).Resolves h :=
    fun same => .inl ((current_of_ties same).1 current)
  cases a with
  | act a =>
    by_cases turn : a = .turn .loop
    · exact still (by rw [turn, lone.perform_loop])
    · obtain ⟨s', hs', current⟩ : ∃ s', (b.step a).sessions[i]? = some s' ∧
          s'.current = some h := by
        obtain ⟨t, ht, current⟩ := current
        obtain ⟨s', hs', rfl⟩ : ∃ s', (b.step a).sessions[i]? = some s' ∧ s'.tie = t := by
          simpa [perform, view] using ht
        exact ⟨s', hs', current⟩
      rcases (deed_step b turn).ticks_or_starts with ⟨f, sessions, ticks⟩ |
        ⟨c, d, instant, sessions⟩
      · cases hs : b.sessions[i]? with
        | none =>
          rw [sessions, hs] at hs'
          cases hs'
        | some s =>
          have ticked := ticks i s hs
          obtain rfl : f i s = s' := by
            rw [sessions, hs] at hs'
            exact Option.some.inj hs'
          generalize f i s = s' at current ticked
          refine .inl ((current_of_session hs).2 ?_)
          cases ticked with
          | keep tie sane asks => exact (congrArg Tie.current tie).symm.trans current
          | shut fresh tie sane => cases (congrArg Tie.current tie).symm.trans current
          | attach noClose noCloseAll active => simp [lone.loop] at active
      · rw [sessions] at hs'
        rcases View.of_getElem?_concat hs' with old | ⟨-, rfl⟩
        · exact .inl ((current_of_session old).2 current)
        · cases current
  | create c => exact still rfl
  | fail g reason => exact still (congrArg View.ties (b.view_failHandle g reason))
  | connect j g =>
    cases hs : b.sessions[j]? with
    | none => exact still (congrArg (·.view.ties) (connectTo_of_none (.inl hs)))
    | some s =>
      cases hx : b.handles[g]? with
      | none => exact still (congrArg (·.view.ties) (connectTo_of_none (.inr hx)))
      | some x =>
        by_cases waits : x.state = .unopened
        · have attaches := attaches_connectTo hs hx waits
          have bound : (b.connectTo j g).view.ties =
              b.view.ties.modify j fun t => { t with current := some g } := by
            rw [attaches.view]
            rfl
          obtain ⟨t', ht', current⟩ := current
          have ht' : (b.connectTo j g).view.ties[i]? = some t' := ht'
          rw [bound, List.getElem?_modify] at ht'
          obtain ⟨t, ht, rfl⟩ := Option.map_eq_some_iff.1 ht'
          by_cases hij : j = i
          · obtain rfl : g = h := by simpa [hij] using current
            exact .inr attaches.resolved
          · exact .inl ⟨t, ht, by simpa [hij] using current⟩
        · obtain ⟨-, t, sessions, rests, -⟩ := connectTo_of_resolved hs hx waits
          obtain ⟨hj, at'⟩ := List.getElem?_eq_some_iff.1 hs
          refine still ?_
          have tie : ({ s with timer := t } : Session).tie = (b.sessions[j]).tie := by
            rw [at']
            rfl
          have there : j < (b.sessions.map Session.tie).length := by simpa using hj
          have same : (b.connectTo j g).view.ties = b.view.ties := by
            simp only [view, sessions, List.map_set, tie]
            rw [← List.getElem_map Session.tie (h := there), List.set_getElem_self]
          exact same
  | close j => exact still rfl
  | keep j => exact still rfl
  | unkeep j => exact still rfl
  | fill n => exact still (congrArg (List.map Session.tie) (b.sessions_fill n))
  | receive => exact still rfl
  | dropReader => exact still rfl

theorem Lone.perform (lone : b.Lone) (a : SessionAction) : (b.perform a).Lone := by
  have apart := lone.apart a
  refine ⟨apart.loop.trans lone.loop, ?_, fun h y hy => ?_, lone.coherent_perform a,
    fun i h current => ?_⟩
  · have faces : (b.perform a).sessions.length = b.sessions.length := by
      simpa [view] using congrArg List.length apart.faces
    exact faces ▸ lone.alone
  · cases hx : b.handles[h]? with
    | none =>
      obtain ⟨unbound, state⟩ := lone.created hx hy
      exact ⟨fun connected => absurd connected state, fun _ => unbound⟩
    | some x =>
      obtain ⟨z, hz, befalls⟩ := lone.befalls a hx
      obtain rfl : y = z := Option.some.inj (hy.symm.trans hz)
      exact befalls.fits (lone.fits h x hx)
  · rcases lone.current_perform current with before | now
    · obtain ⟨x, hx, answered⟩ := lone.resolved i h before
      obtain ⟨y, hy, befalls⟩ := lone.befalls a hx
      exact ⟨y, hy, befalls.answered answered⟩
    · exact now

theorem Lone.performAll (lone : b.Lone) (actions : List SessionAction) :
    (b.performAll actions).Lone := by
  induction actions generalizing b with
  | nil => exact lone
  | cons a actions ih => exact ih (lone.perform a)

theorem Lone.faces_performAll (lone : b.Lone) (actions : List SessionAction) :
    (b.performAll actions).view.faces = b.view.faces := by
  induction actions generalizing b with
  | nil => rfl
  | cons a actions ih => exact (ih (lone.perform a)).trans (lone.apart a).faces

theorem lone_withSession (d : DeviceId) (hw : Hardware) : (withSession (d, hw)).Lone := by
  have nobody : Ledger.Coherent none {} := by
    refine ⟨fun i t ht => ?_, fun h k hk => ?_⟩
    · cases (List.getElem?_nil.symm.trans ht : none = some t)
    · cases (List.getElem?_nil.symm.trans hk : none = some (some k))
  unfold withSession startSession
  cases hw.devices[d]? with
  | none =>
    exact ⟨rfl, by simp [keep], by simp [keep], nobody, by simp [View.Current, view, keep]⟩
  | some x =>
    refine ⟨rfl, by simp [keep], by simp [keep], nobody.join d, ?_⟩
    rintro i h ⟨t, ht, current⟩
    have ht : [(Session.start x.camera d hw.now).tie][i]? = some t := ht
    obtain rfl := List.mem_singleton.1 (List.mem_of_getElem? ht)
    cases current

end Steps

/-! Whole runs. -/

section Runs

def Attachable (b : Broker) (i : SessionId) (h : HandleId) (s : Session) : Prop :=
  b.sessions[i]? = some s ∧ b.Waits h

/-- The only session there is has the number 0. -/
theorem Lone.zero_of_session (lone : b.Lone) (hs : b.sessions[i]? = some s) : i = 0 := by
  obtain ⟨hi, -⟩ := List.getElem?_eq_some_iff.1 hs
  exact Nat.lt_one_iff.1 (Nat.lt_of_lt_of_le hi lone.alone)

theorem Lone.current_of_bound (lone : b.Lone) (hs : b.sessions[0]? = some s)
    (hx : b.handles[h]? = some x) {k : Binding} (hk : x.binding = some k) :
    s.current = some h ∧ k.device = s.device := by
  obtain ⟨i, t, ht, current, device, -⟩ := held_of_coherent lone.coherent hx hk
  obtain rfl := lone.zero_of_session ht
  obtain rfl : s = t := Option.some.inj (hs.symm.trans ht)
  exact ⟨current, device⟩

theorem Lone.tokens_of_unbound (lone : b.Lone) (hs : b.sessions[0]? = some s)
    (unbound : ∀ (h : HandleId) (x : Handle), b.handles[h]? = some x → x.binding = none) :
    s.timer.tokens = 0 := by
  rw [tokens_of_coherent lone.coherent hs]
  refine List.countP_eq_zero.2 fun x mem => ?_
  obtain ⟨h, hx⟩ := List.mem_iff_getElem?.1 mem
  simp [Handle.token?, unbound h x hx]

/-- Without the bound handle no token would be out, so it keeps whatever token is. -/
theorem Lone.tokens_of_bound (lone : b.Lone) (hs : b.sessions[0]? = some s)
    (hx : b.handles[h]? = some x) {k : Binding} (hk : x.binding = some k) :
    s.timer.tokens = if k.token = some 0 then 1 else 0 := by
  have others : (b.handles.set h x.unbind).countP (fun y => y.token? = some 0) = 0 := by
    refine List.countP_eq_zero.2 fun y mem => ?_
    obtain ⟨g, hy⟩ := List.mem_iff_getElem?.1 mem
    rcases View.of_getElem?_set hy with old | ⟨-, rfl⟩
    · by_cases hgh : g = h
      · subst hgh
        obtain ⟨hg, -⟩ := List.getElem?_eq_some_iff.1 hx
        rw [List.getElem?_set_self hg] at hy
        cases hy
        simp [Handle.token?, Handle.unbind]
      · cases hm : y.binding with
        | none => simp [Handle.token?, hm]
        | some m =>
          have same : some g = some h := (lone.current_of_bound hs old hm).1.symm.trans
            (lone.current_of_bound hs hx hk).1
          exact absurd (Option.some.inj same) hgh
    · simp [Handle.token?, Handle.unbind]
  have count := countP_set_add (p := fun y : Handle => y.token? = some 0) hx x.unbind
  rw [others] at count
  rw [tokens_of_coherent lone.coherent hs]
  simpa [Handle.token?, Handle.unbind, hk, eq_comm] using count

/-- The token that a bound handle keeps is the one that it got when it was attached. -/
theorem Lone.attached_of_bound (lone : b.Lone) (fresh : b.handles = [])
    {actions : List SessionAction} (hx : (b.performAll actions).handles[h]? = some x)
    {k : Binding} (hk : x.binding = some k) :
    ∃ before after s₀, actions = before ++ .connect 0 h :: after ∧
      (b.performAll before).Attachable 0 h s₀ ∧
      k.token = if s₀.timer.released then none else some 0 := by
  let keeps (b : Broker) : Prop :=
    ∃ x m, b.handles[h]? = some x ∧ x.binding = some m ∧ m.token = k.token
  have start : ¬keeps b := by
    rintro ⟨x, m, hx, -⟩
    rw [fresh] at hx
    cases (List.getElem?_nil.symm.trans hx : none = some x)
  obtain ⟨before, a, after, split, not, y, m, hy, hm, same⟩ :=
    exists_step_of_foldl (P := keeps) start ⟨x, k, hx, hk, rfl⟩
  have there : (b.performAll before).Lone := lone.performAll before
  have not : ¬keeps (b.performAll before) := not
  have hy : ((b.performAll before).perform a).handles[h]? = some y := hy
  cases hz : (b.performAll before).handles[h]? with
  | none => cases (there.created hz hy).1.symm.trans hm
  | some z =>
    obtain ⟨w, hw, befalls⟩ := there.befalls a hz
    obtain rfl : y = w := Option.some.inj (hy.symm.trans hw)
    rcases befalls.bound hm with ⟨n, hn, token⟩ | ⟨waits, i, s₀, rfl, hs, token⟩
    · exact absurd ⟨z, n, hz, hn, token.trans same⟩ not
    · obtain rfl := there.zero_of_session hs
      exact ⟨before, after, s₀, split, ⟨hs, z, hz, waits⟩, same.symm.trans token⟩

theorem Lone.ended_run (lone : b.Lone) (hx : b.handles[h]? = some x)
    (ended : x.state.isTerminal = true ∧ x.binding = none) (actions : List SessionAction) :
    ∃ y, (b.performAll actions).handles[h]? = some y ∧
      y.state.isTerminal = true ∧ y.binding = none := by
  induction actions generalizing b x with
  | nil => exact ⟨x, hx, ended⟩
  | cons a actions ih =>
    obtain ⟨y, hy, befalls⟩ := lone.befalls a hx
    exact ih (lone.perform a) hy (befalls.ended ended)

/-- The handle that a connect replaces is let go. -/
theorem Lone.replaced (lone : b.Lone) (attachable : b.Attachable i h s) {g : HandleId}
    (current : s.current = some g) : ∃ y, (b.connectTo i h).handles[g]? = some y ∧
      y.state.isTerminal = true ∧ y.binding = none := by
  obtain ⟨hs, x, hx, waits⟩ := attachable
  obtain ⟨z, hz, answered⟩ := lone.resolved i g ((current_of_session hs).2 current)
  have other : h ≠ g := fun same => by
    subst same
    obtain rfl : x = z := Option.some.inj (hx.symm.trans hz)
    exact answered waits
  have current' : s.current ≠ some h := fun same =>
    other (Option.some.inj (same.symm.trans current))
  refine ⟨z.disconnect, ?_, ?_, rfl⟩
  · rw [handles_connectTo hs hx waits current', hz]
    simp [other, current]
  · rcases z.state_disconnect with state | state <;> simp [state, HandleState.isTerminal]

end Runs

/-- What the session has to show for itself after a run: who is bound to it, how many tokens its timer
has out, what became of the handles that were replaced, and what a connect that comes too late does. -/
structure Accounted (start : Broker) (actions : List SessionAction) (s : Session) : Prop where
  only : ∀ (h : HandleId) (x : Handle) (k : Binding),
    (start.performAll actions).handles[h]? = some x → x.binding = some k →
      s.current = some h ∧ k.device = s.device
  free : (∀ (h : HandleId) (x : Handle), (start.performAll actions).handles[h]? = some x →
    x.binding = none) → s.timer.tokens = 0
  /-- The bound handle was attached by a connect of the run, and the timer was live then or not. -/
  bound : ∀ (h : HandleId) (x : Handle) (k : Binding),
    (start.performAll actions).handles[h]? = some x → x.binding = some k →
      ∃ before after s₀, actions = before ++ .connect 0 h :: after ∧
        (start.performAll before).Attachable 0 h s₀ ∧
        s.timer.tokens = if s₀.timer.released then 0 else 1
  replaced : ∀ (before after : List SessionAction) (h g : HandleId) (s₀ : Session),
    actions = before ++ .connect 0 h :: after → (start.performAll before).Attachable 0 h s₀ →
      s₀.current = some g → ∃ y, (start.performAll actions).handles[g]? = some y ∧
        y.state.isTerminal = true ∧ y.binding = none
  tooLate : ∀ h, (start.performAll actions).Resolves h →
    ((start.performAll actions).connectTo 0 h).handles = (start.performAll actions).handles ∧
      ∃ s', ((start.performAll actions).connectTo 0 h).sessions[0]? = some s' ∧
        s'.current = s.current ∧ s'.timer.tokens = s.timer.tokens ∧
        (s.timer.tokens = 0 → s.timer.released = false →
          ((start.performAll actions).connectTo 0 h).CountsDown 0)

/-- Handles are connected to the session of a device and let go, its device publishes, it is closed, its
timer fires and time goes by, in any order. After each of these its accounts are right. -/
theorem session_tokens {d : DeviceId} {hw : Hardware} (there : d < hw.devices.length)
    (actions : List SessionAction) :
    ∃ s, ((withSession (d, hw)).performAll actions).sessions[0]? = some s ∧
      Accounted (withSession (d, hw)) actions s := by
  let start := withSession (d, hw)
  have begun : start.Lone := lone_withSession d hw
  have fresh : start.handles = [] := by
    unfold start withSession startSession
    split <;> rfl
  have lone := begun.performAll actions
  obtain ⟨s, hs⟩ : ∃ s, (start.performAll actions).sessions[0]? = some s := by
    have faces := begun.faces_performAll actions
    have one : start.view.faces.length = 1 := by
      simp [start, withSession, startSession, there, keep, view]
    have length : (start.performAll actions).sessions.length = 1 := by
      simpa [view, ← one] using congrArg List.length faces
    exact ⟨_, List.getElem?_eq_getElem (by omega)⟩
  refine ⟨s, hs, fun h x k hx hk => lone.current_of_bound hs hx hk,
    fun unbound => lone.tokens_of_unbound hs unbound, fun h x k hx hk => ?_,
    fun before after h g s₀ split attachable current => ?_, fun h late => ?_⟩
  · obtain ⟨before, after, s₀, split, attachable, token⟩ := begun.attached_of_bound fresh hx hk
    refine ⟨before, after, s₀, split, attachable, ?_⟩
    rw [lone.tokens_of_bound hs hx hk, token]
    cases s₀.timer.released <;> simp
  · have earlier := begun.performAll before
    obtain ⟨y, hy, ended⟩ := earlier.replaced attachable current
    have run : start.performAll actions =
        ((start.performAll before).perform (.connect 0 h)).performAll after := by
      rw [split]
      exact List.foldl_append
    have later := (earlier.perform (.connect 0 h)).ended_run hy ended after
    rwa [← run] at later
  · obtain ⟨x, hx, resolved⟩ := late
    obtain ⟨handles, t, sessions, rests, released, counts⟩ := connectTo_of_resolved hs hx resolved
    obtain ⟨hi, -⟩ := List.getElem?_eq_some_iff.1 hs
    have tokens : t.tokens = s.timer.tokens := rests.tokens
    exact ⟨handles, { s with timer := t }, by rw [sessions, List.getElem?_set_self hi], rfl, tokens,
      fun free live => counts (tokens.trans free) (released.trans live)⟩

def oneDevice : Hardware := (Hardware.addManual front .open .closed {}).2

/-- A handle is bound to its session, and then another one. -/
def handedOver : List SessionAction :=
  [.create front, .create front, .connect 0 0, .connect 0 1]

theorem session_tokens_handedOver : ∃ s,
    ((withSession (0, oneDevice)).performAll handedOver).sessions[0]? = some s ∧
      s.current = some 1 ∧ s.timer.tokens = 1 ∧
      ∃ y, ((withSession (0, oneDevice)).performAll handedOver).handles[0]? = some y ∧
        y.state.isTerminal = true ∧ y.binding = none := by
  have there : 0 < oneDevice.devices.length := by decide
  obtain ⟨s, hs, accounted⟩ := session_tokens there handedOver
  have counted : (((withSession (0, oneDevice)).performAll handedOver).sessions[0]?).map
      (fun s => (s.current, s.timer.tokens)) = some (some 1, 1) := by decide
  obtain ⟨current, tokens⟩ : s.current = some 1 ∧ s.timer.tokens = 1 := by simpa [hs] using counted
  have before : (((withSession (0, oneDevice)).performAll (handedOver.take 3)).sessions[0]?).map
      (·.current) = some (some 0) := by decide
  obtain ⟨s₀, hs₀, first⟩ := Option.map_eq_some_iff.1 before
  have waits : (((withSession (0, oneDevice)).performAll (handedOver.take 3)).handles[1]?).map
      (·.state) = some .unopened := by decide
  have replaced := accounted.replaced (handedOver.take 3) [] 1 0 s₀ rfl
    ⟨hs₀, Option.map_eq_some_iff.1 waits⟩ first
  exact ⟨s, hs, current, tokens, replaced⟩

end CameraBroker.Broker
