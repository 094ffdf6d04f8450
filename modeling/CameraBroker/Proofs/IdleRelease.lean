import CameraBroker.Proofs.ActiveSessions
import CameraBroker.Proofs.Asking
import CameraBroker.Proofs.Rounds
import Mathlib.Data.List.Induction

/-! Idle release and the users of a camera. A released timer of an active session has asked for the
close of its session, and while that request waits no handle becomes connected, so that every handle
that is given to a session gets a token. -/
namespace CameraBroker.Broker
variable {b b' : Broker} {w : View} {h : HandleId} {i j : SessionId}

/-! The inbox is open as long as there is somebody to hear. -/

theorem Opens.inbox {c : CameraId} {v : View} (opens : Opens b' h c v w) :
    w.inbox.producers = v.inbox.producers ∧
      (w.inbox.reader = v.inbox.reader ∨ w.loop.stage = .crashed) := by
  cases opens with
  | giveUp lost resolved =>
    unfold View.popHead
    split <;> exact ⟨rfl, .inl rfl⟩
  | pause lost attempt due => exact ⟨rfl, .inl rfl⟩
  | «begin» lost camera simulated state release attempt due => exact ⟨rfl, .inl rfl⟩
  | call lost due => exact ⟨rfl, .inl rfl⟩
  | simulated stage hx up => exact ⟨rfl, .inl rfl⟩
  | manual stage camera manual release => exact ⟨rfl, .inl rfl⟩
  | crash stage => exact ⟨rfl, .inr rfl⟩

theorem inbox_await (sessions left : List SessionId) (after : AfterClose) (v : View) :
    (v.await sessions left after).inbox.producers = v.inbox.producers ∧
      ((v.await sessions left after).inbox.reader = v.inbox.reader ∨
        (v.await sessions left after).loop.stage = .stopped) := by
  by_cases ended : left = [] ∧ after = .stop
  · obtain ⟨rfl, rfl⟩ := ended
    rw [View.await_stop]
    exact ⟨rfl, .inr rfl⟩
  · have same : (v.await sessions left after).inbox = v.inbox := if_neg ended
    rw [same]
    exact ⟨rfl, .inl rfl⟩

/-- A turn of the loop keeps the producers of the inbox, and its reader until the loop is over. -/
theorem Rule.inbox (rule : Rule b b' w) : w.inbox.producers = b.view.inbox.producers ∧
    (w.inbox.reader = b.view.inbox.reader ∨ w.loop.stage = .stopped ∨ w.loop.stage = .crashed) := by
  have retired : ∀ (sessions active left : List SessionId) (after : AfterClose) (v : View),
      v.inbox.producers = b.view.inbox.producers → v.inbox.reader = b.view.inbox.reader →
      (v.retire sessions active left after).inbox.producers = b.view.inbox.producers ∧
        ((v.retire sessions active left after).inbox.reader = b.view.inbox.reader ∨
          (v.retire sessions active left after).loop.stage = .stopped ∨
            (v.retire sessions active left after).loop.stage = .crashed) := by
    intro sessions active left after v producers reader
    obtain ⟨same, kept⟩ := inbox_await sessions left after
      ((v.setActive active).startCloses sessions)
    exact ⟨same.trans producers, kept.imp (·.trans reader) .inl⟩
  have opened : ∀ (h : HandleId) (c : CameraId) (v : View), Opens b' h c v w →
      v.inbox.producers = b.view.inbox.producers → v.inbox.reader = b.view.inbox.reader →
      w.inbox.producers = b.view.inbox.producers ∧
        (w.inbox.reader = b.view.inbox.reader ∨ w.loop.stage = .stopped ∨
          w.loop.stage = .crashed) := by
    intro h c v opens producers reader
    obtain ⟨same, kept⟩ := opens.inbox
    exact ⟨same.trans producers, kept.imp (·.trans reader) .inr⟩
  cases rule with
  | idle => exact ⟨rfl, .inl rfl⟩
  | start stage => exact ⟨rfl, .inl rfl⟩
  | finish stage done noClient leaves => exact retired _ _ _ _ _ rfl rfl
  | close stage first leaves => exact retired _ _ _ _ _ rfl rfl
  | closeAll stage noClose last resolved leaves => exact retired _ _ _ _ _ rfl rfl
  | serve stage head camera serves =>
    cases serves with
    | stale answered => exact ⟨rfl, .inl rfl⟩
    | makeRoom waits exclusive conflict some leaves => exact retired _ _ _ _ _ rfl rfl
    | replace waits active leaves => exact retired _ _ _ _ _ rfl rfl
    | attach waits active ht resolved kept => exact ⟨rfl, .inl rfl⟩
    | deny waits resolved => exact ⟨rfl, .inl rfl⟩
    | ask waits alone none opens => exact opened _ _ _ opens rfl rfl
  | opener stage camera opens => exact opened _ _ _ opens rfl rfl
  | await stage sub down =>
    obtain ⟨same, kept⟩ := inbox_await _ _ _ b.view
    exact ⟨same, kept.imp id .inl⟩

/-- A client that has left does not come back. -/
theorem Reachable.hasClient_before (hr : Reachable b) {a : Action}
    (client : (b.step a).hasClient = true) : b.hasClient = true := by
  by_contra none
  have none : b.inbox.producers = 0 := by simpa [hasClient] using none
  have still : (b.step a).view.inbox.producers = 0 := by
    refine hr.view_step (P := fun v => v.inbox.producers = 0) (fun kept v w _ move hv => ?_)
      (fun b b' _ turn hv => ?_) none a
    · cases move with
      | leave => simpa [Inbox.dropProducer] using Nat.sub_eq_zero_of_le (hv ▸ Nat.zero_le 1)
      | device hx xy => exact hv
      | refusedOpen c => exact hv
      | «open» c share room => exact hv
      | close hi room => exact hv
      | closeAll room => exact hv
      | beginClose hk hs gone => exact hv
      | endClose hk hc => exact hv
    · rw [turn.rule.inbox.1]
      exact hv
  have none : (b.step a).inbox.producers = 0 := still
  simp [hasClient, none] at client

/-- The inbox takes requests until the loop is over. -/
theorem Reachable.reader_open (hr : Reachable b) : b.inbox.reader = .open ∨
    b.loop.stage = .stopped ∨ b.loop.stage = .crashed := by
  refine hr.view_invariant (P := fun v => v.inbox.reader = .open ∨ v.loop.stage = .stopped ∨
    v.loop.stage = .crashed) (.inl rfl) (fun kept v w _ move hv => ?_) (fun b b' _ turn hv => ?_)
  · cases move with
    | device hx xy => exact hv
    | refusedOpen c => exact hv
    | «open» c share room => exact hv
    | close hi room => exact hv
    | closeAll room => exact hv
    | leave => exact hv
    | beginClose hk hs gone => exact hv
    | endClose hk hc => exact hv
  · rcases hv with reading | ended
    · exact turn.rule.inbox.2.imp (·.trans reading) id
    · have same : b'.view = b.view := turn.rule.eq_of_halted ended
      rw [same]
      exact .inr ended

/-- An active session is heard. -/
theorem Reachable.not_unheard (hr : Reachable b) (client : b.hasClient = true)
    (active : i ∈ b.loop.active) : ¬b.Unheard i := by
  rintro (unheld | none | shut)
  · simp [holdsSession, active] at unheld
  · simp [hasClient, none] at client
  · have ending : b.view.loop.stage.isEnding = true := by
      rcases hr.reader_open.resolve_left shut with ended | ended
      · exact congrArg LoopStage.isEnding ended
      · exact congrArg LoopStage.isEnding ended
    have none : b.loop.active = [] := (hr.sound.ending ending).1
    rw [none] at active
    cases active

/-! Released timers. -/

/-- A close that waits goes on waiting as long as its session is active. -/
theorem Reachable.close_waits_step (hr : Reachable b) {a : Action}
    (waits : .close i ∈ b.waiting) (active : i ∈ (b.step a).loop.active) :
    .close i ∈ (b.step a).waiting := by
  rcases hr.step_cases a with beside | turn
  · exact (View.Aside.of_meanwhile beside.view).waiting.subset waits
  · obtain ⟨rs, services, -⟩ := turn.rule.services hr.sound turn.follows
    cases services with
    | crash accepted serviced none waiting stage =>
      have ending : (b.step a).view.loop.stage.isEnding = true :=
        congrArg LoopStage.isEnding stage
      have none : (b.step a).loop.active = [] := ((hr.step a).sound.ending ending).1
      rw [none] at active
      cases active
    | serve accepted serviced split crashed =>
      have mem : .close i ∈ b.view.waiting.filter fun r => r.isClose = true :=
        List.mem_filter.2 ⟨waits, rfl⟩
      rw [split true] at mem
      rcases List.mem_append.1 mem with done | still
      · -- The turn is done with the close, and the session is active no more.
        exfalso
        have done := (List.mem_filter.1 done).1
        obtain ⟨rest, left, retires⟩ : ∃ rest left, b.Retires (b.step a) i rest left := by
          refine hr.retires ?_
          rw [← view_servicedRequests, ← view_servicedRequests, serviced, List.count_append]
          exact Nat.lt_add_of_pos_right (List.count_pos_iff.2 done)
        have out : (b.step a).loop.active = b.loop.active.filter (· ≠ i) := by
          have same : (b.step a).view.loop.active = b.loop.active.filter (· ≠ i) := by
            rw [retires.view]
            rfl
          exact same
        rw [out] at active
        exact not_mem_filter_ne i _ active
      · exact (List.mem_filter.1 still).1

/-- A released timer of an active session has asked for the close of its session. -/
theorem Reachable.asked_of_released (hr : Reachable b) (client : b.hasClient = true)
    (active : i ∈ b.loop.active) {s : Session} (hs : b.sessions[i]? = some s)
    (released : s.timer.released = true) : .close i ∈ b.waiting := by
  refine hr.session_invariant (P := fun b i s => b.hasClient = true → i ∈ b.loop.active →
    s.timer.released = true → .close i ∈ b.waiting)
    (fun b a i c d instant _ _ _ _ _ released => ?_)
    (fun b a i s s' hb before _ hp ticked client active released => ?_) i s hs client active released
  · cases (IdleTimer.released_arm instant).symm.trans released
  have client := hb.hasClient_before client
  have was : i ∈ b.loop.active := by
    refine (hb.mem_active_step a active).resolve_right ?_
    rintro ⟨rfl, -⟩
    rw [List.getElem?_eq_none (Nat.le_refl _)] at before
    cases before
  have kept : s.timer.released = true → .close i ∈ (b.step a).waiting := fun old =>
    hb.close_waits_step (hp client was old) active
  cases ticked with
  | keep tie sane asks =>
    rcases asks (hb.sane i s before) released with old | closing | asked | unheard
    · exact kept old
    · have open' := hb.unclosed i was s.tie (by simp [view, before])
      cases open'.symm.trans closing
    · exact asked
    · exact absurd unheard (hb.not_unheard client was)
  | shut fresh tie sane => exact absurd was (hb.sound.closes _ fresh).2
  | attach noClose noCloseAll active' waits tie sane same => exact kept (same.symm.trans released)

/-- A handle that is given to a session is given a token, since the session's timer is live. -/
theorem Reachable.live_of_free (hr : Reachable b) (client : b.hasClient = true)
    (noClose : firstClose? b.waiting = none) (active : i ∈ b.loop.active) {s : Session}
    (hs : b.sessions[i]? = some s) : s.timer.released = false := by
  cases released : s.timer.released with
  | false => rfl
  | true =>
    have asked := hr.asked_of_released client active hs released
    exact absurd asked (firstClose?_eq_none noClose i)

/-- Every handle that follows a device keeps a token. -/
theorem Reachable.token_of_bound (hr : Reachable b) (client : b.hasClient = true) {x : Handle}
    (hx : b.handles[h]? = some x) (bound : x.binding ≠ none) : x.token? ≠ none := by
  refine hr.handle_invariant (P := fun b x => b.hasClient = true → x.binding ≠ none →
    x.token? ≠ none) (fun b x unbound _ _ bound => absurd unbound bound)
    (fun b a h x y hb _ _ hp touched client bound => ?_) h x hx client bound
  have client := hb.hasClient_before client
  have kept : y.binding = x.binding → y.token? ≠ none := by
    intro same
    rw [Handle.token?, same]
    exact hp client (same ▸ bound)
  cases touched with
  | leave same => exact kept same.binding
  | disconnect why => exact absurd rfl bound
  | @observe k s hk hs =>
    rcases Handle.observe_cases hk s with ⟨-, unbound, -⟩ | ⟨-, still, -⟩
    · exact absurd unbound bound
    · have token : k.token ≠ none := by simpa [Handle.token?, hk] using hp client (by simp [hk])
      simpa [Handle.token?, still] using token
  | fail reason served => exact kept (x.binding_failed reason)
  | supersede served mem => exact kept (x.binding_failed _)
  | attach served noClose noCloseAll active hs waits timer =>
    rcases timer with ⟨-, rfl⟩ | ⟨released, -⟩
    · exact Option.some_ne_none _
    · have live := hb.live_of_free client noClose active hs
      cases live.symm.trans (IdleTimer.acquire?_eq_none.1 released)

/-! The close of a session that asked for it. -/

def Spares (b : Broker) (i : SessionId) : Prop := ∀ h, b.view.Current i h → ¬b.Connected h

/-- While the close of the session waits, it gets no handle. -/
theorem Reachable.spares_step (hr : Reachable b) (waits : .close i ∈ b.waiting)
    (spares : b.Spares i) (a : Action) : (b.step a).Spares i := by
  rintro h current ⟨y, hy, state⟩
  obtain ⟨x, hx, touches⟩ := hr.touches_of_connected hy state
  rcases touches.connected state with before | ⟨-, noClose⟩
  · have resolved : b.Resolves h := ⟨x, hx, by rw [before]; nofun⟩
    exact spares h (hr.current_before resolved current) ⟨x, hx, before⟩
  · exact firstClose?_eq_none noClose i waits

/-- A session whose tokens have all come back has no connected handle. -/
theorem Reachable.spares_of_tokens (hr : Reachable b) (client : b.hasClient = true) {s : Session}
    (hs : b.sessions[i]? = some s) (none : s.timer.tokens = 0) : b.Spares i := by
  rintro h current ⟨x, hx, state⟩
  have bound := (hr.fits h x hx).bound state
  obtain ⟨k, hk⟩ := Option.ne_none_iff_exists'.1 bound
  obtain ⟨j, t, ht, current', -, token⟩ := hr.held hx hk
  obtain rfl := hr.bindings.once current ((current_of_session ht).2 current')
  have held : x.token? = some i := by
    have token? : x.token? = k.token := by simp [Handle.token?, hk]
    rw [token?]
    refine token.resolve_left fun absent => ?_
    exact hr.token_of_bound client hx bound (token?.trans absent)
  rw [hr.tokens hs] at none
  exact List.countP_eq_zero.1 none x (List.mem_of_getElem? hx) (by simpa using held)

/-- A session whose close waits has lost its device by itself, or has no connected handle. -/
theorem spares_of_waits {s : Setup} {actions : List Action}
    (client : (s.broker.run actions).hasClient = true)
    (waits : .close i ∈ (s.broker.run actions).waiting) :
    (∃ before after, actions = before ++ after ∧ (s.broker.run before).LosesDevice i) ∨
      (s.broker.run actions).Spares i := by
  induction actions using List.reverseRecOn with
  | nil =>
    have none : s.broker.waiting = [] := by
      rw [← view_waiting, view_start]
      rfl
    have waits : .close i ∈ s.broker.waiting := waits
    rw [none] at waits
    cases waits
  | append_singleton actions a ih =>
    rw [run_append] at client waits ⊢
    have hr : Reachable (s.broker.run actions) := (Reachable.start s).run actions
    have client := hr.hasClient_before client
    rcases hr.asked waits with old | lost | ⟨generation, x, same, hx, none⟩
    · rcases ih client old with ⟨before, after, rfl, lost⟩ | spares
      · exact .inl ⟨before, after ++ [a], List.append_assoc _ _ _, lost⟩
      · exact .inr (hr.spares_step old spares a)
    · exact .inl ⟨actions, [a], rfl, lost⟩
    · refine .inr fun h current connected => ?_
      have same : (s.broker.run actions).step a = _ := same
      -- A countdown that wakes moves no handle.
      obtain ⟨y, hy, state⟩ := connected
      have hy : (s.broker.run actions).handles[h]? = some y := by
        have handles := (s.broker.run actions).handles_wakeCountdown i generation
        rw [← same] at handles
        exact handles ▸ hy
      have resolved : (s.broker.run actions).Resolves h := ⟨y, hy, by rw [state]; nofun⟩
      exact hr.spares_of_tokens client hx none h (hr.current_before resolved current) ⟨y, hy, state⟩

/-- A handle becomes connected to an active session whose timer is live, and gets a token. -/
theorem Reachable.token_of_connects (hr : Reachable b) (client : b.hasClient = true) {a : Action}
    {y : Handle} (hy : (b.step a).handles[h]? = some y) (state : y.state = .connected)
    (new : ¬b.Connected h) :
    ∃ i ∈ b.loop.active, ∃ x x', b.sessions[i]? = some x ∧ x.timer.released = false ∧
      (b.step a).sessions[i]? = some x' ∧ x'.current = some h ∧ x'.timer.released = false ∧
      y.token? = some i := by
  obtain ⟨x, hx, touches⟩ := hr.touches_of_connected hy state
  cases touches with
  | leave same => exact absurd ⟨x, hx, same.state.symm.trans state⟩ new
  | disconnect why => exact absurd state x.disconnect_ne_connected
  | observe hk hs => exact absurd ⟨x, hx, (Handle.Fades.observe _ x).connected state⟩ new
  | fail reason served => exact absurd ⟨x, hx, (Handle.Fades.failed x _).connected state⟩ new
  | supersede served mem => exact absurd ⟨x, hx, (Handle.Fades.failed x _).connected state⟩ new
  | @attach share i t token served noClose noCloseAll active ht waits timer =>
    have live := hr.live_of_free client noClose active ht
    obtain rfl : token = some i := by
      rcases timer with ⟨-, given⟩ | ⟨released, -⟩
      · exact given
      · cases live.symm.trans (IdleTimer.acquire?_eq_none.1 released)
    obtain ⟨j, t', ht', current, -, token⟩ := (hr.step a).held hy rfl
    obtain rfl : i = j := Option.some.inj (token.resolve_left nofun)
    obtain ⟨u, hu, ticks⟩ := hr.ticks a ht
    obtain rfl : t' = u := Option.some.inj (ht'.symm.trans hu)
    refine ⟨i, active, t, t', ht, live, ht', current, ?_, rfl⟩
    cases ticks with
    | keep tie sane asks =>
      have same : t'.current = t.current := congrArg Tie.current tie
      have before := (current_of_session ht).2 (same.symm.trans current)
      exact absurd before (hr.bindings.not_current ⟨x, hx, waits⟩ i)
    | shut fresh tie sane =>
      have none : t'.current = none := congrArg Tie.current tie
      cases none.symm.trans current
    | attach noClose noCloseAll active waits tie sane same => exact same.trans live

/-- As long as the client's end of the inbox is there, idle release takes no camera away from a user.
A handle that a step connects belongs to an active session whose timer is live, and keeps a token of
it. A session whose close is serviced has lost its device before anybody began to close it, or has no
connected handle. -/
theorem idle_release_spares_users {s : Setup} {actions : List Action}
    (client : (s.broker.run actions).hasClient = true) (a : Action) :
    (∀ (h : HandleId) (y : Handle), ((s.broker.run actions).step a).handles[h]? = some y →
      y.state = .connected → ¬(s.broker.run actions).Connected h →
      ∃ i ∈ (s.broker.run actions).loop.active, ∃ x x',
        (s.broker.run actions).sessions[i]? = some x ∧ x.timer.released = false ∧
        ((s.broker.run actions).step a).sessions[i]? = some x' ∧ x'.current = some h ∧
        x'.timer.released = false ∧ y.token? = some i) ∧
    (∀ i, (s.broker.run actions).servicedRequests.count (.close i) <
        ((s.broker.run actions).step a).servicedRequests.count (.close i) →
      (∃ before after, actions = before ++ after ∧ (s.broker.run before).LosesDevice i) ∨
        ∀ x h, (s.broker.run actions).sessions[i]? = some x → x.current = some h →
          ¬(s.broker.run actions).Connected h) := by
  have hr : Reachable (s.broker.run actions) := (Reachable.start s).run actions
  refine ⟨fun h y hy state new => hr.token_of_connects client hy state new, fun i more => ?_⟩
  obtain ⟨rest, left, retires⟩ := hr.retires more
  obtain ⟨front, back, split, -, -⟩ := firstClose?_eq_some retires.first
  have waits : .close i ∈ (s.broker.run actions).waiting := by
    rw [split]
    exact List.mem_append_right _ List.mem_cons_self
  refine (spares_of_waits client waits).imp id fun spares x h hx current => ?_
  exact spares h ((current_of_session hx).2 current)

/-- A client lets go of its camera, and the window of the idle timer goes by. -/
def leftIdle : List Action :=
  [.turn .loop, .open front true, .turn .loop, .turn .loop, .turn .loop, .disconnect 0,
    .elapse 1000, .turn (.countdown 0 3)]

theorem idle_release_spares_users_leftIdle :
    (byHand leftIdle).hasClient = true ∧
      (byHand leftIdle).servicedRequests.count (.close 0) <
        ((byHand leftIdle).step (.turn .loop)).servicedRequests.count (.close 0) ∧
      ((∃ before after, leftIdle = before ++ after ∧ (byHand before).LosesDevice 0) ∨
        ∀ x h, (byHand leftIdle).sessions[0]? = some x → x.current = some h →
          ¬(byHand leftIdle).Connected h) := by
  have client : (byHand leftIdle).hasClient = true := by decide
  have more : (byHand leftIdle).servicedRequests.count (.close 0) <
      ((byHand leftIdle).step (.turn .loop)).servicedRequests.count (.close 0) := by decide
  obtain ⟨-, closes⟩ := idle_release_spares_users client (.turn .loop)
  exact ⟨client, more, closes 0 more⟩

end CameraBroker.Broker
