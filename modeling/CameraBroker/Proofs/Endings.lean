import CameraBroker.Proofs.NoStranded
import CameraBroker.Proofs.Overflow
import CameraBroker.Proofs.Progress
import CameraBroker.Proofs.Shutdown
import CameraBroker.Proofs.SimulatedRuns

/-! How runs over simulated cameras end. While nobody touches the devices, each session that the loop
waits for has a task that closes it, and each device that closes has a release under way. So a loop
without clients that rests before its end waits for an alarm that lies ahead. -/
namespace CameraBroker

/-- A device that closes is being released. -/
def Device.Tends (x : Device) : Prop :=
  x.stream.state = .closing → x.release = .starting ∨ ∃ due, x.release = .running due

namespace DeviceState

/-- All that keeps a device from going further is that it has come as far. -/
theorem isTearingDown_of_stuck {s : DeviceState} (stuck : s.canAdvanceTo .closing ≠ true) :
    s.isTearingDown = true := by
  cases s with
  | closing => rfl
  | closed => rfl
  | _ => exact absurd rfl stuck

theorem eq_closed_of_stuck {s : DeviceState} (stuck : s.canAdvanceTo .closed ≠ true) :
    s = .closed := by
  cases s with
  | closed => rfl
  | _ => exact absurd rfl stuck

end DeviceState

namespace Hardware
variable {w : Hardware} {d : DeviceId} {x : Device}

/-- A simulated device that is asked to close goes down, and its release begins. -/
theorem closeDevice_self (hx : w.devices[d]? = some x) (simulated : x.isManual = false)
    (tends : x.Tends) : ∃ y, (w.closeDevice d).2.devices[d]? = some y ∧ y.isManual = false ∧
      y.stream.state.isTearingDown = true ∧ y.Tends := by
  unfold closeDevice
  rw [hx]
  cases make : x.make with
  | manual onClose =>
    simp [Device.isManual, make] at simulated
  | simulated latency =>
    dsimp only
    rw [make]
    dsimp only
    rw [advance?_eq hx]
    by_cases up : x.stream.state.canAdvanceTo .closing = true
    · rw [if_pos up]
      refine ⟨{ x with stream := x.stream.publish .closing, release := .starting }, ?_, simulated,
        rfl, fun _ => .inl rfl⟩
      have published := getElem?_onStream hx fun _ => x.stream.publish .closing
      simp [onDevice, published]
    · rw [if_neg up]
      exact ⟨x, hx, simulated, DeviceState.isTearingDown_of_stuck up, tends⟩

/-- A release that ends leaves its device closed. -/
theorem closed_of_finishRelease {y : Device} (hy : (w.finishRelease d).devices[d]? = some y) :
    y.stream.state = .closed := by
  unfold finishRelease at hy
  dsimp only at hy
  cases hx : w.devices[d]? with
  | none =>
    have nothing : w.advance? d .closed = none := by simp [advance?, hx]
    simp [nothing, onDevice, hx] at hy
  | some x =>
    rw [advance?_eq hx] at hy
    by_cases up : x.stream.state.canAdvanceTo .closed = true
    · have published : (w.onStream d fun _ => x.stream.publish .closed).devices[d]? =
          some { x with stream := x.stream.publish .closed } := getElem?_onStream hx _
      rw [if_pos up] at hy
      obtain rfl : { x with stream := x.stream.publish .closed, release := .done } = y := by
        simpa [onDevice, recordRelease, onCamera, emit, published] using hy
      rfl
    · rw [if_neg up] at hy
      obtain rfl : { x with release := .done } = y := by simpa [onDevice, hx] using hy
      exact DeviceState.eq_closed_of_stuck up

theorem tends_resumeRelease (tends : ∀ x ∈ w.devices, x.Tends) (d : DeviceId) :
    ∀ x ∈ (w.resumeRelease d).devices, x.Tends := by
  intro y mem
  obtain ⟨e, he⟩ := List.mem_iff_getElem?.1 mem
  by_cases hde : d = e
  · subst hde
    unfold resumeRelease at he
    split at he
    · obtain ⟨x, -, rfl⟩ : ∃ x, w.devices[d]? = some x ∧ _ = y := by
        simpa [onDevice] using he
      exact fun _ => .inr ⟨_, rfl⟩
    · intro closing
      cases closing.symm.trans (closed_of_finishRelease he)
  · rw [getElem?_resumeRelease_ne hde] at he
    exact tends y (List.mem_of_getElem? he)

end Hardware

namespace View
variable {v w : View}

def Tasked (v : View) : Prop := ∀ i ∈ v.loop.stage.left, ∃ c ∈ v.closes, c.session = i

theorem Tasked.of_idle (idle : v.loop.stage.left = []) : v.Tasked := by
  intro i hi
  rw [idle] at hi
  cases hi

theorem tasked_retire {u : View} {sessions active left : List SessionId} {after : AfterClose}
    (sub : left ⊆ sessions) : (u.retire sessions active left after).Tasked := by
  intro i hi
  have stage : (u.retire sessions active left after).loop.stage =
      .afterWait sessions left after := rfl
  rw [stage, LoopStage.left_afterWait] at hi
  exact ⟨{ session := i }, List.mem_append_right _ (List.mem_map_of_mem (sub hi)), rfl⟩

theorem Tasked.background {kept : HandleId → Prop} (h : Background kept v w) (hv : v.Tasked) :
    w.Tasked := by
  have turned : ∀ (k : Nat) (stage : CloseStage) (closes : List SessionClose),
      (∀ i ∈ v.loop.stage.left, ∃ c ∈ closes, c.session = i) → ∀ i ∈ v.loop.stage.left,
        ∃ c ∈ closes.modify k (fun c => { c with stage }), c.session = i := by
    intro k stage closes all i hi
    obtain ⟨c, mem, session⟩ := all i hi
    obtain ⟨j, hj⟩ := List.mem_iff_getElem?.1 mem
    refine ⟨if k = j then { c with stage } else c, List.mem_iff_getElem?.2 ⟨j, ?_⟩, ?_⟩
    · rw [List.getElem?_modify, hj]
      by_cases own : k = j <;> simp [own]
    · by_cases own : k = j <;> simp [own, session]
  cases h with
  | device hx xy => exact hv
  | refusedOpen c => exact hv
  | «open» c share room => exact hv
  | close hi room => exact hv
  | closeAll room => exact hv
  | leave => exact hv
  | beginClose hk hs gone => exact turned _ _ _ hv
  | endClose hk hc => exact turned _ _ _ hv

end View

namespace Broker
variable {b b' : Broker} {w : View} {i : SessionId} {a : Action}

theorem Opens.left {h : HandleId} {c : CameraId} {v : View} (opens : Opens b' h c v w) :
    w.loop.stage.left = [] := by
  cases opens with
  | giveUp lost resolved => rfl
  | pause lost attempt due => rfl
  | «begin» lost camera simulated state release attempt due => rfl
  | call lost due => rfl
  | simulated stage hx up => rfl
  | manual stage camera manual release => rfl
  | crash stage => rfl

theorem Rule.tasked (rule : Rule b b' w) (hv : b.view.Tasked) : w.Tasked := by
  cases rule with
  | idle => exact hv
  | start stage => exact .of_idle rfl
  | finish stage done noClient leaves => exact View.tasked_retire leaves.sub
  | close stage first leaves => exact View.tasked_retire leaves.sub
  | closeAll stage noClose last resolved leaves => exact View.tasked_retire leaves.sub
  | serve stage head camera serves =>
    cases serves with
    | stale answered => exact .of_idle rfl
    | makeRoom waits exclusive conflict some leaves => exact View.tasked_retire leaves.sub
    | replace waits active leaves => exact View.tasked_retire leaves.sub
    | attach waits active ht resolved kept => exact .of_idle rfl
    | deny waits resolved => exact .of_idle rfl
    | ask waits alone none opens => exact .of_idle opens.left
  | opener stage camera opens => exact .of_idle opens.left
  | await stage sub down =>
    intro i hi
    have hi : i ∈ (LoopStage.afterWait _ _ _).left := hi
    rw [LoopStage.left_afterWait] at hi
    have stage : b.view.loop.stage = _ := stage
    exact hv i (by rw [stage]; exact sub hi)

theorem Reachable.tasked (hr : Reachable b) : b.view.Tasked :=
  hr.view_invariant (.of_idle rfl) (fun _ _ _ _ move hv => hv.background move)
    fun _ _ _ turn hv => turn.rule.tasked hv

/-! Only the loop and the tasks themselves change what is to be closed. -/

theorem Rule.closes_fresh (rule : Rule b b' w) :
    ∀ c ∈ w.closes, c ∈ b.view.closes ∨ c.stage = .fresh := by
  have retired : ∀ {u : View} {sessions active left : List SessionId} {after : AfterClose},
      u.closes = b.view.closes → ∀ c ∈ (u.retire sessions active left after).closes,
        c ∈ b.view.closes ∨ c.stage = .fresh := by
    intro u sessions active left after same c mem
    rcases List.mem_append.1 mem with old | new
    · exact .inl (same ▸ old)
    · obtain ⟨i, -, rfl⟩ := List.mem_map.1 new
      exact .inr rfl
  have kept : w.closes = b.view.closes → ∀ c ∈ w.closes, c ∈ b.view.closes ∨ c.stage = .fresh :=
    fun same c mem => .inl (same ▸ mem)
  cases rule with
  | idle => exact kept rfl
  | start stage => exact kept rfl
  | finish stage done noClient leaves => exact retired rfl
  | close stage first leaves => exact retired rfl
  | closeAll stage noClose last resolved leaves => exact retired rfl
  | serve stage head camera serves =>
    cases serves with
    | stale answered => exact kept rfl
    | makeRoom waits exclusive conflict some leaves => exact retired rfl
    | replace waits active leaves => exact retired rfl
    | attach waits active ht resolved kept' => exact kept rfl
    | deny waits resolved => exact kept rfl
    | ask waits alone none opens => exact kept opens.closes
  | opener stage camera opens => exact kept opens.closes
  | await stage sub down => exact kept rfl

/-! Devices that nobody touches. -/

/-- Clients may open, close all and shut down, but nobody touches the devices. -/
def Action.sparesDevices : Action → Bool
  | .turn _ => true
  | .open _ _ => true
  | .closeAll => true
  | .shutdown => true
  | .forget _ => true
  | .elapse _ => true
  | _ => false

/-- Every device that closes is being released, and the device of each session that a task has begun
to close goes down. -/
structure Winds (b : Broker) : Prop where
  tends : ∀ x ∈ b.hw.devices, x.Tends
  begun : ∀ c ∈ b.closes, c.stage ≠ .fresh → ∀ s, b.sessions[c.session]? = some s →
    GoesDown b.hw s.device

theorem Winds.start (s : Setup) : s.broker.Winds := by
  have none : s.broker.hw.devices = [] := congrArg View.devices (view_start s)
  refine ⟨fun x hx => ?_, nofun⟩
  rw [none] at hx
  cases hx

theorem Reachable.goesDown_run (hr : Reachable b) {d : DeviceId} (down : GoesDown b.hw d)
    (a : Action) : GoesDown (b.step a).hw d := by
  obtain ⟨x, hx, simulated, tears⟩ := down
  obtain ⟨y, hy, passes⟩ := hr.device_step hx a
  exact ⟨y, hy, passes.ages.isManual.trans simulated, passes.ages.down simulated tears⟩

/-- The task has begun to close its session before, or does so now, if it has begun at all. -/
theorem Winds.begun_step (winds : b.Winds) (hr : Reachable b)
    (closes : ∀ c ∈ (b.step a).closes, c.stage = .fresh ∨
      (∃ c' ∈ b.closes, c'.session = c.session ∧ c'.stage ≠ .fresh) ∨
        c.session < b.view.faces.length ∧ ∀ s, b.sessions[c.session]? = some s →
          GoesDown (b.step a).hw s.device) :
    ∀ c ∈ (b.step a).closes, c.stage ≠ .fresh → ∀ s, (b.step a).sessions[c.session]? = some s →
      GoesDown (b.step a).hw s.device := by
  intro c mem begun s' hs'
  have face : ∀ {b : Broker} {i : SessionId} {s : Session}, b.sessions[i]? = some s →
      b.view.faces[i]? = some s.face := fun hs => by simp [view, hs]
  have before : c.session < b.view.faces.length → ∃ s, b.sessions[c.session]? = some s ∧
      s'.device = s.device := by
    intro there
    have there : c.session < b.sessions.length := by simpa [view] using there
    have hs := List.getElem?_eq_getElem there
    exact ⟨_, hs, congrArg Face.device (Option.some.inj ((face hs').symm.trans
      (hr.faces_step (face hs) a)))⟩
  rcases closes c mem with fresh | ⟨c', mem', same, begun'⟩ | ⟨there, down⟩
  · exact absurd fresh begun
  · obtain ⟨s, hs, device⟩ := before (same ▸ (hr.sound.closes c' mem').1)
    rw [device]
    exact hr.goesDown_run (winds.begun c' mem' begun' s (same ▸ hs)) a
  · obtain ⟨s, hs, device⟩ := before there
    exact device ▸ down s hs

/-- Where tasks that had begun before are the only ones that have begun. -/
theorem Winds.begun_of_old (winds : b.Winds) (hr : Reachable b)
    (old : ∀ c ∈ (b.step a).closes, c ∈ b.closes ∨ c.stage = .fresh) :
    ∀ c ∈ (b.step a).closes, c.stage ≠ .fresh → ∀ s, (b.step a).sessions[c.session]? = some s →
      GoesDown (b.step a).hw s.device := by
  refine winds.begun_step hr fun c mem => ?_
  by_cases fresh : c.stage = .fresh
  · exact .inl fresh
  · exact .inr (.inl ⟨c, (old c mem).resolve_right fresh, rfl, fresh⟩)

theorem mem_closes_modify {k : Nat} {stage : CloseStage} {closes : List SessionClose}
    {c : SessionClose} (mem : c ∈ closes.modify k fun c => { c with stage }) :
    c ∈ closes ∨ ∃ c', closes[k]? = some c' ∧ c'.session = c.session := by
  obtain ⟨j, hj⟩ := List.mem_iff_getElem?.1 mem
  rw [List.getElem?_modify] at hj
  obtain ⟨c', hc', rfl⟩ := Option.map_eq_some_iff.1 hj
  by_cases own : k = j
  · subst own
    exact .inr ⟨c', hc', by simp⟩
  · refine .inl ?_
    simpa [own] using List.mem_of_getElem? hc'

/-- Once a task has begun to close its session, its turns touch no device any more. -/
theorem resumeClose_of_begun {k : Nat} {c : SessionClose} (hk : b.closes[k]? = some c)
    (begun : c.stage ≠ .fresh) : b.resumeClose k =
      { b with closes := b.closes.modify k fun c => { c with stage := .done } } := by
  obtain ⟨i, stage⟩ := c
  unfold resumeClose
  rw [hk]
  cases stage with
  | fresh => exact absurd rfl begun
  | awaiting => rfl
  | done => rfl

/-- A task that begins to close its session asks the device of that session to close. -/
theorem resumeClose_of_fresh {k : Nat} {s : Session} (hk : b.closes[k]? = some { session := i })
    (hs : b.sessions[i]? = some s) : ∃ (w : Hardware) (stage : CloseStage),
      w.devices = b.hw.devices ∧ (b.resumeClose k).hw = (w.closeDevice s.device).2 ∧
        (b.resumeClose k).closes = b.closes.modify k fun c => { c with stage } := by
  obtain ⟨o, view, -, -, began⟩ := beginClose_eq hs
  have closes : o.closes = b.closes := congrArg View.closes view
  unfold resumeClose
  simp only [hk, began]
  cases (o.hw.closeDevice s.device).1 with
  | true => exact ⟨o.hw, _, congrArg View.devices view, rfl, by rw [← closes]⟩
  | false => exact ⟨o.hw, _, congrArg View.devices view, rfl, by rw [← closes]⟩

theorem Simulated.winds_begin (h : b.Simulated) (winds : b.Winds) {k : Nat}
    (hk : b.closes[k]? = some { session := i }) (turns : b.step a = b.resumeClose k) :
    (b.step a).Winds := by
  have hr := h.reachable
  have there := (hr.sound.closes _ (List.mem_of_getElem? hk)).1
  have there' : i < b.sessions.length := by simpa [view] using there
  have hs := List.getElem?_eq_getElem there'
  have face : b.view.faces[i]? = some b.sessions[i].face := by simp [view, hs]
  obtain ⟨x, hx, -⟩ := hr.sound.faces _ (List.mem_of_getElem? face)
  obtain ⟨w, stage, devices, hw, modified⟩ := resumeClose_of_fresh hk hs
  have mem : x ∈ b.hw.devices := List.mem_of_getElem? hx
  have hx : w.devices[b.sessions[i].device]? = some x := by
    rw [devices]
    exact hx
  obtain ⟨y, hy, simulated, tears, tends⟩ :=
    Hardware.closeDevice_self hx (h.devices x mem) (winds.tends x mem)
  refine ⟨fun z hz => ?_, winds.begun_step hr fun c mem => ?_⟩
  · rw [turns, hw] at hz
    obtain ⟨e, he⟩ := List.mem_iff_getElem?.1 hz
    by_cases own : b.sessions[i].device = e
    · subst own
      exact Option.some.inj (hy.symm.trans he) ▸ tends
    · rw [Hardware.getElem?_closeDevice_ne own, devices] at he
      exact winds.tends z (List.mem_of_getElem? he)
  · rw [turns, modified] at mem
    by_cases fresh : c.stage = .fresh
    · exact .inl fresh
    · rcases mem_closes_modify mem with old | ⟨c', hc', session⟩
      · exact .inr (.inl ⟨c, old, rfl, fresh⟩)
      · obtain rfl := Option.some.inj (hk.symm.trans hc')
        refine .inr (.inr ⟨session ▸ there, fun s' hs' => ?_⟩)
        obtain rfl := Option.some.inj (hs.symm.trans (session ▸ hs'))
        rw [turns, hw]
        exact ⟨y, hy, simulated, tears⟩

/-- A task that closes a session winds its device down. -/
theorem Simulated.winds_close (h : b.Simulated) (winds : b.Winds) {k : Nat}
    (turns : b.step a = b.resumeClose k) : (b.step a).Winds := by
  cases hk : b.closes[k]? with
  | none =>
    have stays : b.resumeClose k = b := by rw [resumeClose, hk]
    rw [turns, stays]
    exact winds
  | some c =>
    by_cases fresh : c.stage = .fresh
    · obtain ⟨i, stage⟩ := c
      cases fresh
      exact h.winds_begin winds hk turns
    · have same := resumeClose_of_begun hk fresh
      refine ⟨?_, winds.begun_step h.reachable fun c' mem => ?_⟩
      · rw [turns, same]
        exact winds.tends
      · rw [turns, same] at mem
        rcases mem_closes_modify mem with old | ⟨c'', hc'', session⟩
        · by_cases fresh' : c'.stage = .fresh
          · exact .inl fresh'
          · exact .inr (.inl ⟨c', old, rfl, fresh'⟩)
        · obtain rfl := Option.some.inj (hk.symm.trans hc'')
          exact .inr (.inl ⟨_, List.mem_of_getElem? hk, session, fresh⟩)

/-- A turn of the loop gets devices that are not closing. -/
theorem tends_of_grows (tends : ∀ x ∈ b.hw.devices, x.Tends) (grows : b.view.Grows b'.view)
    (simulated : ∀ x ∈ b'.hw.devices, x.isManual = false) : ∀ x ∈ b'.hw.devices, x.Tends := by
  have joined : ∀ {x : Device}, (x.isManual = false → x.stream.state = .opening) →
      b'.hw.devices = b.hw.devices ++ [x] → ∀ x ∈ b'.hw.devices, x.Tends := by
    intro x opening devices y mem
    have own := simulated y mem
    rw [devices] at mem
    rcases List.mem_append.1 mem with old | new
    · exact tends y old
    · obtain rfl := List.mem_singleton.1 new
      exact fun closing => nomatch closing.symm.trans (opening own)
  cases grows with
  | remains h =>
    have devices : b'.hw.devices = b.hw.devices := h.devices
    rw [devices]
    exact tends
  | «begin» asked lost left camera own state faces devices lines active acquired =>
    exact joined (fun _ => state) devices
  | @simulated h c e x asked acquired acquires left up faces devices lines active stage =>
    have devices : b'.hw.devices = b.hw.devices.set e x.opened := devices
    intro y mem
    rw [devices] at mem
    rcases List.mem_or_eq_of_mem_set mem with old | rfl
    · exact tends y old
    · exact fun closing => nomatch closing
  | manual asked acquired left camera manual faces devices lines active stage =>
    exact joined (fun own => nomatch manual.symm.trans own) devices

theorem Simulated.winds_step (h : b.Simulated) (winds : b.Winds) (spares : a.sparesDevices = true) :
    (b.step a).Winds := by
  have hr := h.reachable
  -- Whatever leaves the devices and the closes alone.
  have plain : (b.step a).hw.devices = b.hw.devices → (b.step a).closes = b.closes →
      (b.step a).Winds := fun devices closes =>
    ⟨devices ▸ winds.tends, winds.begun_of_old hr fun c mem => .inl (closes ▸ mem)⟩
  have onward : ∀ {o o'}, b.step a = o → b.Onward o o' → (b.step a).Winds := by
    rintro o o' rfl on
    exact plain (congrArg (·.hw.devices) on.backdrop) (congrArg (·.closes) on.backdrop)
  by_cases ha : a = .turn .loop
  · subst ha
    rcases loop_turn hr.sound with stays | ⟨turns, turn⟩
    · rw [stays]
      exact winds
    · have simulated := (h.step (.turn .loop)).devices
      refine ⟨?_, winds.begun_of_old hr fun c mem => ?_⟩
      · rw [turns] at simulated ⊢
        exact tends_of_grows winds.tends (turn.rule.grows hr.sound) simulated
      · rw [turns] at mem
        exact turn.rule.closes_fresh c mem
  · cases a with
    | turn t =>
      by_cases ready : t ∈ b.readyTasks
      · have turns : b.step (.turn t) = b.resumeTask t := step_of_ready ready
        cases t with
        | release d =>
          refine ⟨?_, winds.begun_of_old hr fun c mem => ?_⟩
          · rw [turns]
            exact Hardware.tends_resumeRelease winds.tends d
          · rw [turns] at mem
            exact .inl mem
        | observe g => exact onward turns ((Onward.refl b).observe g)
        | listen i => exact onward turns ((Onward.refl b).listen i)
        | close k => exact h.winds_close winds turns
        | countdown i generation =>
          exact onward turns ((Onward.refl b).wakeCountdown i generation)
        | loop => exact absurd rfl ha
      · have stays : b.step (.turn t) = b := step_of_unready ready
        rw [stays]
        exact winds
    | «open» c share =>
      by_cases client : b.hasClient = true
      · have asks : b.step (.open c share) = orUnchanged (b.requestOpen c share) b := if_pos client
        exact onward asks ((Onward.refl b).requestOpen c share)
      · have stays : b.step (.open c share) = b := if_neg client
        rw [stays]
        exact winds
    | closeAll =>
      by_cases client : b.hasClient = true
      · have asks : b.step .closeAll = orUnchanged b.requestCloseAll b := if_pos client
        exact onward asks (Onward.refl b).requestCloseAll
      · have stays : b.step .closeAll = b := if_neg client
        rw [stays]
        exact winds
    | shutdown =>
      by_cases client : b.hasClient = true
      · have asks : b.step .shutdown = b.beginShutdown := if_pos client
        have offered := ((Onward.refl b).offerOrLeave .closeAll).backdrop
        rw [asks] at plain
        exact asks ▸ plain (congrArg (·.hw.devices) offered) (congrArg (·.closes) offered)
      · have stays : b.step .shutdown = b := if_neg client
        rw [stays]
        exact winds
    | forget g => exact plain rfl rfl
    | elapse ms => exact plain rfl rfl
    | _ => cases spares

theorem Simulated.winds_run (h : b.Simulated) (winds : b.Winds) {actions : List Action}
    (spares : ∀ a ∈ actions, a.sparesDevices = true) : (b.run actions).Winds := by
  induction actions generalizing b with
  | nil => exact winds
  | cons a actions ih =>
    exact ih (h.step a) (h.winds_step winds (spares a List.mem_cons_self))
      fun a' mem => spares a' (List.mem_cons_of_mem a mem)

/-! At rest. -/

theorem not_loopReady_of_rest (rest : b.readyTasks = []) : b.loopReady = false := by
  have tasks : (if b.loopReady then [Task.loop] else []) = [] :=
    (List.append_eq_nil_iff.1 rest).2
  simpa using tasks

theorem isSessionGone_of_closed {s : Session} {x : Device} (hs : b.sessions[i]? = some s)
    (hx : b.hw.devices[s.device]? = some x) (closed : x.stream.state = .closed) :
    b.isSessionGone i = true := by
  obtain ⟨st, hst⟩ : ∃ st, b.stream? s.device = some st := by simp [stream?, hx]
  obtain ⟨y, hy, state, -⟩ := device_of_stream? hst
  obtain rfl : x = y := Option.some.inj (hx.symm.trans hy)
  simp [isSessionGone, sessionStream?, hs, hst, Stream.isGone, state, closed]

/-- A release that has begun is ready to go on, or sleeps. -/
theorem sleeps_of_closing (rest : b.readyTasks = []) {d : DeviceId} {x : Device}
    (hx : b.hw.devices[d]? = some x) (closing : x.stream.state = .closing) (tends : x.Tends) :
    ∃ due, (Task.release d, due) ∈ b.sleepers ∧ b.now < due := by
  obtain ⟨there, -⟩ := List.getElem?_eq_some_iff.1 hx
  have unready : d ∉ b.hw.readyReleases := by
    intro mem
    have ready : .release d ∈ b.readyTasks := by simp [readyTasks, mem]
    rw [rest] at ready
    cases ready
  obtain ⟨camera, make, stream, release⟩ := x
  rcases tends closing with begins | ⟨due, runs⟩
  · cases begins
    refine absurd (List.mem_filter.2 ⟨List.mem_range.2 there, ?_⟩) unready
    simp [hx]
  · cases runs
    refine ⟨due, ?_, Nat.lt_of_not_le fun past => unready ?_⟩
    · have asleep : (d, due) ∈ b.hw.sleepingReleases :=
        List.mem_filterMap.2 ⟨d, List.mem_range.2 there, by simp [hx]⟩
      exact List.mem_append_left _ (List.mem_append_left _ (List.mem_map_of_mem asleep))
    · exact List.mem_filter.2 ⟨List.mem_range.2 there, by
        simp only [hx]
        exact decide_eq_true past⟩

/-- A loop without clients that rests has come to its end, or waits for an alarm that lies ahead: that
of the opener, or that of the release of a device. -/
theorem Simulated.ended_of_rest (h : b.Simulated) (winds : b.Winds) (alone : b.hasClient = false)
    (rest : b.readyTasks = []) : b.loop.stage = .stopped ∨ ∃ t due, (t, due) ∈ b.sleepers ∧
      b.now < due ∧ (t = .loop ∨ ∃ d, t = .release d) := by
  have hr := h.reachable
  have idle := not_loopReady_of_rest rest
  cases stage : b.loop.stage with
  | fresh => simp [loopReady, stage] at idle
  | reading =>
    have none : b.inbox.producers = 0 := by simpa [hasClient] using alone
    simp [loopReady, stage, none] at idle
  | «opening» g call =>
    refine .inr ⟨.loop, OpenerCall.due call, ?_, ?_, .inl rfl⟩
    · simp [sleepers, stage]
    · simpa [loopReady, stage] using idle
  | closing sessions left after =>
    obtain ⟨i, more, rfl⟩ := List.exists_cons_of_ne_nil (hr.left_ne_nil stage)
    have waited : i ∈ b.view.loop.stage.left := by
      have same : b.view.loop.stage = _ := stage
      rw [same]
      exact List.mem_cons_self
    obtain ⟨c, mem, rfl⟩ := hr.tasked i waited
    have there : c.session < b.sessions.length := by
      simpa [view] using (hr.sound.closes c mem).1
    have hs := List.getElem?_eq_getElem there
    have begun : c.stage ≠ .fresh := by
      intro fresh
      obtain ⟨session, stage⟩ := c
      cases fresh
      exact not_fresh_of_rest rest session mem
    obtain ⟨x, hx, -, tears⟩ := winds.begun c mem begun _ hs
    cases state : x.stream.state with
    | closed =>
      have gone := isSessionGone_of_closed hs hx state
      simp [loopReady, stage, gone] at idle
    | closing =>
      obtain ⟨due, sleeps, ahead⟩ :=
        sleeps_of_closing rest hx state (winds.tends x (List.mem_of_getElem? hx))
      exact .inr ⟨_, due, sleeps, ahead, .inr ⟨_, rfl⟩⟩
    | _ =>
      rw [state] at tears
      cases tears
  | stopped => exact .inl rfl
  | crashed => exact absurd stage h.alive

end Broker

end CameraBroker
