import CameraBroker.Proofs.CloseRequests

/-! Runs over simulated cameras. The loop never crashes, and as long as clients only ask for cameras
and nobody touches the devices, a device goes down only when a task closes its session. -/
namespace CameraBroker.Broker

/-- Clients only ask for cameras and forget handles, and nobody touches the devices. -/
def Action.onlyAsks : Action → Bool
  | .turn _ => true
  | .open _ _ => true
  | .forget _ => true
  | .elapse _ => true
  | _ => false

def GoesDown (w : Hardware) (d : DeviceId) : Prop :=
  ∃ x, w.devices[d]? = some x ∧ x.isManual = false ∧ x.stream.state.isTearingDown = true

def Shuts (b b' : Broker) (d : DeviceId) : Prop :=
  ∃ (i : SessionId) (s : Session), b.sessions[i]? = some s ∧ s.device = d ∧
    b'.view.ties[i]? = some ⟨none, true⟩

variable {b b' : Broker} {d : DeviceId} {i : SessionId}

theorem goesDown_of_getElem? {w w' : Hardware} (same : w'.devices[d]? = w.devices[d]?)
    (down : GoesDown w' d) : GoesDown w d := by
  obtain ⟨x, hx, down⟩ := down
  exact ⟨x, same ▸ hx, down⟩

theorem goesDown_of_onward {o o' : Broker} (on : b.Onward o o') (down : GoesDown o.hw d) :
    GoesDown b.hw d := by
  have devices : o.hw.devices = b.hw.devices := congrArg (·.hw.devices) on.backdrop
  exact goesDown_of_getElem? (by rw [devices]) down

/-- The task of a release works on a device that is going down already. -/
theorem goesDown_of_release (fit : b.view.DevicesFit) {e : DeviceId} (ready : e ∈ b.hw.readyReleases)
    (down : GoesDown (b.hw.resumeRelease e) d) : GoesDown b.hw d := by
  by_cases hde : e = d
  · subst hde
    obtain ⟨-, begun⟩ := List.mem_filter.1 ready
    cases hx : b.hw.devices[e]? with
    | none => simp [hx] at begun
    | some x =>
      refine ⟨x, hx, fit.release x (List.mem_of_getElem? hx) ?_⟩
      rintro none
      obtain ⟨camera, make, stream, release⟩ := x
      cases none
      simp [hx] at begun
  · exact goesDown_of_getElem? (Hardware.getElem?_resumeRelease_ne hde) down

/-- The task that closes a session asks the device of that session to close. -/
theorem goesDown_of_resumeClose {k : Nat} (down : GoesDown (b.resumeClose k).hw d) :
    GoesDown b.hw d ∨ b.Shuts (b.resumeClose k) d := by
  unfold resumeClose at down ⊢
  cases hk : b.closes[k]? with
  | none =>
    rw [hk] at down
    exact .inl down
  | some c =>
    obtain ⟨i, stage⟩ := c
    rw [hk] at down
    cases stage with
    | awaiting => exact .inl down
    | done => exact .inl down
    | fresh =>
      cases hs : b.sessions[i]? with
      | none =>
        have nothing : b.beginClose i = (false, b) := by simp [beginClose, hs]
        simp only [nothing] at down
        exact .inl down
      | some s =>
        have begun : GoesDown (b.beginClose i).2.hw d := by
          dsimp only at down
          cases began : b.beginClose i with
          | mk started after =>
            rw [began] at down
            cases started <;> exact down
        by_cases own : s.device = d
        · obtain ⟨o, view, -, -, same⟩ := beginClose_eq hs
          have shut : o.view.ties[i]? = some ⟨none, true⟩ := by
            rw [view]
            simp [View.shut, Broker.view, hs]
          refine .inr ⟨i, s, hs, own, ?_⟩
          simp only [same]
          cases (o.hw.closeDevice s.device).1 <;> exact shut
        · refine .inl (goesDown_of_getElem? (b.devices_beginClose i fun t ht => ?_) begun)
          exact Option.some.inj (hs.symm.trans ht) ▸ own

/-- A turn of the loop gets devices that are not going down. -/
theorem goesDown_of_grows (grows : b.view.Grows b'.view) (down : GoesDown b'.hw d) :
    GoesDown b.hw d := by
  obtain ⟨y, hy, simulated, tears⟩ := down
  have joined : ∀ {x : Device}, (x.isManual = false → x.stream.state = .opening) →
      b'.hw.devices = b.hw.devices ++ [x] → GoesDown b.hw d := by
    intro x opening devices
    rw [devices] at hy
    rcases View.of_getElem?_concat hy with old | ⟨-, rfl⟩
    · exact ⟨y, old, simulated, tears⟩
    · rw [opening simulated] at tears
      cases tears
  cases grows with
  | remains h =>
    have devices : b'.hw.devices = b.hw.devices := h.devices
    exact ⟨y, devices ▸ hy, simulated, tears⟩
  | «begin» asked lost left camera own state faces devices lines active acquired =>
    exact joined (fun _ => state) devices
  | @simulated h c e x asked acquired acquires left up faces devices lines active stage =>
    have devices : b'.hw.devices = b.hw.devices.set e x.opened := devices
    rw [devices] at hy
    rcases View.of_getElem?_set hy with old | ⟨-, rfl⟩
    · exact ⟨y, old, simulated, tears⟩
    · cases tears
  | manual asked acquired left camera manual faces devices lines active stage =>
    exact joined (fun own => nomatch manual.symm.trans own) devices

/-- As long as clients only ask for cameras, a device goes down only when its session is closed. -/
theorem Reachable.goesDown_step (hr : Reachable b) {a : Action} (asks : a.onlyAsks = true)
    (down : GoesDown (b.step a).hw d) : GoesDown b.hw d ∨ b.Shuts (b.step a) d := by
  by_cases ha : a = .turn .loop
  · subst ha
    rcases loop_turn hr.sound with stays | ⟨turns, turn⟩
    · exact .inl (stays ▸ down)
    · rw [turns] at down
      exact .inl (goesDown_of_grows (turn.rule.grows hr.sound) down)
  · cases a with
    | turn t =>
      by_cases ready : t ∈ b.readyTasks
      · have turns : b.step (.turn t) = b.resumeTask t := step_of_ready ready
        rw [turns] at down ⊢
        cases t with
        | release e =>
          have ready : e ∈ b.hw.readyReleases := by simpa [readyTasks] using ready
          exact .inl (goesDown_of_release hr.sound.devicesFit ready down)
        | observe h => exact .inl (goesDown_of_onward ((Onward.refl b).observe h) down)
        | listen i => exact .inl (goesDown_of_onward ((Onward.refl b).listen i) down)
        | close k => exact goesDown_of_resumeClose down
        | countdown i generation =>
          exact .inl (goesDown_of_onward ((Onward.refl b).wakeCountdown i generation) down)
        | loop => exact absurd rfl ha
      · have stays : b.step (.turn t) = b := step_of_unready ready
        exact .inl (stays ▸ down)
    | «open» c share =>
      simp only [Broker.step] at down
      split at down
      · exact .inl (goesDown_of_onward ((Onward.refl b).requestOpen c share) down)
      · exact .inl down
    | forget h => exact .inl down
    | elapse ms => exact .inl down
    | _ => cases asks

/-- The device of a session that is new does not go down. -/
theorem Reachable.not_goesDown_of_new (hr : Reachable b) {a : Action} {f : Face}
    (new : b.view.faces[i]? = none) (hf : (b.step a).view.faces[i]? = some f) :
    ¬GoesDown (b.step a).hw f.device := by
  have old : (b.step a).view.faces = b.view.faces → ¬GoesDown (b.step a).hw f.device := by
    intro same
    rw [same, new] at hf
    cases hf
  have joined : ∀ {e : Face}, (b.step a).view.faces = b.view.faces ++ [e] → e = f := by
    intro e faces
    rw [faces] at hf
    rcases View.of_getElem?_concat hf with there | ⟨-, same⟩
    · cases new.symm.trans there
    · exact same.symm
  rcases hr.step_cases a with beside | turn
  · exact old (View.Aside.of_meanwhile beside.view).faces
  rintro ⟨y, hy, simulated, tears⟩
  have hy : (b.step a).view.devices[f.device]? = some y := hy
  cases turn.rule.grows hr.sound with
  | remains h => exact old h.faces ⟨y, hy, simulated, tears⟩
  | «begin» asked lost left camera own state faces devices lines active acquired =>
    exact old faces ⟨y, hy, simulated, tears⟩
  | @simulated h c e x asked acquired acquires left up faces devices lines active stage =>
    obtain rfl := joined faces
    have there : e < b.view.devices.length := (List.getElem?_eq_some_iff.1 acquires.there).1
    rw [devices, List.getElem?_set_self there] at hy
    obtain rfl := Option.some.inj hy
    cases tears
  | @manual h c x asked acquired left camera manual faces devices lines active stage =>
    obtain rfl := joined faces
    rw [devices, List.getElem?_append_right (Nat.le_refl _), Nat.sub_self] at hy
    obtain rfl : x = y := Option.some.inj hy
    cases manual.symm.trans simulated

def Upheld (b : Broker) : Prop := ∀ (i : SessionId) (s : Session), b.sessions[i]? = some s →
  GoesDown b.hw s.device → s.closing = true

/-- As long as clients only ask for cameras, the devices of sessions that nobody closes stay up. -/
theorem Reachable.upheld_step (hr : Reachable b) (upheld : b.Upheld) {a : Action}
    (asks : a.onlyAsks = true) : (b.step a).Upheld := by
  intro i s' hs' down
  have face : ∀ {b : Broker} {i : SessionId} {s : Session}, b.sessions[i]? = some s →
      b.view.faces[i]? = some s.face := fun hs => by simp [view, hs]
  cases hs : b.sessions[i]? with
  | none =>
    have new : b.view.faces[i]? = none := by simpa [view] using hs
    exact absurd down (hr.not_goesDown_of_new new (face hs'))
  | some s =>
    have own : s'.device = s.device :=
      congrArg Face.device (Option.some.inj ((face hs').symm.trans (hr.faces_step (face hs) a)))
    rcases hr.goesDown_step asks down with before | ⟨j, t, ht, device, shut⟩
    · have was : s.closing = true := upheld i s hs (own ▸ before)
      obtain ⟨u, hu, ticks⟩ := hr.ticks a hs
      obtain rfl : s' = u := Option.some.inj (hs'.symm.trans hu)
      cases ticks with
      | keep tie sane asks => exact (congrArg Tie.closing tie).trans was
      | shut fresh tie sane => exact congrArg Tie.closing tie
      | attach noClose noCloseAll active waits tie sane released =>
        exact (congrArg Tie.closing tie).trans was
    · obtain rfl : i = j := hr.eq_of_device i j s.face t.face (face hs) (face ht)
        (own.symm.trans device.symm)
      have tie : (b.step a).view.ties[i]? = some s'.tie := by simp [view, hs']
      exact congrArg Tie.closing (Option.some.inj (tie.symm.trans shut))

/-! Where devices are opened with retries. -/

theorem Opens.alive {h : HandleId} {c : CameraId} {v w : View} (opens : Opens b' h c v w)
    (unscripted : ∀ h due, v.loop.stage ≠ .opening h (.scripted due)) :
    w.loop.stage ≠ .crashed := by
  cases opens with
  | crash scripted => exact absurd scripted (unscripted _ _)
  | _ => exact nofun

/-- A loop that follows no script does not crash. -/
theorem Rule.alive {w : View} (rule : Rule b b' w)
    (unscripted : ∀ h due, b.loop.stage ≠ .opening h (.scripted due))
    (alive : b.loop.stage ≠ .crashed) : w.loop.stage ≠ .crashed := by
  cases rule with
  | idle => exact alive
  | start stage => exact nofun
  | finish stage done noClient leaves => exact LoopStage.afterWait_ne_crashed _ _ _
  | close stage first leaves => exact LoopStage.afterWait_ne_crashed _ _ _
  | closeAll stage noClose last resolved leaves => exact LoopStage.afterWait_ne_crashed _ _ _
  | await stage sub down => exact LoopStage.afterWait_ne_crashed _ _ _
  | opener stage camera opens => exact opens.alive unscripted
  | serve stage head camera serves =>
    cases serves with
    | stale answered => exact nofun
    | makeRoom waits exclusive conflict some leaves => exact LoopStage.afterWait_ne_crashed _ _ _
    | replace waits active leaves => exact LoopStage.afterWait_ne_crashed _ _ _
    | attach waits active ht resolved kept => exact nofun
    | deny waits resolved => exact nofun
    | ask waits alone none opens => exact opens.alive unscripted

/-- The broker opens simulated cameras with retries, and nothing has gone wrong. -/
structure Simulated (b : Broker) : Prop where
  reachable : Reachable b
  tame : b.Tame
  devices : ∀ x ∈ b.hw.devices, x.isManual = false
  alive : b.loop.stage ≠ .crashed

theorem Simulated.start {s : Setup} (retries : ∃ p, s.opener = .retrying p) :
    s.broker.Simulated := by
  have none : s.broker.hw.devices = [] := congrArg View.devices (view_start s)
  exact ⟨.start s, ⟨retries, nofun⟩, fun x hx => absurd (none ▸ hx) List.not_mem_nil, nofun⟩

theorem Simulated.step (h : b.Simulated) (a : Action) : (b.step a).Simulated := by
  obtain ⟨tame, devices⟩ := h.tame.step h.reachable h.devices a
  refine ⟨h.reachable.step a, tame, devices, ?_⟩
  rcases h.reachable.step_cases a with beside | turn
  · have loop : (b.step a).loop = b.loop := (View.Aside.of_meanwhile beside.view).loop
    exact loop ▸ h.alive
  · exact turn.rule.alive h.tame.stage h.alive

theorem Simulated.run (h : b.Simulated) (actions : List Action) : (b.run actions).Simulated :=
  run_induction (P := Simulated) (fun _ a h => h.step a) h actions

/-- Simulated devices stay closed anyway. -/
theorem throughout_keepsClosed (h : b.Simulated) {actions : List Action} :
    Throughout KeepsClosed actions b := by
  induction actions generalizing b with
  | nil => exact trivial
  | cons a actions ih =>
    refine ⟨fun p mem manual => ?_, ih (h.step a)⟩
    have own := h.devices p.1 (List.of_mem_zip mem).1
    cases own.symm.trans manual

end CameraBroker.Broker
