import CameraBroker.Proofs.Clock

/-! Runs over simulated cameras. An opener that retries stays one, and then every device is simulated.
A simulated device begins to close only when a task closes its session. -/
namespace CameraBroker.Broker

/-! Simulated devices that begin to close. -/

def ClosesDown (w : Hardware) (d : DeviceId) : Prop :=
  ∃ x, w.devices[d]? = some x ∧ x.isManual = false ∧ x.stream.state = .closing

/-- No simulated device begins to close. -/
def Lulls (w w' : Hardware) : Prop := ∀ d, ClosesDown w' d → ClosesDown w d

section Hardware
variable {w : Hardware} {d : DeviceId}

theorem Lulls.of_eq {w' : Hardware} (same : w'.devices = w.devices) : Lulls w w' := by
  rintro d ⟨x, hx, closes⟩
  exact ⟨x, same ▸ hx, closes⟩

/-- A change of one device that is not simulated, or not closing then, or was closing before. -/
theorem Lulls.onDevice {f : Device → Device}
    (kept : ∀ x, w.devices[d]? = some x → (f x).isManual = false →
      (f x).stream.state = .closing → x.isManual = false ∧ x.stream.state = .closing) :
    Lulls w (w.onDevice d f) := by
  rintro e ⟨y, hy, simulated, closing⟩
  by_cases hde : d = e
  · subst hde
    obtain ⟨x, hx, rfl⟩ : ∃ x, w.devices[d]? = some x ∧ f x = y := by
      simpa [Hardware.onDevice] using hy
    exact ⟨x, hx, kept x hx simulated closing⟩
  · exact ⟨y, by simpa [Hardware.onDevice, hde] using hy, simulated, closing⟩

theorem Lulls.trans {w' w'' : Hardware} (h : Lulls w w') (k : Lulls w' w'') : Lulls w w'' :=
  fun d closes => h d (k d closes)

theorem Lulls.publish (w : Hardware) (d : DeviceId) {s : Stream} (other : s.state ≠ .closing) :
    Lulls w (w.onStream d fun _ => s) :=
  .onDevice fun _ _ _ closing => absurd closing other

theorem Lulls.setRelease (w : Hardware) (d : DeviceId) (r : Release) :
    Lulls w (w.onDevice d fun x => { x with release := r }) :=
  .onDevice fun _ _ simulated closing => ⟨simulated, closing⟩

theorem Lulls.finishRelease (w : Hardware) (d : DeviceId) : Lulls w (w.finishRelease d) := by
  unfold Hardware.finishRelease
  dsimp only
  cases hx : w.devices[d]? with
  | none =>
    have nothing : w.advance? d .closed = none := by simp [Hardware.advance?, hx]
    rw [nothing]
    exact .setRelease w d .done
  | some x =>
    rw [Hardware.advance?_eq hx]
    by_cases up : x.stream.state.canAdvanceTo .closed = true
    · rw [if_pos up]
      have closed : Lulls w (w.onStream d fun _ => x.stream.publish .closed) :=
        .publish w d (by simp [Stream.publish])
      exact closed.trans (.setRelease (Hardware.emit _ (Hardware.recordRelease _ _)) d .done)
    · rw [if_neg up]
      exact .setRelease w d .done

theorem Lulls.resumeRelease (w : Hardware) (d : DeviceId) : Lulls w (w.resumeRelease d) := by
  unfold Hardware.resumeRelease
  split
  · exact .setRelease w d _
  · exact .finishRelease w d

theorem Lulls.yank (c : CameraId) (w : Hardware) (d : DeviceId) : Lulls w (w.yank c d).2 := by
  unfold Hardware.yank
  split
  · exact .of_eq rfl
  · have closed : Lulls w (w.onStream d (·.publish .closed)) :=
      .onDevice fun _ _ _ closing => by simp [Stream.publish] at closing
    split
    · dsimp only
      split
      · exact closed
      · exact closed
    · exact .of_eq rfl

theorem Lulls.unplug (c : CameraId) (held : DeviceId → Bool) (w : Hardware) :
    Lulls w (w.unplug c held).2 := by
  unfold Hardware.unplug
  split
  · exact .of_eq rfl
  · refine List.foldlRecOn (motive := fun r : Bool × Hardware => Lulls w r.2) _ _ (.of_eq rfl) ?_
    intro r hr e _
    exact hr.trans (.yank c r.2 e)

/-- Only the device that is asked to close begins to. -/
theorem closesDown_of_closeDevice {e : DeviceId} (closes : ClosesDown (w.closeDevice d).2 e) :
    ClosesDown w e ∨ e = d := by
  by_cases hde : e = d
  · exact .inr hde
  · left
    obtain ⟨y, hy, closes⟩ := closes
    refine ⟨y, ?_, closes⟩
    have other : ∀ (f : Device → Device) (w : Hardware),
        (w.onDevice d f).devices[e]? = w.devices[e]? := by
      intro f w
      simp [Hardware.onDevice, Ne.symm hde]
    unfold Hardware.closeDevice at hy
    split at hy
    · exact hy
    · rename_i x hx
      split at hy
      · rw [Hardware.advance?_eq hx] at hy
        by_cases up : x.stream.state.canAdvanceTo .closing = true
        · rw [if_pos up] at hy
          exact (other _ _).symm.trans ((other _ _).symm.trans hy)
        · rw [if_neg up] at hy
          exact hy
      · dsimp only at hy
        split at hy
        · split at hy
          · exact (other _ _).symm.trans hy
          · exact (other _ _).symm.trans hy
          · exact hy
        · exact hy

end Hardware

/-! The opener. -/

structure Tame (b : Broker) : Prop where
  retries : ∃ p, b.opener = .retrying p
  stage : ∀ h due, b.loop.stage ≠ .opening h (.scripted due)

/-- What a task leaves alone is what it takes. -/
theorem Tame.retains {b b' : Broker} (tame : b.Tame) (retains : b.Retains b') : b'.Tame := by
  obtain ⟨p, opener⟩ := tame.retries
  have policy : b.opener.policy? = some p := Opener.policy?_eq_some.2 opener
  have policy' : b'.opener.policy? = some p := retains.policy.trans policy
  refine ⟨⟨p, Opener.policy?_eq_some.1 policy'⟩, fun h due call => ?_⟩
  have none := retains.fits (fun h due call => absurd call (tame.stage h due)) h due call
  cases policy'.symm.trans none

/-! What a step does to the opener and to the devices. -/

structure Calms (b b' : Broker) : Prop where
  retries : (∃ p, b.opener = .retrying p) → ∃ p, b'.opener = .retrying p
  lulls : Lulls b.hw b'.hw

theorem Calms.of_eq {b b' : Broker} (opener : b'.opener = b.opener)
    (devices : b'.hw.devices = b.hw.devices) : b.Calms b' :=
  ⟨fun ⟨p, retries⟩ => ⟨p, opener.trans retries⟩, .of_eq devices⟩

theorem Calms.of_onward {b o o' : Broker} (on : b.Onward o o') : b.Calms o :=
  .of_eq (congrArg (·.opener) on.backdrop) (congrArg (·.hw.devices) on.backdrop)

/-- The device that begins to close when a session is closed is the session's own. -/
theorem closesDown_of_resumeClose {b : Broker} {k : Nat} {d : DeviceId}
    (closes : ClosesDown (b.resumeClose k).hw d) : ClosesDown b.hw d ∨
      ∃ (i : SessionId) (s : Session), b.sessions[i]? = some s ∧ s.device = d ∧
        (b.resumeClose k).view.ties[i]? = some ⟨none, true⟩ := by
  unfold resumeClose at closes ⊢
  cases hk : b.closes[k]? with
  | none =>
    rw [hk] at closes
    exact .inl closes
  | some c =>
    obtain ⟨i, stage⟩ := c
    rw [hk] at closes
    cases stage with
    | awaiting => exact .inl closes
    | done => exact .inl closes
    | fresh =>
      cases hs : b.sessions[i]? with
      | none =>
        have nothing : b.beginClose i = (false, b) := by simp [beginClose, hs]
        simp only [nothing] at closes
        exact .inl closes
      | some s =>
        obtain ⟨o, view, -, -, same⟩ := beginClose_eq hs
        have devices : o.hw.devices = b.hw.devices := congrArg View.devices view
        have shut : o.view.ties[i]? = some ⟨none, true⟩ := by
          rw [view]
          simp [View.shut, Broker.view, hs]
        have begun : ClosesDown (o.hw.closeDevice s.device).2 d := by
          simp only [same] at closes
          revert closes
          cases (o.hw.closeDevice s.device).1 <;> exact id
        rcases closesDown_of_closeDevice begun with before | rfl
        · exact .inl (Lulls.of_eq devices d before)
        · refine .inr ⟨i, s, hs, rfl, ?_⟩
          simp only [same]
          cases (o.hw.closeDevice s.device).1 <;> exact shut

theorem calms_onManual (b : Broker) (d : DeviceId) (f : Stream → Stream) :
    b.Calms (b.onManual d f) := by
  unfold onManual
  split
  · rename_i onClose stream hx
    split
    · refine ⟨id, .onDevice fun y hy simulated _ => ?_⟩
      obtain rfl := Option.some.inj (hx.symm.trans hy)
      cases simulated
    · exact .of_eq rfl rfl
  · exact .of_eq rfl rfl

/-- Beside the loop only a task that closes a session is not calm. -/
theorem calms_step (b : Broker) {a : Action} (ha : a ≠ .turn .loop) :
    b.Calms (b.step a) ∨ ∃ k, b.step a = b.resumeClose k := by
  cases a with
  | turn t =>
    simp only [Broker.step]
    split
    · cases t with
      | release d => exact .inl ⟨id, .resumeRelease b.hw d⟩
      | observe h => exact .inl (.of_onward ((Onward.refl b).observe h))
      | listen i => exact .inl (.of_onward ((Onward.refl b).listen i))
      | close k => exact .inr ⟨k, rfl⟩
      | countdown i generation =>
        exact .inl (.of_onward ((Onward.refl b).wakeCountdown i generation))
      | loop => exact absurd rfl ha
    · exact .inl (.of_eq rfl rfl)
  | «open» c share =>
    simp only [Broker.step]
    split
    · exact .inl (.of_onward ((Onward.refl b).requestOpen c share))
    · exact .inl (.of_eq rfl rfl)
  | closeAll =>
    simp only [Broker.step]
    split
    · exact .inl (.of_onward (Onward.refl b).requestCloseAll)
    · exact .inl (.of_eq rfl rfl)
  | shutdown =>
    simp only [Broker.step]
    split
    · have offered := Calms.of_onward ((Onward.refl b).offerOrLeave .closeAll)
      exact .inl ⟨offered.retries, offered.lulls⟩
    · exact .inl (.of_eq rfl rfl)
  | leave =>
    simp only [Broker.step]
    split <;> exact .inl (.of_eq rfl rfl)
  | join =>
    simp only [Broker.step, endShutdown]
    split
    · split <;> exact .inl (.of_eq rfl rfl)
    · exact .inl (.of_eq rfl rfl)
  | disconnect h => exact .inl (.of_onward ((Onward.refl b).disconnect h))
  | forget h => exact .inl (.of_eq rfl rfl)
  | grant =>
    simp only [Broker.step, grant]
    split <;> exact .inl (.of_eq rfl rfl)
  | revoke =>
    simp only [Broker.step, revoke]
    split <;> exact .inl (.of_eq rfl rfl)
  | unplug c => exact .inl ⟨id, .unplug c _ b.hw⟩
  | addCamera c =>
    refine .inl ⟨id, .of_eq ?_⟩
    simp only [Broker.step, onHardware, Hardware.addCamera]
    split <;> rfl
  | failNext c n => exact .inl (.of_eq rfl rfl)
  | setLatency o c => exact .inl (.of_eq rfl rfl)
  | publish d state => exact .inl (b.calms_onManual d _)
  | dropPublisher d => exact .inl (b.calms_onManual d _)
  | script delay onClose outcomes =>
    refine .inl ⟨?_, .of_eq ?_⟩
    · rintro ⟨p, opener⟩
      exact ⟨p, by simp [Broker.step, rescript, opener]⟩
    · simp only [Broker.step, rescript]
      split <;> rfl
  | elapse ms => exact .inl (.of_eq rfl rfl)

variable {b b' : Broker} {w : View}

theorem Opens.all_simulated {h : HandleId} {c : CameraId} {v : View} (opens : Opens b' h c v w)
    (stage : ∀ h due, v.loop.stage ≠ .opening h (.scripted due))
    (all : ∀ x ∈ v.devices, x.isManual = false) : ∀ x ∈ w.devices, x.isManual = false := by
  cases opens with
  | giveUp lost resolved =>
    unfold View.popHead
    split <;> exact all
  | pause lost attempt due => exact all
  | @«begin» lost y camera simulated state release attempt due =>
    intro x hx
    rcases List.mem_append.1 hx with old | new
    · exact all x old
    · exact (List.mem_singleton.1 new) ▸ simulated
  | call lost due => exact all
  | @simulated attempt due d y acquiring hy up =>
    intro x hx
    rcases List.mem_or_eq_of_mem_set hx with old | rfl
    · exact all x old
    · exact all y (List.mem_of_getElem? hy)
  | manual scripted camera manual release => exact absurd scripted (stage _ _)
  | crash scripted => exact absurd scripted (stage _ _)

/-- A turn of a loop that follows no script gets simulated devices only. -/
theorem Rule.all_simulated (rule : Rule b b' w)
    (stage : ∀ h due, b.loop.stage ≠ .opening h (.scripted due))
    (all : ∀ x ∈ b.hw.devices, x.isManual = false) : ∀ x ∈ w.devices, x.isManual = false := by
  cases rule with
  | idle => exact all
  | start stage => exact all
  | finish stage done noClient leaves => exact all
  | close stage first leaves => exact all
  | closeAll stage noClose last resolved leaves => exact all
  | serve reading head camera serves =>
    cases serves with
    | stale answered => exact all
    | makeRoom waits exclusive conflict some leaves => exact all
    | replace waits active leaves => exact all
    | attach waits active ht resolved kept => exact all
    | deny waits resolved => exact all
    | ask waits alone none opens => exact opens.all_simulated stage all
  | opener opening camera opens => exact opens.all_simulated stage all
  | await stage sub down => exact all

theorem Tame.step (hr : Reachable b) (tame : b.Tame) (all : ∀ x ∈ b.hw.devices, x.isManual = false)
    (a : Action) : (b.step a).Tame ∧ ∀ x ∈ (b.step a).hw.devices, x.isManual = false := by
  by_cases ha : a = .turn .loop
  · subst ha
    rcases loop_turn hr.sound with stays | ⟨turns, turn⟩
    · rw [stays]
      exact ⟨tame, all⟩
    · rw [turns]
      exact ⟨tame.retains (.resumeLoop b), turn.rule.all_simulated tame.stage all⟩
  · have beside := View.Aside.of_meanwhile (beside_step hr.sound.devicesFit ha).view
    have loop : (b.step a).loop = b.loop := beside.loop
    refine ⟨⟨?_, loop ▸ tame.stage⟩, fun y hy => ?_⟩
    · rcases b.calms_step ha with calms | ⟨k, same⟩
      · exact calms.retries tame.retries
      · rw [same]
        exact (tame.retains (.resumeClose k b)).retries
    · obtain ⟨d, hd⟩ := List.mem_iff_getElem?.1 hy
      obtain ⟨there, -⟩ := List.getElem?_eq_some_iff.1 hd
      have length : (b.step a).hw.devices.length = b.hw.devices.length := beside.length
      have hx : b.view.devices[d]? = some b.hw.devices[d] := List.getElem?_eq_getElem (length ▸ there)
      obtain ⟨z, hz, xz⟩ := beside.devices d _ hx
      obtain rfl : y = z := Option.some.inj (hd.symm.trans hz)
      rw [xz.isManual]
      exact all _ (List.mem_of_getElem? hx)

/-- Where devices are opened with retries, every device is simulated. -/
theorem simulated_of_retrying {s : Setup} (retries : ∃ p, s.opener = .retrying p)
    (actions : List Action) : ∀ x ∈ (s.broker.run actions).hw.devices, x.isManual = false := by
  have start : s.broker.Tame := ⟨retries, nofun⟩
  have none : s.broker.hw.devices = [] :=
    (congrArg View.devices (view_start s) : _ = _)
  have all := run_induction
    (P := fun b => Reachable b ∧ b.Tame ∧ ∀ x ∈ b.hw.devices, x.isManual = false)
    (fun b a ⟨hb, tame, all⟩ => ⟨hb.step a, tame.step hb all a⟩)
    ⟨.start s, start, by rw [none]; exact nofun⟩ actions
  exact all.2.2

end CameraBroker.Broker
