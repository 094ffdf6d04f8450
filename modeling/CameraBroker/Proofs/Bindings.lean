import CameraBroker.Proofs.Shutdown
import Mathlib.Data.List.Pairwise

/-! Which session binds which handle. The loop gives a session a handle that still waits, and says
so in the history; everything else only takes handles away. -/
namespace CameraBroker

namespace View

def Current (v : View) (i : SessionId) (h : HandleId) : Prop :=
  ∃ t, v.ties[i]? = some t ∧ t.current = some h

structure Loosens (v w : View) : Prop where
  current : ∀ i h, w.Current i h → v.Current i h
  told : ∃ new, w.milestones = new ++ v.milestones ∧ ∀ h c i, .attached h c i ∉ new

section
variable {v w : View}

/-- Two active sessions of one camera are one session. -/
theorem Sound.eq_of_cameraOf (hv : v.Sound) {i j : SessionId} (hi : i ∈ v.loop.active)
    (hj : j ∈ v.loop.active) (same : v.cameraOf i = v.cameraOf j) : i = j := by
  have symm : Std.Symm fun i j => v.cameraOf i ≠ v.cameraOf j := ⟨fun _ _ h => h.symm⟩
  by_contra hij
  exact hv.distinct.forall hi hj hij same

theorem Loosens.of_eq (new : List Event) (ties : w.ties = v.ties)
    (told : w.milestones = new ++ v.milestones) (none : ∀ h c i, .attached h c i ∉ new) :
    v.Loosens w :=
  ⟨fun _ _ ⟨t, ht, current⟩ => ⟨t, ties ▸ ht, current⟩, new, told, none⟩

theorem Loosens.refl (v : View) : v.Loosens v := .of_eq [] rfl rfl nofun

theorem Loosens.trans {u v w : View} (h : u.Loosens v) (k : v.Loosens w) : u.Loosens w := by
  obtain ⟨new, told, none⟩ := h.told
  obtain ⟨more, told', none'⟩ := k.told
  refine ⟨fun i g hg => h.current i g (k.current i g hg), more ++ new, ?_, fun g c i hg => ?_⟩
  · rw [told', told, List.append_assoc]
  · exact (List.mem_append.1 hg).elim (none' g c i) (none g c i)

/-- A session that is new binds no handle. -/
theorem Loosens.join (h : v.Loosens w) (asked camera : CameraId) (d : DeviceId) :
    v.Loosens (w.join asked camera d) := by
  obtain ⟨new, told, none⟩ := h.told
  refine ⟨fun i g ⟨t, ht, current⟩ => h.current i g ⟨t, ?_, current⟩,
    .deviceOpened asked d :: new, ?_, by simpa using none⟩
  · have ties : (w.join asked camera d).ties = w.ties ++ [({} : Tie)] := rfl
    rw [ties] at ht
    by_cases hi : i < w.ties.length
    · rwa [List.getElem?_append_left hi] at ht
    · rw [List.getElem?_append_right (Nat.not_lt.1 hi)] at ht
      rw [List.mem_singleton.1 (List.mem_of_getElem? ht)] at current
      cases current
  · have milestones : (w.join asked camera d).milestones =
        .deviceOpened asked d :: w.milestones := rfl
    rw [milestones, told]
    rfl

theorem Loosens.background {kept : HandleId → Prop} (h : Background kept v w) : v.Loosens w := by
  cases h with
  | @device d x y hx xy =>
    refine .of_eq (x.logLines y) rfl rfl fun h c i told => ?_
    rcases Device.eq_of_mem_logLines told with h | h <;> cases h
  | refusedOpen c => exact .of_eq [] rfl rfl nofun
  | «open» c share room => exact .of_eq [_] rfl rfl (by simp)
  | close hi room => exact .of_eq [_] rfl rfl (by simp)
  | closeAll room => exact .of_eq [_] rfl rfl (by simp)
  | leave => exact .of_eq [] rfl rfl nofun
  | @beginClose k i hk stage hs gone =>
    refine ⟨fun j g ⟨t, ht, current⟩ => ?_, [], rfl, nofun⟩
    by_cases hij : i = j
    · subst hij
      obtain ⟨t', -, rfl⟩ : ∃ t', v.ties[i]? = some t' ∧ ({ closing := true } : Tie) = t := by
        simpa [View.setCloseStage, View.shut] using ht
      cases current
    · exact ⟨t, by simpa [View.setCloseStage, View.shut, hij] using ht, current⟩
  | endClose hk hc => exact .of_eq [] rfl rfl nofun

theorem Loosens.meanwhile {kept : HandleId → Prop} (h : Meanwhile kept v w) : v.Loosens w := by
  induction h with
  | refl => exact .refl v
  | tail _ move ih => exact ih.trans (.background move)

end

end View

namespace Broker
variable {b b' : Broker} {w : View}

structure Attach (b b' : Broker) (h : HandleId) (share : Bool) (c : CameraId) (i : SessionId)
    (w : View) : Prop where
  waits : b.Waits h
  resolved : b'.Resolves h
  wanted : b.view.wanted[h]? = some c
  active : b.activeFor? c = some i
  ties : w.ties = b.view.ties.modify i fun t => { t with current := some h }
  told : w.milestones = .serviced (.open h share) :: .attached h c i :: b.view.milestones

theorem Opens.loosens {h : HandleId} {c : CameraId} {v : View} (ho : v.Opening h c)
    (opens : Opens b' h c v w) : v.Loosens w := by
  obtain ⟨new, told, only⟩ := View.news_opens ho opens
  have none : ∀ g c' i, .attached g c' i ∉ new := by
    intro g c' i mem
    rcases only with ⟨share, rfl⟩ | lines
    · simp at mem
    · cases lines _ mem
  cases opens with
  | giveUp lost resolved =>
    refine .of_eq new ?_ told none
    unfold View.popHead
    split <;> rfl
  | pause lost attempt due => exact .of_eq new rfl told none
  | «begin» lost camera simulated state release attempt due => exact .of_eq new rfl told none
  | call lost due => exact .of_eq new rfl told none
  | @simulated attempt due d x stage hx up =>
    have opened : v.Loosens ((v.setDevices (v.devices.set d x.opened)).note (.logOpened c)) :=
      .of_eq [_] rfl rfl (by simp)
    exact opened.join c x.camera d
  | @manual due stage x camera manual release =>
    have added : v.Loosens (v.setDevices (v.devices ++ [x])) := .of_eq [] rfl rfl nofun
    exact added.join c c _
  | crash stage => exact .of_eq new rfl told none

/-- A turn of the loop attaches one handle or gives no session a handle. -/
theorem Rule.attach_or_loosens (hs : b.view.Sound) (rule : Rule b b' w) :
    (∃ h share c i, Attach b b' h share c i w) ∨ b.view.Loosens w := by
  cases rule with
  | idle => exact .inr (.refl _)
  | start stage => exact .inr (.of_eq [] rfl rfl nofun)
  | finish stage done noClient leaves => exact .inr (.of_eq [] rfl rfl nofun)
  | close stage first leaves => exact .inr (.of_eq [_] rfl rfl (by simp))
  | @closeAll stage noClose before after last resolved left leaves =>
    exact .inr (.of_eq (before.map .serviced).reverse rfl rfl (by simp))
  | @serve stage h share rest head c camera w serves =>
    cases serves with
    | stale answered => exact .inr (.of_eq [_, _] rfl rfl (by simp))
    | makeRoom waits exclusive conflict some leaves =>
      exact .inr (.of_eq [] rfl rfl nofun)
    | replace waits active leaves => exact .inr (.of_eq [] rfl rfl nofun)
    | @attach waits i t active ht resolved kept =>
      exact .inl ⟨h, share, c, i, waits, resolved, camera, active, rfl, rfl⟩
    | deny waits resolved => exact .inr (.of_eq [_, _] rfl rfl (by simp))
    | ask waits alone none opens =>
      obtain ⟨-, opening⟩ := opening_ask hs stage head camera alone none
      have asked : b.view.Loosens ((b.view.take (.open h share :: rest)).ask h c) :=
        .of_eq [_, _] rfl rfl (by simp)
      exact .inr (asked.trans (opens.loosens opening))
  | opener stage camera opens => exact .inr (opens.loosens (opening_of_stage hs stage camera))
  | await stage sub down => exact .inr (.of_eq [] rfl rfl nofun)

theorem Reachable.attach_or_loosens (hr : Reachable b) (a : Action) :
    (∃ h share c i, Attach b (b.step a) h share c i (b.step a).view) ∨
      b.view.Loosens (b.step a).view := by
  rcases hr.step_cases a with beside | turn
  · exact .inr (.meanwhile beside.view)
  · exact turn.rule.attach_or_loosens hr.sound

/-- A handle keeps its camera. -/
theorem Reachable.wanted_step (hr : Reachable b) {h : HandleId} {c : CameraId}
    (wanted : b.view.wanted[h]? = some c) (a : Action) :
    (b.step a).view.wanted[h]? = some c := by
  rcases hr.step_cases a with beside | turn
  · obtain ⟨x, hx, rfl⟩ : ∃ x, b.handles[h]? = some x ∧ x.camera = c := by
      simpa [view] using wanted
    obtain ⟨y, hy, xy⟩ := beside.fades h x hx
    simp [view, hy, xy.camera]
  · rw [turn.rule.wanted]
    exact wanted

/-- A session keeps its camera and its device. -/
theorem Reachable.faces_step (hr : Reachable b) {i : SessionId} {f : Face}
    (hf : b.view.faces[i]? = some f) (a : Action) : (b.step a).view.faces[i]? = some f := by
  obtain ⟨hi, -⟩ := List.getElem?_eq_some_iff.1 hf
  rcases hr.faces_cases a with same | ⟨c, d, more, -⟩
  · rw [same]
    exact hf
  · rw [more, List.getElem?_append_left hi]
    exact hf

structure WasAttached (b : Broker) (h : HandleId) (c : CameraId) (i : SessionId) : Prop where
  resolved : b.Resolves h
  wanted : b.view.wanted[h]? = some c
  camera : b.view.cameraOf i = some c
  served : ∃ share, .open h share ∈ b.servicedRequests
  only : ∀ j, b.view.Current j h → j = i

structure Bindings (b : Broker) : Prop where
  told : ∀ i h, b.view.Current i h → ∃ c, .attached h c i ∈ b.view.milestones
  attached : ∀ h c i, .attached h c i ∈ b.view.milestones → b.WasAttached h c i

theorem mem_servicedRequests {r : Request} :
    r ∈ b.servicedRequests ↔ .serviced r ∈ b.view.milestones := by
  rw [← view_servicedRequests, View.serviced, List.mem_reverse, List.mem_filterMap]
  constructor
  · rintro ⟨e, he, same⟩
    cases e with
    | serviced q =>
      cases same
      exact he
    | _ => cases same
  · exact fun h => ⟨_, h, rfl⟩

theorem Reachable.servicedRequests_step (hr : Reachable b) (a : Action) :
    b.servicedRequests <+: (b.step a).servicedRequests := by
  obtain ⟨new, same, -⟩ := hr.news a
  have same : (b.step a).view.milestones = new ++ b.view.milestones := same
  rw [← view_servicedRequests, ← view_servicedRequests, View.serviced, View.serviced, same,
    List.filterMap_append, List.reverse_append]
  exact List.prefix_append _ _

theorem WasAttached.step (hr : Reachable b) {h : HandleId} {c : CameraId} {i : SessionId}
    (was : b.WasAttached h c i) {a : Action}
    (only : ∀ j, (b.step a).view.Current j h → b.view.Current j h) :
    (b.step a).WasAttached h c i := by
  refine ⟨hr.resolves_step was.resolved a, hr.wanted_step was.wanted a, ?_, ?_,
    fun j hj => was.only j (only j hj)⟩
  · obtain ⟨f, hf, camera⟩ := Option.map_eq_some_iff.1 was.camera
    rw [View.cameraOf, hr.faces_step hf a, ← camera]
    rfl
  · obtain ⟨share, served⟩ := was.served
    exact ⟨share, (hr.servicedRequests_step a).subset served⟩

/-- A handle that waits is not bound. -/
theorem Bindings.not_current (hv : b.Bindings) {h : HandleId} (waits : b.Waits h)
    (i : SessionId) : ¬b.view.Current i h := by
  intro current
  obtain ⟨c, told⟩ := hv.told i h current
  obtain ⟨x, hx, answered⟩ := (hv.attached h c i told).resolved
  obtain ⟨y, hy, unanswered⟩ := waits
  obtain rfl : x = y := Option.some.inj (hx.symm.trans hy)
  exact answered unanswered

/-- What a session binds after an attach is the new handle, or it bound it before. -/
theorem Attach.current {h : HandleId} {share : Bool} {c : CameraId} {i : SessionId}
    (attach : Attach b b' h share c i w) (j : SessionId) (g : HandleId) (hg : w.Current j g) :
    j = i ∧ g = h ∨ b.view.Current j g := by
  obtain ⟨t, ht, current⟩ := hg
  rw [attach.ties] at ht
  by_cases hij : i = j
  · subst hij
    obtain ⟨t', -, rfl⟩ : ∃ t', b.view.ties[i]? = some t' ∧
        { t' with current := some h } = t := by simpa using ht
    exact .inl ⟨rfl, (Option.some.inj current).symm⟩
  · exact .inr ⟨t, by simpa [hij] using ht, current⟩

/-- A handle that has its answer is bound by no session that did not bind it before. -/
theorem Reachable.current_before (hr : Reachable b) {h : HandleId} (resolved : b.Resolves h)
    {a : Action} {i : SessionId} (current : (b.step a).view.Current i h) :
    b.view.Current i h := by
  rcases hr.attach_or_loosens a with ⟨g, share, c, j, attach⟩ | loosens
  · rcases attach.current i h current with ⟨-, rfl⟩ | before
    · obtain ⟨x, hx, answered⟩ := resolved
      obtain ⟨y, hy, unanswered⟩ := attach.waits
      obtain rfl : x = y := Option.some.inj (hx.symm.trans hy)
      exact absurd unanswered answered
    · exact before
  · exact loosens.current i h current

theorem Bindings.attach (hr : Reachable b) (hv : b.Bindings) {a : Action} {h : HandleId}
    {share : Bool} {c : CameraId} {i : SessionId}
    (attach : Attach b (b.step a) h share c i (b.step a).view) : (b.step a).Bindings := by
  have current := attach.current
  have free := hv.not_current attach.waits
  refine ⟨fun j g hg => ?_, fun g c' j told => ?_⟩
  · rw [attach.told]
    rcases current j g hg with ⟨rfl, rfl⟩ | old
    · exact ⟨c, by simp⟩
    · obtain ⟨c', told⟩ := hv.told j g old
      exact ⟨c', by simp [told]⟩
  · rw [attach.told] at told
    have told : .attached g c' j = Event.attached h c i ∨
        .attached g c' j ∈ b.view.milestones := by simpa using told
    rcases told with new | old
    · cases new
      obtain ⟨-, s, hs, camera⟩ := session_of_activeFor? attach.active
      refine ⟨attach.resolved, hr.wanted_step attach.wanted a, ?_, ⟨share, ?_⟩, fun j hj => ?_⟩
      · have hf : b.view.faces[i]? = some s.face := by simp [view, hs]
        rw [View.cameraOf, hr.faces_step hf a, ← camera]
        rfl
      · rw [mem_servicedRequests, attach.told]
        exact List.mem_cons_self
      · rcases current j h hj with ⟨rfl, -⟩ | old
        · rfl
        · exact absurd old (free j)
    · refine (hv.attached g c' j old).step hr fun k hk => ?_
      rcases current k g hk with ⟨-, rfl⟩ | still
      · -- What was attached before does not wait any more.
        obtain ⟨x, hx, answered⟩ := (hv.attached g c' j old).resolved
        obtain ⟨y, hy, unanswered⟩ := attach.waits
        obtain rfl : x = y := Option.some.inj (hx.symm.trans hy)
        exact absurd unanswered answered
      · exact still

theorem Reachable.bindings (hr : Reachable b) : b.Bindings := by
  refine hr.invariant (P := Bindings) (fun s => ?_) fun b a hb hv => ?_
  · refine ⟨?_, ?_⟩
    · rw [view_start]
      rintro i h ⟨t, ht, -⟩
      cases (List.getElem?_nil.symm.trans ht : none = some t)
    · rw [view_start]
      exact nofun
  · rcases hb.attach_or_loosens a with ⟨h, share, c, i, attach⟩ | loosens
    · exact hv.attach hb attach
    · obtain ⟨new, told, none⟩ := loosens.told
      refine ⟨fun i h hh => ?_, fun h c i mem => ?_⟩
      · obtain ⟨c, mem⟩ := hv.told i h (loosens.current i h hh)
        exact ⟨c, by rw [told]; exact List.mem_append_right _ mem⟩
      · rw [told] at mem
        have old := (List.mem_append.1 mem).resolve_left (none h c i)
        exact (hv.attached h c i old).step hb fun j hj => loosens.current j h hj

/-- A handle is bound by one session at most. -/
theorem Bindings.once (hv : b.Bindings) {h : HandleId} {i j : SessionId}
    (hi : b.view.Current i h) (hj : b.view.Current j h) : i = j := by
  obtain ⟨c, told⟩ := hv.told i h hi
  exact ((hv.attached h c i told).only j hj).symm

theorem current_of_session {i : SessionId} {s : Session} {h : HandleId}
    (hs : b.sessions[i]? = some s) : b.view.Current i h ↔ s.current = some h := by
  simp [View.Current, view, hs, Session.tie]

/-- At rest the loop has let go of nothing, and the session that binds a connected handle is
active. -/
theorem Reachable.active_of_connected (hr : Reachable b) (alive : b.loop.stage ≠ .crashed)
    (rest : b.readyTasks = []) {h : HandleId} (connected : b.Connected h) :
    ∃ i ∈ b.loop.active, b.view.Current i h := by
  have binds := (hr.binds_of_connected h connected).resolve_left alive
  obtain ⟨i, t, ht, current, bound⟩ := binds
  exact ⟨i, bound.resolve_right (not_fresh_of_rest rest i), t, ht, current⟩

/-- At rest every connected handle is the current handle of exactly one session, which is active
and of the handle's camera, so that no camera has two connected handles. A handle that was attached
to a session is disconnected or closed once the session is not active any more or has another
handle. -/
theorem binding_coherent (hr : Reachable b) (alive : b.loop.stage ≠ .crashed)
    (rest : b.readyTasks = []) :
    (∀ (h : HandleId) (x : Handle), b.handles[h]? = some x → x.state = .connected →
      ∃ i ∈ b.loop.active, ∃ s, b.sessions[i]? = some s ∧ s.current = some h ∧
        s.camera = x.camera ∧
        ∀ (j : SessionId) (t : Session), b.sessions[j]? = some t → t.current = some h → j = i) ∧
    (∀ (g h : HandleId) (x y : Handle), b.handles[g]? = some x → b.handles[h]? = some y →
      x.state = .connected → y.state = .connected → x.camera = y.camera → g = h) ∧
    (∀ h c i, .attached h c i ∈ b.hw.history →
      (i ∉ b.loop.active ∨ ∀ s, b.sessions[i]? = some s → s.current ≠ some h) →
      ∃ x, b.handles[h]? = some x ∧ (x.state = .disconnected ∨ x.state = .closed)) := by
  have hv := hr.bindings
  have bound : ∀ (h : HandleId) (x : Handle), b.handles[h]? = some x → x.state = .connected →
      ∃ i ∈ b.loop.active, b.view.Current i h ∧ b.view.cameraOf i = some x.camera := by
    intro h x hx state
    obtain ⟨i, active, current⟩ := hr.active_of_connected alive rest ⟨x, hx, state⟩
    obtain ⟨c, told⟩ := hv.told i h current
    have was := hv.attached h c i told
    have wanted : b.view.wanted[h]? = some x.camera := by simp [view, hx]
    obtain rfl : c = x.camera := Option.some.inj (was.wanted.symm.trans wanted)
    exact ⟨i, active, current, was.camera⟩
  refine ⟨fun h x hx state => ?_, fun g h x y hx hy xs ys same => ?_, fun h c i told gone => ?_⟩
  · obtain ⟨i, active, current, camera⟩ := bound h x hx state
    obtain ⟨s, hs, face⟩ : ∃ s, b.sessions[i]? = some s ∧ s.camera = x.camera := by
      simpa [View.cameraOf, view, Session.face] using camera
    refine ⟨i, active, s, hs, (current_of_session hs).1 current, face, fun j t ht current' => ?_⟩
    exact hv.once ((current_of_session ht).2 current') current
  · obtain ⟨i, hi, ci, camera⟩ := bound g x hx xs
    obtain ⟨j, hj, cj, camera'⟩ := bound h y hy ys
    obtain rfl := hr.sound.eq_of_cameraOf hi hj (by rw [camera, camera', same])
    obtain ⟨t, ht, current⟩ := ci
    obtain ⟨t', ht', current'⟩ := cj
    obtain rfl : t = t' := Option.some.inj (ht.symm.trans ht')
    exact Option.some.inj (current.symm.trans current')
  · have told : .attached h c i ∈ b.view.milestones := List.mem_filter.2 ⟨told, rfl⟩
    have was := hv.attached h c i told
    obtain ⟨x, hx, answered⟩ := was.resolved
    refine ⟨x, hx, ?_⟩
    cases state : x.state with
    | unopened => exact absurd state answered
    | connected =>
      obtain ⟨j, hj, current, -⟩ := bound h x hx state
      obtain rfl := was.only j current
      rcases gone with out | other
      · exact absurd hj out
      · obtain ⟨t, ht, same⟩ := current
        obtain ⟨s, hs, rfl⟩ : ∃ s, b.sessions[j]? = some s ∧ s.tie = t := by
          simpa [view] using ht
        exact absurd same (other s hs)
    | disconnected => exact .inl rfl
    | closed => exact .inr rfl

/-- Two clients ask for one camera, and the second one takes it over. -/
def takenOver : Broker :=
  byHand [.turn .loop, .open front true, .turn .loop, .turn .loop, .turn .loop,
    .turn (.observe 0), .turn (.listen 0), .open front true, .turn .loop, .turn (.observe 1)]

theorem binding_coherent_takenOver :
    (∃ x, takenOver.handles[0]? = some x ∧ (x.state = .disconnected ∨ x.state = .closed)) ∧
      ∃ i ∈ takenOver.loop.active, ∃ s, takenOver.sessions[i]? = some s ∧ s.current = some 1 := by
  have hr : Reachable takenOver := .byHand _
  obtain ⟨bound, -, gone⟩ := binding_coherent hr (by decide) (by decide)
  refine ⟨gone 0 front 0 (by decide) (.inr (by decide)), ?_⟩
  obtain ⟨y, hy, state⟩ : takenOver.Connected 1 := ⟨_, rfl, by decide⟩
  obtain ⟨i, active, s, hs, current, -⟩ := bound 1 y hy state
  exact ⟨i, active, s, hs, current⟩

end Broker

end CameraBroker
