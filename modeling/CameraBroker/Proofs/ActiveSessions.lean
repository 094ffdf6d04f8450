import CameraBroker.Proofs.Growth

/-! The active sessions: at most one for a camera, each for the camera it was opened for, and none
that was closed or given up before. -/
namespace CameraBroker

namespace View

/-- Every session is for a device that the opener returned when it was asked for its camera. -/
def OpenedFor (v : View) : Prop :=
  ∀ f ∈ v.faces, .deviceOpened f.camera f.device ∈ v.deviceLines

def Unclosed (v : View) : Prop :=
  ∀ i ∈ v.loop.active, ∀ t, v.ties[i]? = some t → t.closing = false

section
variable {v w : View}

theorem OpenedFor.background {kept : HandleId → Prop} (h : Background kept v w)
    (hv : v.OpenedFor) : w.OpenedFor := by
  intro f hf
  have aside := Aside.of_background h
  obtain ⟨new, lines, -⟩ := aside.lines
  rw [lines]
  exact List.mem_append_right _ (hv f (aside.faces ▸ hf))

theorem OpenedFor.grows (h : v.Grows w) (hv : v.OpenedFor) : w.OpenedFor := by
  have joined : ∀ {c d} {lines : List Event}, w.faces = v.faces ++ [⟨c, d⟩] →
      w.deviceLines = .deviceOpened c d :: lines → v.deviceLines ⊆ lines → w.OpenedFor := by
    intro c d more faces lines sub f hf
    rw [faces] at hf
    rw [lines]
    rcases List.mem_append.1 hf with hf | hf
    · exact List.mem_cons_of_mem _ (sub (hv f hf))
    · obtain rfl := List.mem_singleton.1 hf
      exact List.mem_cons_self
  cases h with
  | remains h =>
    intro f hf
    exact h.lines ▸ hv f (h.faces ▸ hf)
  | «begin» asked lost left camera simulated state faces devices lines active acquired =>
    intro f hf
    exact lines ▸ hv f (faces ▸ hf)
  | simulated asked acquired acquires left up faces devices lines active stage =>
    exact joined faces lines (List.subset_cons_self _ _)
  | manual asked acquired left camera manual faces devices lines active stage =>
    exact joined faces lines (List.Subset.refl _)

theorem Unclosed.background {kept : HandleId → Prop} (hs : v.Sound) (h : Background kept v w)
    (hv : v.Unclosed) : w.Unclosed := by
  cases h with
  | @beginClose k i hk stage hs' gone =>
    intro j hj t ht
    -- A task closes only sessions that are no longer active.
    have out := (hs.closes _ (List.mem_of_getElem? hk)).2
    have hij : i ≠ j := by
      rintro rfl
      exact out hj
    exact hv j hj t (by simpa [View.setCloseStage, View.shut, hij] using ht)
  | device hx xy => exact hv
  | refusedOpen c => exact hv
  | «open» c share room => exact hv
  | close hi room => exact hv
  | closeAll room => exact hv
  | leave => exact hv
  | endClose hk hc => exact hv

end

end View

namespace Broker
variable {b b' : Broker} {w : View}

/-- The loop itself closes no session, and a new one is not closed. -/
theorem Opens.closing {h : HandleId} {c : CameraId} {v : View} (opens : Opens b' h c v w)
    {i : SessionId} {t : Tie} (ht : w.ties[i]? = some t) :
    (∃ t₀, v.ties[i]? = some t₀ ∧ t.closing = t₀.closing) ∨ t.closing = false := by
  have joined : ∀ {t : Tie}, (v.ties ++ [({} : Tie)])[i]? = some t →
      (∃ t₀, v.ties[i]? = some t₀ ∧ t.closing = t₀.closing) ∨ t.closing = false := by
    intro t ht
    by_cases hi : i < v.ties.length
    · exact .inl ⟨t, by rwa [List.getElem?_append_left hi] at ht, rfl⟩
    · rw [List.getElem?_append_right (Nat.not_lt.1 hi)] at ht
      rw [List.mem_singleton.1 (List.mem_of_getElem? ht)]
      exact .inr rfl
  cases opens with
  | giveUp lost resolved =>
    have same : ((v.note (.openGivenUp c)).popHead.setStage .reading).ties = v.ties := by
      unfold View.popHead
      split <;> rfl
    exact .inl ⟨t, same ▸ ht, rfl⟩
  | pause lost attempt due => exact .inl ⟨t, ht, rfl⟩
  | «begin» lost camera simulated state release attempt due => exact .inl ⟨t, ht, rfl⟩
  | call lost due => exact .inl ⟨t, ht, rfl⟩
  | simulated stage hx up => exact joined ht
  | manual stage camera manual release => exact joined ht
  | crash stage => exact .inl ⟨t, ht, rfl⟩

theorem Rule.closing (rule : Rule b b' w) {i : SessionId} {t : Tie} (ht : w.ties[i]? = some t) :
    (∃ t₀, b.view.ties[i]? = some t₀ ∧ t.closing = t₀.closing) ∨ t.closing = false := by
  cases rule with
  | idle => exact .inl ⟨t, ht, rfl⟩
  | start stage => exact .inl ⟨t, ht, rfl⟩
  | finish stage done noClient leaves => exact .inl ⟨t, ht, rfl⟩
  | close stage first leaves => exact .inl ⟨t, ht, rfl⟩
  | closeAll stage noClose last resolved leaves => exact .inl ⟨t, ht, rfl⟩
  | await stage sub down => exact .inl ⟨t, ht, rfl⟩
  | opener stage camera opens => exact opens.closing ht
  | @serve stage h share rest head c camera w serves =>
    cases serves with
    | stale answered => exact .inl ⟨t, ht, rfl⟩
    | makeRoom waits exclusive conflict some leaves => exact .inl ⟨t, ht, rfl⟩
    | replace waits active leaves => exact .inl ⟨t, ht, rfl⟩
    | deny waits resolved => exact .inl ⟨t, ht, rfl⟩
    | ask waits alone none opens => exact opens.closing ht
    | @attach waits j t' active ht' resolved kept =>
      by_cases hij : j = i
      · subst hij
        have ht : some { t' with current := some h } = some t := by
          rw [← ht]
          simp [View.setStage, View.setLoop, View.note, View.bind, View.take, View.setPending, ht']
        cases ht
        exact .inl ⟨t', ht', rfl⟩
      · refine .inl ⟨t, ?_, rfl⟩
        simpa [View.setStage, View.setLoop, View.note, View.bind, View.take, View.setPending, hij]
          using ht

/-- A session becomes active once, when its device is opened for the oldest request. -/
theorem mem_active_of_grows {v w : View} (h : v.Grows w) {i : SessionId} (hi : i ∈ w.loop.active) :
    i ∈ v.loop.active ∨ i = v.faces.length ∧ ∃ g c share rest d, v.wanted[g]? = some c ∧
      v.waiting = .open g share :: rest ∧ w.faces[i]? = some ⟨c, d⟩ := by
  have joined : ∀ {g c d}, v.Asked g c → w.faces = v.faces ++ [⟨c, d⟩] →
      i ∈ v.loop.active ++ [v.faces.length] → i ∈ v.loop.active ∨ i = v.faces.length ∧
        ∃ g c share rest d, v.wanted[g]? = some c ∧ v.waiting = .open g share :: rest ∧
          w.faces[i]? = some ⟨c, d⟩ := by
    intro g c d asked faces hi
    rcases List.mem_append.1 hi with hi | hi
    · exact .inl hi
    · obtain rfl := List.mem_singleton.1 hi
      obtain ⟨share, rest, head, -⟩ := asked.head
      exact .inr ⟨rfl, g, c, share, rest, d, asked.camera, head, by simp [faces]⟩
  cases h with
  | remains h => exact .inl (h.active hi)
  | «begin» asked lost left camera simulated state faces devices lines active acquired =>
    exact .inl (active ▸ hi)
  | simulated asked acquired acquires left up faces devices lines active stage =>
    exact joined asked faces (active ▸ hi)
  | manual asked acquired left camera manual faces devices lines active stage =>
    exact joined asked faces (active ▸ hi)

theorem Reachable.openedFor (hr : Reachable b) : b.view.OpenedFor :=
  hr.view_invariant nofun (fun _ _ _ _ move hv => hv.background move)
    fun _ _ hs turn hv => hv.grows (turn.rule.grows hs)

theorem Reachable.unclosed (hr : Reachable b) : b.view.Unclosed := by
  refine hr.view_invariant nofun (fun _ _ _ hs move hv => hv.background hs move) ?_
  intro b b' hs turn hv i hi t ht
  rcases turn.rule.closing ht with ⟨t₀, ht₀, same⟩ | open'
  · rcases mem_active_of_grows (turn.rule.grows hs) hi with hi | ⟨rfl, -⟩
    · rw [same]
      exact hv i hi t₀ ht₀
    · have out := (List.getElem?_eq_some_iff.1 ht₀).1
      rw [hs.ties] at out
      exact absurd out (Nat.lt_irrefl _)
  · exact open'

theorem Reachable.mem_active_step (hr : Reachable b) (a : Action) {i : SessionId}
    (hi : i ∈ (b.step a).loop.active) :
    i ∈ b.loop.active ∨ i = b.sessions.length ∧ ∃ g c share rest d, b.view.wanted[g]? = some c ∧
      b.waiting = .open g share :: rest ∧ (b.step a).view.faces[i]? = some ⟨c, d⟩ := by
  rcases hr.aside_or_grows a with aside | ⟨-, grows⟩
  · have same : (b.step a).loop = b.loop := aside.loop
    exact .inl (same ▸ hi)
  · rcases mem_active_of_grows grows hi with old | ⟨new, more⟩
    · exact .inl old
    · exact .inr ⟨by simpa [view] using new, more⟩

theorem length_sessions_step (hr : Reachable b) (a : Action) :
    b.sessions.length ≤ (b.step a).sessions.length := by
  have faces : b.view.faces.length ≤ (b.step a).view.faces.length := by
    rcases hr.faces_cases a with same | ⟨c, d, more, -⟩
    · exact Nat.le_of_eq (by rw [same])
    · simp [more]
  simpa [view] using faces

/-- A session that is not active, or no longer, never becomes so again. -/
theorem not_mem_active_run (hr : Reachable b) {i : SessionId} (hi : i < b.sessions.length)
    (out : i ∉ b.loop.active) (actions : List Action) : i ∉ (b.run actions).loop.active := by
  induction actions generalizing b with
  | nil => exact out
  | cons a actions ih =>
    refine ih (hr.step a) (Nat.lt_of_lt_of_le hi (length_sessions_step hr a)) fun back => ?_
    rcases hr.mem_active_step a back with old | ⟨new, -⟩
    · exact out old
    · exact absurd new (Nat.ne_of_lt hi)

theorem countP_le_one {α β : Type} [DecidableEq β] {f : α → β} {l : List α}
    (h : l.Pairwise fun x y => f x ≠ f y) (z : β) : l.countP (fun x => f x = z) ≤ 1 := by
  induction l with
  | nil => exact Nat.zero_le _
  | cons x l ih =>
    obtain ⟨apart, rest⟩ := List.pairwise_cons.1 h
    by_cases hx : f x = z
    · have none : l.countP (fun y => f y = z) = 0 := by
        refine List.countP_eq_zero.2 fun y hy hz => apart y hy ?_
        rw [hx, of_decide_eq_true hz]
      simp [hx, none]
    · simpa [hx] using ih rest

/-- In every reachable state at most one active session is there for a camera, each active session
is open for the camera that the opener was asked for, a session becomes active only when it is
new and opened for the oldest request, and one that is not active never becomes so later. -/
theorem active_sessions (hr : Reachable b) :
    (∀ c, (b.loop.active.countP fun i => (b.sessions[i]?).map (·.camera) = some c) ≤ 1) ∧
    (∀ i ∈ b.loop.active, ∃ s, b.sessions[i]? = some s ∧ s.closing = false ∧
      .deviceOpened s.camera s.device ∈ b.hw.history) ∧
    (∀ a, ∀ i ∈ (b.step a).loop.active, i ∉ b.loop.active → i = b.sessions.length ∧
      ∃ h share rest x s, b.waiting = .open h share :: rest ∧ b.handles[h]? = some x ∧
        (b.step a).sessions[i]? = some s ∧ s.camera = x.camera) ∧
    (∀ i < b.sessions.length, i ∉ b.loop.active → ∀ actions, i ∉ (b.run actions).loop.active) := by
  refine ⟨fun c => ?_, fun i hi => ?_, fun a i hi out => ?_, fun i hi out actions => ?_⟩
  · have distinct : b.loop.active.Pairwise fun i j =>
        (b.sessions[i]?).map (·.camera) ≠ (b.sessions[j]?).map (·.camera) := by
      have same : ∀ i, b.view.cameraOf i = (b.sessions[i]?).map (·.camera) := by
        intro i
        simp [View.cameraOf, view, Session.face, Function.comp_def]
      have distinct := hr.sound.distinct
      simp only [same] at distinct
      exact distinct
    exact countP_le_one distinct _
  · have there : i < b.sessions.length := by simpa [view] using hr.sound.active i hi
    obtain ⟨s, hs⟩ : ∃ s, b.sessions[i]? = some s := ⟨_, List.getElem?_eq_getElem there⟩
    refine ⟨s, hs, hr.unclosed i hi s.tie (by simp [view, hs]), ?_⟩
    have face : s.face ∈ b.view.faces := List.mem_map_of_mem (List.mem_of_getElem? hs)
    have opened := (List.mem_filter.1 (hr.openedFor s.face face)).1
    exact (List.mem_filter.1 opened).1
  · rcases hr.mem_active_step a hi with old | ⟨new, g, c, share, rest, d, camera, head, face⟩
    · exact absurd old out
    · obtain ⟨x, hx, rfl⟩ : ∃ x, b.handles[g]? = some x ∧ x.camera = c := by
        simpa [view] using camera
      obtain ⟨s, hs, same⟩ : ∃ s, (b.step a).sessions[i]? = some s ∧ s.face = ⟨x.camera, d⟩ := by
        simpa [view] using face
      exact ⟨new, g, share, rest, x, s, head, hx, hs, congrArg Face.camera same⟩
  · exact not_mem_active_run hr hi out actions

/-- Two cameras are shared, and each has its session. -/
def bothShared : Broker :=
  byHand ([.turn .loop, .open front true, .open back true] ++ List.replicate 6 (.turn .loop))

theorem active_sessions_both : bothShared.loop.active = [0, 1] ∧
    (∀ c, (bothShared.loop.active.countP fun i =>
      (bothShared.sessions[i]?).map (·.camera) = some c) ≤ 1) ∧
    ∀ i ∈ [0, 1], ∃ s, bothShared.sessions[i]? = some s ∧ s.closing = false ∧
      .deviceOpened s.camera s.device ∈ bothShared.hw.history := by
  have hr : Reachable bothShared := .byHand _
  have two : bothShared.loop.active = [0, 1] := by decide
  obtain ⟨once, opened, -⟩ := active_sessions hr
  exact ⟨two, once, two ▸ opened⟩

end Broker

end CameraBroker
