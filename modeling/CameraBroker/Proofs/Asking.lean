import CameraBroker.Proofs.Ledger

/-! Who asks for the close of a session: its listener once the device is lost, and its idle timer once
a countdown ends and no handle keeps a token. -/
namespace CameraBroker.Broker
variable {b b' : Broker} {h : HandleId} {i j : SessionId}

theorem waiting_of_eq (loop : b'.loop = b.loop) (inbox : b'.inbox = b.inbox) :
    b'.waiting = b.waiting := by
  rw [waiting, loop, inbox]
  rfl

theorem waiting_offer {r : Request} (offered : b.offer r = .ok b') :
    b'.waiting = b.waiting ++ [r] := by
  have arrived : b'.view = b.view.arrive r := (offer_ok offered).2.2.1
  rw [← view_waiting, arrived, View.waiting_arrive]
  rfl

theorem waits_of_requestClose {r : Request} (mem : r ∈ (b.requestClose i).2.waiting) :
    r ∈ b.waiting ∨ r = .close i := by
  unfold requestClose at mem
  split at mem
  · exact .inl mem
  · split at mem
    · exact .inl mem
    · cases offered : b.offer (.close i) with
      | ok o =>
        rw [offered] at mem
        have mem : r ∈ o.waiting := mem
        rw [waiting_offer offered] at mem
        simpa using mem
      | error e =>
        rw [offered] at mem
        cases e with
        | full => exact .inl mem
        | closed => exact .inl mem

theorem waits_of_expire {r : Request} (mem : r ∈ (b.expire i).2.waiting) :
    r ∈ b.waiting ∨ r = .close i := by
  unfold expire at mem
  split at mem
  · exact .inl mem
  · rename_i t ht
    exact waits_of_requestClose (b := b.onTimer i fun _ => t) mem

def LosesDevice (b : Broker) (i : SessionId) : Prop :=
  ∃ s st, b.sessions[i]? = some s ∧ s.closing = false ∧ b.sessionStream? i = some st ∧
    st.isLost = true

theorem waits_of_listen {r : Request} (mem : r ∈ (b.listen i).waiting) :
    r ∈ b.waiting ∨ r = .close i ∧ b.LosesDevice i := by
  unfold listen at mem
  split at mem
  · rename_i s st hs hst
    split at mem
    · rename_i lost
      dsimp only at mem
      split at mem
      · exact .inl mem
      · rename_i closing
        have mem : r ∈
            ((b.onSession i fun x => { x with listener := .done }).expire i).2.waiting := by
          revert mem
          split
          · exact id
          · exact id
        refine (waits_of_expire mem).imp id fun same => ⟨same, s, st, hs, ?_, hst, lost⟩
        simpa using closing
    · exact .inl mem
  · exact .inl mem

theorem waits_of_wakeCountdown {r : Request} {generation : Nat}
    (mem : r ∈ (b.wakeCountdown i generation).waiting) :
    r ∈ b.waiting ∨ r = .close i ∧ ∃ s, b.sessions[i]? = some s ∧ s.timer.tokens = 0 := by
  unfold wakeCountdown at mem
  split at mem
  · exact .inl mem
  · rename_i s hs
    dsimp only at mem
    split at mem
    · exact .inl mem
    · rename_i u fired
      have none := (IdleTimer.tokens_of_fire fired).2
      exact (waits_of_requestClose (b := b.onTimer i fun _ => u) mem).imp id fun same =>
        ⟨same, s, hs, none⟩

theorem waiting_resumeClose (k : Nat) : (b.resumeClose k).waiting = b.waiting := by
  unfold resumeClose
  split
  · rfl
  · rename_i c hk
    obtain ⟨i, stage⟩ := c
    cases stage with
    | fresh =>
      cases hs : b.sessions[i]? with
      | none =>
        have nothing : b.beginClose i = (false, b) := by simp [beginClose, hs]
        rw [nothing]
        rfl
      | some s =>
        obtain ⟨o, view, -, -, same⟩ := beginClose_eq hs
        have kept : o.waiting = b.waiting :=
          waiting_of_eq (congrArg View.loop view) (congrArg View.inbox view)
        rw [same]
        cases (o.hw.closeDevice s.device).1 with
        | true => exact kept
        | false => exact kept
    | awaiting => rfl
    | done => rfl

theorem waits_of_requestOpen {r : Request} {c : CameraId} {share : Bool}
    (mem : r ∈ (orUnchanged (b.requestOpen c share) b).waiting) :
    r ∈ b.waiting ∨ r = .open b.handles.length share := by
  unfold requestOpen at mem
  cases offered : (b.createHandle c).offer (.open b.handles.length share) with
  | ok o =>
    simp only [offered, orUnchanged] at mem
    rw [waiting_offer offered] at mem
    exact (List.mem_append.1 mem).imp id List.mem_singleton.1
  | error e =>
    cases e with
    | full =>
      simp only [offered, orUnchanged] at mem
      exact .inl mem
    | closed =>
      simp only [offered, orUnchanged] at mem
      rw [← view_waiting, view_failHandle] at mem
      exact .inl mem

theorem close_of_offer {o : Broker} (offered : b.offer .closeAll = .ok o)
    (mem : .close j ∈ o.waiting) : .close j ∈ b.waiting := by
  rw [waiting_offer offered] at mem
  exact (List.mem_append.1 mem).resolve_right (by simp)

theorem close_of_requestCloseAll (mem : .close j ∈ (orUnchanged b.requestCloseAll b).waiting) :
    .close j ∈ b.waiting := by
  unfold requestCloseAll at mem
  cases offered : b.offer .closeAll with
  | ok o =>
    simp only [offered, orUnchanged] at mem
    exact close_of_offer offered mem
  | error e =>
    cases e with
    | full =>
      simp only [offered, orUnchanged] at mem
      exact mem
    | closed =>
      simp only [offered, orUnchanged] at mem
      exact mem

theorem close_of_beginShutdown (mem : .close j ∈ b.beginShutdown.waiting) :
    .close j ∈ b.waiting := by
  have mem : .close j ∈ (b.offerOrLeave .closeAll).waiting := mem
  unfold offerOrLeave at mem
  cases offered : b.offer .closeAll with
  | ok o =>
    simp only [offered] at mem
    exact close_of_offer offered mem
  | error e =>
    simp only [offered] at mem
    exact mem

/-- A turn of the loop asks for nothing. -/
theorem Turn.waits_before (hs : b.view.Sound) (turn : b.Turn b') {r : Request}
    (mem : r ∈ b'.waiting) : r ∈ b.waiting := by
  obtain ⟨rs, services, -⟩ := turn.rule.services hs turn.follows
  cases services with
  | serve accepted serviced split crashed =>
    have still : r ∈ b'.view.waiting.filter fun q => q.isClose = r.isClose :=
      List.mem_filter.2 ⟨mem, decide_eq_true rfl⟩
    have before : r ∈ b.view.waiting.filter fun q => q.isClose = r.isClose := by
      rw [split r.isClose]
      exact List.mem_append_right _ still
    exact (List.mem_filter.1 before).1
  | crash accepted serviced none waiting stage =>
    rw [← view_waiting, waiting] at mem
    cases mem

/-- A session asks for its close when its device is lost, or when a countdown ends and no handle
keeps a token. -/
theorem Reachable.asked (hr : Reachable b) {a : Action} (mem : .close i ∈ (b.step a).waiting) :
    .close i ∈ b.waiting ∨ b.LosesDevice i ∨ ∃ generation s,
      b.step a = b.wakeCountdown i generation ∧ b.sessions[i]? = some s ∧ s.timer.tokens = 0 := by
  by_cases ha : a = .turn .loop
  · subst ha
    rcases loop_turn hr.sound with stays | ⟨turns, turn⟩
    · exact .inl (stays ▸ mem)
    · rw [turns] at mem
      exact .inl (turn.waits_before hr.sound mem)
  · cases a with
    | turn t =>
      simp only [Broker.step] at mem ⊢
      split at mem
      · rename_i ready
        rw [if_pos ready]
        cases t with
        | release d => exact .inl mem
        | observe h =>
          have same : (b.observe h).waiting = b.waiting :=
            congrArg View.waiting (b.view_observe h)
          exact .inl (same ▸ mem)
        | listen k =>
          rcases waits_of_listen mem with old | ⟨same, lost⟩
          · exact .inl old
          · cases same
            exact .inr (.inl lost)
        | close k => exact .inl (b.waiting_resumeClose k ▸ mem)
        | countdown k generation =>
          rcases waits_of_wakeCountdown mem with old | ⟨same, s, hs, none⟩
          · exact .inl old
          · cases same
            exact .inr (.inr ⟨generation, s, rfl, hs, none⟩)
        | loop => exact absurd rfl ha
      · exact .inl mem
    | «open» c share =>
      simp only [Broker.step] at mem
      split at mem
      · rcases waits_of_requestOpen mem with old | new
        · exact .inl old
        · cases new
      · exact .inl mem
    | closeAll =>
      simp only [Broker.step] at mem
      split at mem
      · exact .inl (close_of_requestCloseAll mem)
      · exact .inl mem
    | shutdown =>
      simp only [Broker.step] at mem
      split at mem
      · exact .inl (close_of_beginShutdown mem)
      · exact .inl mem
    | disconnect h =>
      have same : (b.disconnect h).waiting = b.waiting :=
        congrArg View.waiting (b.view_disconnect h)
      exact .inl (same ▸ mem)
    | leave =>
      simp only [Broker.step] at mem
      split at mem <;> exact .inl mem
    | join =>
      simp only [Broker.step, endShutdown] at mem
      split at mem
      · split at mem <;> exact .inl mem
      · exact .inl mem
    | grant =>
      simp only [Broker.step, grant] at mem
      split at mem <;> exact .inl mem
    | revoke =>
      simp only [Broker.step, revoke] at mem
      split at mem <;> exact .inl mem
    | publish d state =>
      simp only [Broker.step, onManual] at mem
      split at mem
      · split at mem <;> exact .inl mem
      · exact .inl mem
    | dropPublisher d =>
      simp only [Broker.step, onManual] at mem
      split at mem
      · split at mem <;> exact .inl mem
      · exact .inl mem
    | script delay onClose outcomes =>
      simp only [Broker.step, rescript] at mem
      split at mem <;> exact .inl mem
    | forget h => exact .inl mem
    | unplug c => exact .inl mem
    | addCamera c => exact .inl mem
    | failNext c n => exact .inl mem
    | setLatency o c => exact .inl mem
    | elapse ms => exact .inl mem

end CameraBroker.Broker
