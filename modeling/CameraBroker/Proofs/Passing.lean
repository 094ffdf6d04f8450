import CameraBroker.Proofs.Clock

/-! What goes on while nobody calls the broker. Tasks take their turns, handles are forgotten, and time
passes; the waits of a schedule are made of nothing else. -/
namespace CameraBroker.Broker
variable {b b' c : Broker} {a : Action} {s : Schedule Broker Task}

/-- What goes on between the calls of a client. -/
def Action.isBackground : Action → Bool
  | .turn _ => true
  | .forget _ => true
  | .elapse _ => true
  | _ => false

def callsIn (actions : List Action) : List Action := actions.filter fun a => !a.isBackground

theorem callsIn_append (actions more : List Action) :
    callsIn (actions ++ more) = callsIn actions ++ callsIn more := List.filter_append ..

theorem callsIn_of_background {actions : List Action}
    (background : ∀ a ∈ actions, a.isBackground = true) : callsIn actions = [] :=
  List.filter_eq_nil_iff.2 fun a mem => by simp [background a mem]

theorem callsIn_of_calls {actions : List Action} (calls : ∀ a ∈ actions, a.isBackground = false) :
    callsIn actions = actions :=
  List.filter_eq_self.2 fun a mem => by simp [calls a mem]

theorem producers_background (background : a.isBackground = true) (b : Broker) :
    (b.step a).inbox.producers = b.inbox.producers := by
  cases a with
  | turn t =>
    simp only [Broker.step]
    split
    · exact congrArg (·.2.1) (Retains.resumeTask t b).setting
    · rfl
  | forget h => rfl
  | elapse ms => rfl
  | _ => cases background

/-- Only tasks, the clock and clients that forget handles took the broker from one to the other. -/
def Passes (b b' : Broker) : Prop :=
  ∃ actions, (∀ a ∈ actions, a.isBackground = true) ∧ b' = b.run actions

theorem Passes.refl (b : Broker) : b.Passes b := ⟨[], nofun, rfl⟩

theorem Passes.trans (h : b.Passes b') (h' : b'.Passes c) : b.Passes c := by
  obtain ⟨actions, background, rfl⟩ := h
  obtain ⟨more, background', rfl⟩ := h'
  refine ⟨actions ++ more, fun a mem => ?_, (run_append b actions more).symm⟩
  exact (List.mem_append.1 mem).elim (background a) (background' a)

theorem Passes.step (background : a.isBackground = true) : b.Passes (b.step a) :=
  ⟨[a], fun _ mem => List.mem_singleton.1 mem ▸ background, rfl⟩

theorem Passes.hasClient (h : b.Passes b') : b'.hasClient = b.hasClient := by
  obtain ⟨actions, background, rfl⟩ := h
  induction actions generalizing b with
  | nil => rfl
  | cons a actions ih =>
    have same : (b.step a).hasClient = b.hasClient := by
      rw [Broker.hasClient, producers_background (background a List.mem_cons_self)]
      rfl
    exact (ih fun a' mem => background a' (List.mem_cons_of_mem a mem)).trans same

/-- The clock is set forward. -/
theorem Passes.elapse {instant : Nat} (later : b.now ≤ instant) :
    b.Passes (Machine.setNow instant b) := by
  have same : b.step (.elapse (instant - b.now)) = Machine.setNow instant b := by
    have sum : b.now + (instant - b.now) = instant := Nat.add_sub_cancel' later
    exact congrArg (fun n => (Machine.setNow n b : Broker)) sum
  exact same ▸ .step rfl

/-! The turns of a schedule. -/

theorem turn_passes (s : Schedule Broker Task) :
    s.state.Passes s.turn.state ∧ s.turn.state.now = s.state.now := by
  unfold Schedule.turn
  split
  · exact ⟨.refl _, rfl⟩
  · rename_i t rest _
    split
    · rename_i ready
      have resumed : s.state.step (.turn t) = Machine.resume t s.state := if_pos ready
      have took : s.state.Passes (s.state.step (.turn t)) := .step rfl
      rw [resumed] at took
      exact ⟨took, congrArg Prod.fst (Retains.resumeTask t s.state).setting⟩
    · exact ⟨.refl _, rfl⟩

theorem settleWithin_passes (n : Nat) (s : Schedule Broker Task) :
    s.state.Passes (s.settleWithin n).state ∧ (s.settleWithin n).state.now = s.state.now := by
  induction n generalizing s with
  | zero => exact ⟨.refl _, rfl⟩
  | succ n ih =>
    unfold Schedule.settleWithin
    split
    · exact ⟨.refl _, rfl⟩
    · obtain ⟨first, now⟩ := turn_passes s
      obtain ⟨rest, now'⟩ := ih s.turn
      exact ⟨first.trans rest, now'.trans now⟩

/-- No time passes until everything rests. -/
theorem settle_passes (s : Schedule Broker Task) :
    s.state.Passes s.settle.state ∧ s.settle.state.now = s.state.now :=
  settleWithin_passes _ s.wake

theorem advance_passes {instant : Nat} (later : s.state.now ≤ instant) :
    s.state.Passes (s.advance instant).state ∧ (s.advance instant).state.now = instant := by
  have settled := settle_passes { s with
    state := Machine.setNow instant s.state
    queue := s.queue ++ ((s.asleep.filter fun x => x.2 ≤ instant).map (·.1)).filter
      fun t => !s.queue.contains t }
  exact ⟨(Passes.elapse later).trans settled.1, settled.2⟩

/-- An alarm lies ahead, and not beyond the limit. -/
theorem of_nextAlarm? {limit : Option Nat} {instant : Nat}
    (next : s.nextAlarm? limit = some instant) :
    s.state.now < instant ∧ limit.all (instant ≤ ·) = true := by
  obtain ⟨-, ahead⟩ := List.mem_filter.1 (List.min?_mem next)
  exact (Bool.and_eq_true_iff.1 ahead).imp of_decide_eq_true id

theorem passTime_passes (done : Broker → Bool) (limit : Option Nat) (n : Nat)
    (s : Schedule Broker Task) (early : limit.all (s.state.now ≤ ·) = true) :
    s.state.Passes (s.passTime done limit n).state ∧
      limit.all ((s.passTime done limit n).state.now ≤ ·) = true := by
  induction n generalizing s with
  | zero => exact ⟨.refl _, early⟩
  | succ n ih =>
    unfold Schedule.passTime
    split
    · exact ⟨.refl _, early⟩
    · split
      · rename_i instant next
        obtain ⟨ahead, within⟩ := of_nextAlarm? next
        obtain ⟨first, now⟩ := advance_passes (s := s) (Nat.le_of_lt ahead)
        obtain ⟨rest, early⟩ := ih (s.advance instant) (by rw [now]; exact within)
        exact ⟨first.trans rest, early⟩
      · exact ⟨.refl _, early⟩

theorem waitFor_passes (done : Broker → Bool) (s : Schedule Broker Task) :
    s.state.Passes (s.waitFor done).state := by
  unfold Schedule.waitFor
  split
  · exact .refl _
  · exact (settle_passes s).1.trans (passTime_passes done none _ s.settle rfl).1

/-- A sleep takes as long as it says. -/
theorem sleep_passes (ms : Nat) (s : Schedule Broker Task) :
    s.state.Passes (s.sleep ms).state ∧ (s.sleep ms).state.now = s.state.now + ms := by
  obtain ⟨settled, now⟩ := settle_passes s
  obtain ⟨passed, early⟩ := passTime_passes (fun _ => false) (some (s.state.now + ms))
    Schedule.patience s.settle (by simp [now])
  obtain ⟨rest, last⟩ := advance_passes (of_decide_eq_true early)
  unfold Schedule.sleep Schedule.waitAtMost
  simp only [Bool.false_eq_true, if_false]
  exact ⟨(settled.trans passed).trans rest, last⟩

end CameraBroker.Broker
