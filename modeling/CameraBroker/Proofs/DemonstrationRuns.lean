import CameraBroker.Demonstration
import CameraBroker.Proofs.DeviceLog
import CameraBroker.Proofs.Endings
import CameraBroker.Proofs.InUse
import CameraBroker.Proofs.Passing
import CameraBroker.Proofs.Shutdown

/-! Runs of the demonstration. It makes its calls one after another without waiting for any of them,
and the tasks and the clock go on in between as they like. Only its own opens can fill the inbox, and
they can fill it as soon as there are as many cameras as places. -/
namespace CameraBroker

namespace Broker
variable {b b' : Broker} {a : Action} {actions : List Action}

theorem Action.onlyAsks_of_background (background : a.isBackground = true) :
    a.onlyAsks = true := by
  cases a with
  | turn t => rfl
  | forget h => rfl
  | elapse ms => rfl
  | _ => cases background

theorem length_handles_requestOpen (c : CameraId) (share : Bool) (b : Broker) :
    (orUnchanged (b.requestOpen c share) b).handles.length ≤ b.handles.length + 1 := by
  have one : (b.createHandle c).handles.length = b.handles.length + 1 := List.length_append
  unfold requestOpen
  cases offered : (b.createHandle c).offer (.open b.handles.length share) with
  | ok o =>
    simp only [offered, orUnchanged]
    exact Nat.le_of_eq ((congrArg List.length (offer_ok offered).2.2.2).trans one)
  | error e =>
    cases e with
    | full =>
      simp only [offered, orUnchanged]
      exact Nat.le_succ _
    | closed =>
      simp only [offered, orUnchanged]
      rw [(fades_failHandle _ _ _).1]
      exact Nat.le_of_eq one

/-- Handles come from calls alone. -/
theorem Reachable.length_handles_step (hr : Reachable b) (asks : a.onlyAsks = true) :
    (b.step a).handles.length ≤ b.handles.length + if a.isBackground then 0 else 1 := by
  by_cases ha : a = .turn .loop
  · subst ha
    rcases loop_turn hr.sound with stays | ⟨turns, turn⟩
    · exact Nat.le_of_eq (congrArg (·.handles.length) stays)
    · have wanted : b.resumeLoop.view.wanted.length = b.view.wanted.length := by
        rw [turn.rule.wanted]
      have same : b.resumeLoop.handles.length = b.handles.length := by simpa [view] using wanted
      rw [turns]
      exact Nat.le_of_eq same
  · cases a with
    | turn t =>
      simp only [Broker.step]
      split
      · cases t with
        | release d => exact Nat.le_refl _
        | observe h => exact Nat.le_of_eq (b.fades_observe h).1
        | listen i => exact Nat.le_of_eq (congrArg List.length (b.handles_listen i))
        | close k => exact Nat.le_of_eq (meanwhile_resumeClose hr.sound.devicesFit k).2.1
        | countdown i generation =>
          exact Nat.le_of_eq (congrArg List.length (b.handles_wakeCountdown i generation))
        | loop => exact absurd rfl ha
      · exact Nat.le_refl _
    | «open» c share =>
      simp only [Broker.step]
      split
      · exact length_handles_requestOpen c share b
      · exact Nat.le_succ _
    | forget h => exact Nat.le_of_eq (List.length_modify ..)
    | elapse ms => exact Nat.le_refl _
    | _ => cases asks

/-- As many handles are there as opens were asked for, at most. -/
theorem Reachable.length_handles_run (hr : Reachable b)
    (asks : ∀ a ∈ actions, a.onlyAsks = true) : (b.run actions).handles.length ≤
      b.handles.length + (callsIn actions).length := by
  unfold callsIn
  induction actions generalizing b with
  | nil => exact Nat.le_refl _
  | cons a actions ih =>
    have first := hr.length_handles_step (asks a List.mem_cons_self)
    have rest := ih (hr.step a) fun a' mem => asks a' (List.mem_cons_of_mem a mem)
    rw [run_cons]
    cases background : a.isBackground with
    | true =>
      rw [background, if_pos rfl] at first
      simp only [List.filter_cons, background, Bool.not_true, Bool.false_eq_true, if_false]
      omega
    | false =>
      rw [background, if_neg Bool.false_ne_true] at first
      simp only [List.filter_cons, background, Bool.not_false, if_true, List.length_cons]
      omega

/-- Every request that is not done with is the open of a handle of its own. -/
theorem Attended.outstanding_le (h : b.Attended) : b.outstanding ≤ b.handles.length := by
  have hr := h.simulated.reachable
  have opens : b.outstanding = (b.waiting.filterMap Request.handle?).length := by
    rw [List.length_filterMap_eq_countP]
    refine List.countP_congr fun r mem => ?_
    cases r with
    | «open» g share => simp [Request.isClose, Request.handle?]
    | close i => simp [Request.isClose, Request.handle?]
    | closeAll => exact absurd mem h.noCloseAll
  have known : b.waiting.filterMap Request.handle? ⊆ List.range b.handles.length := by
    intro g mem
    obtain ⟨r, waits, same⟩ := List.mem_filterMap.1 mem
    cases r with
    | «open» g' share =>
      obtain rfl : g' = g := Option.some.inj same
      exact List.mem_range.2 (lt_of_waiting hr.sound waits)
    | _ => cases same
  rw [opens, ← List.length_range (n := b.handles.length)]
  exact (hr.waiting_nodup.subperm known).length_le

/-! Opens that nobody serves. -/

theorem inbox_of_room {c : CameraId} {share : Bool} (client : b.hasClient = true)
    (reader : b.inbox.reader = .open) (room : b.inbox.buffer.length < inboxDepth) :
    (b.step (.open c share)).inbox =
      { b.inbox with buffer := b.inbox.buffer ++ [.open b.handles.length share] } := by
  have taken : (b.createHandle c).inbox.offer (.open b.handles.length share) =
      .ok { b.inbox with buffer := b.inbox.buffer ++ [.open b.handles.length share] } :=
    Inbox.offer_eq_ok.2 ⟨reader, room, rfl⟩
  simp only [Broker.step, client, if_true, requestOpen, offer, taken]
  rfl

/-- Without a turn of the loop, every open stays in the inbox. -/
theorem buffer_of_opens {share : Bool} {cs : List CameraId} (client : b.hasClient = true)
    (reader : b.inbox.reader = .open) (room : b.inbox.buffer.length + cs.length ≤ inboxDepth) :
    (b.run (cs.map (.open · share))).hasClient = true ∧
      (b.run (cs.map (.open · share))).inbox.reader = .open ∧
      (b.run (cs.map (.open · share))).inbox.buffer.length = b.inbox.buffer.length + cs.length := by
  induction cs generalizing b with
  | nil => exact ⟨client, reader, rfl⟩
  | cons c cs ih =>
    rw [List.length_cons] at room
    have inbox : (b.step (.open c share)).inbox = _ := inbox_of_room client reader (by omega)
    have more : (b.step (.open c share)).inbox.buffer.length = b.inbox.buffer.length + 1 := by
      rw [inbox, List.length_append]
      rfl
    have left := ih (b := b.step (.open c share)) (by rw [hasClient, inbox]; exact client)
      (by rw [inbox]; exact reader) (by omega)
    rw [more] at left
    rw [List.map_cons, run_cons, List.length_cons]
    exact ⟨left.1, left.2.1, left.2.2.trans (by omega)⟩

/-! Calls that are taken. -/

theorem requestOpen_of_room {c : CameraId} {share : Bool} (client : b.hasClient = true)
    (room : ¬b.Overflows (.open c share)) :
    b.requestOpen c share = .ok (b.step (.open c share)) := by
  cases taken : b.requestOpen c share with
  | ok o => simp [Broker.step, client, taken, orUnchanged]
  | error e =>
    cases e with
    | full => exact absurd ⟨client, taken⟩ room
    | closed =>
      unfold requestOpen at taken
      dsimp only at taken
      split at taken <;> cases taken

theorem requestCloseAll_of_room (client : b.hasClient = true) (room : ¬b.Overflows .closeAll) :
    b.requestCloseAll = .ok (b.step .closeAll) := by
  cases taken : b.requestCloseAll with
  | ok o => simp [Broker.step, client, taken, orUnchanged]
  | error e =>
    cases e with
    | full => exact absurd ⟨client, taken⟩ room
    | closed =>
      unfold requestCloseAll at taken
      split at taken <;> cases taken

theorem producers_call (call : a.isCall = true) (b : Broker) :
    (b.step a).inbox.producers = b.inbox.producers := by
  cases a with
  | «open» c share =>
    simp only [Broker.step]
    split
    · exact congrArg (·.inbox.producers) ((Onward.refl b).requestOpen c share).backdrop
    · rfl
  | closeAll =>
    simp only [Broker.step]
    split
    · exact congrArg (·.inbox.producers) (Onward.refl b).requestCloseAll.backdrop
    · rfl
  | _ => cases call

theorem producers_run (only : ∀ a ∈ actions, a.isBackground = true ∨ a.isCall = true) :
    (b.run actions).inbox.producers = b.inbox.producers := by
  induction actions generalizing b with
  | nil => rfl
  | cons a actions ih =>
    have same : (b.step a).inbox.producers = b.inbox.producers :=
      (only a List.mem_cons_self).elim (producers_background · b) (producers_call · b)
    exact (ih fun a' mem => only a' (List.mem_cons_of_mem a mem)).trans same

/-- The last client leaves with the shutdown. -/
theorem hasClient_shutdown (one : b.inbox.producers = 1) : (b.step .shutdown).hasClient = false := by
  have client : b.hasClient = true := by simp [hasClient, one]
  have offered := ((Onward.refl b).offerOrLeave .closeAll).backdrop
  have kept : (b.offerOrLeave .closeAll).inbox.producers = 1 :=
    (congrArg (·.inbox.producers) offered).trans one
  have left : b.step .shutdown = b.beginShutdown := if_pos client
  simp [left, beginShutdown, leave, hasClient, Inbox.dropProducer, kept]

theorem Reachable.hasClient_of_run (hr : Reachable b) (client : (b.run actions).hasClient = true) :
    b.hasClient = true := by
  induction actions generalizing b with
  | nil => exact client
  | cons a actions ih => exact hr.hasClient_before (ih (hr.step a) client)

end Broker

namespace Demonstration
open Broker
variable {d : Demonstration} {before actions : List Action} {a : Action}

/-- What the demonstration shows of a broker: the lines of its device log, oldest first. -/
def shown (b : Broker) : List String := b.hw.history.reverse.filterMap Event.deviceLine?

def setup (d : Demonstration) : Setup where
  cameras := d.config.cameras
  openLatency := d.config.openLatency.toNat
  closeLatency := d.config.closeLatency.toNat
  opener := .retrying d.config.policy
  granted := d.granted

def opens (d : Demonstration) (cs : List CameraId) : List Action := cs.map (.open · d.share)

/-- The calls of the demonstration: an open for each camera, and then the end of everything. -/
def calls (d : Demonstration) : List Action := d.opens d.cameras ++ [.closeAll, .shutdown]

/-- The demonstration has come this far. It waits for none of its calls, so anything may go on between
them. -/
def Runs (d : Demonstration) (actions : List Action) : Prop := callsIn actions <+: d.calls

instance (d : Demonstration) (actions : List Action) : Decidable (d.Runs actions) :=
  inferInstanceAs (Decidable (callsIn actions <+: d.calls))

theorem callsIn_opens (cs : List CameraId) : callsIn (d.opens cs) = d.opens cs :=
  callsIn_of_calls fun a mem => by
    obtain ⟨c, -, rfl⟩ := List.mem_map.1 mem
    rfl

/-- Before each open and before the close-all there are only opens. -/
theorem Runs.opens (runs : d.Runs (before ++ [a])) (call : a.isCall = true) :
    callsIn before <+: d.opens d.cameras := by
  obtain ⟨rest, same⟩ := runs
  have last : callsIn [a] = [a] := callsIn_of_calls fun a' mem => by
    obtain rfl := List.mem_singleton.1 mem
    cases a' with
    | «open» c share => rfl
    | closeAll => rfl
    | _ => cases call
  rw [callsIn_append, last, List.append_assoc] at same
  rcases List.append_eq_append_iff.1 same with ⟨more, opens, -⟩ | ⟨more, early, later⟩
  · exact ⟨more, opens.symm⟩
  · -- The only call that comes after the opens is the close-all.
    cases more with
    | nil => exact ⟨[], by simpa using early⟩
    | cons first more =>
      obtain ⟨-, later⟩ := List.cons.inj later
      cases more with
      | nil =>
        obtain ⟨rfl, -⟩ := List.cons.inj later
        cases call
      | cons second more =>
        obtain ⟨-, later⟩ := List.cons.inj later
        simp at later

theorem Runs.asks (runs : d.Runs (before ++ [a])) (call : a.isCall = true) :
    ∀ a' ∈ before, a'.onlyAsks = true := by
  intro a' mem
  cases background : a'.isBackground with
  | true => exact Action.onlyAsks_of_background background
  | false =>
    have own : a' ∈ callsIn before := List.mem_filter.2 ⟨mem, by rw [background]; rfl⟩
    obtain ⟨c, -, rfl⟩ := List.mem_map.1 ((runs.opens call).subset own)
    rfl

theorem attended (asks : ∀ a ∈ before, a.onlyAsks = true) :
    (d.setup.broker.run before).Attended :=
  (Attended.start ⟨_, rfl⟩).run asks

/-- A call that finds the inbox full finds it full of opens of the demonstration itself. -/
theorem Runs.crowded (runs : d.Runs (before ++ [a]))
    (overflows : (d.setup.broker.run before).Overflows a) :
    inboxDepth ≤ (d.setup.broker.run before).outstanding ∧
      (d.setup.broker.run before).outstanding ≤ d.cameras.length := by
  obtain ⟨call, -, full⟩ := overflows.full
  have asks := runs.asks call
  have attended := attended (d := d) asks
  have most := attended.outstanding_le
  have handles := (Reachable.start d.setup).length_handles_run asks
  have none : d.setup.broker.handles.length = 0 := rfl
  have opens := (runs.opens call).length_le
  rw [Demonstration.opens, List.length_map] at opens
  exact ⟨Nat.le_trans full attended.buffer_le, by omega⟩

/-- Between the opens and the close-all the cameras are kept for as long as the demonstration says. -/
def Holds (d : Demonstration) (actions : List Action) : Prop :=
  .closeAll ∈ actions → ∃ asking kept rest, actions = asking ++ kept ++ .closeAll :: rest ∧
    (∀ a ∈ kept, a.isBackground = true) ∧
    (d.setup.broker.run asking).now + d.holdMs ≤ (d.setup.broker.run (asking ++ kept)).now

/-- Opens alone fill the inbox, and the next call finds it full, however long that takes. -/
theorem exists_overflow (crowd : inboxDepth ≤ d.cameras.length) :
    ∃ before a, d.Runs (before ++ [a]) ∧ d.Holds (before ++ [a]) ∧
      (d.setup.broker.run before).Overflows a := by
  obtain ⟨first, rest, split, some⟩ :
      ∃ first rest, d.cameras = first ++ rest ∧ first.length = inboxDepth :=
    ⟨_, _, (List.take_append_drop inboxDepth d.cameras).symm, List.length_take_of_le crowd⟩
  obtain ⟨client, reader, buffer⟩ :
      (d.setup.broker.run (d.opens first)).hasClient = true ∧
      (d.setup.broker.run (d.opens first)).inbox.reader = .open ∧
      (d.setup.broker.run (d.opens first)).inbox.buffer.length = 0 + first.length :=
    buffer_of_opens rfl rfl (Nat.le_of_eq ((Nat.zero_add _).trans some))
  have full : inboxDepth ≤ (d.setup.broker.run (d.opens first)).inbox.buffer.length := by omega
  cases rest with
  | nil =>
    obtain rfl : d.cameras = first := split.trans first.append_nil
    refine ⟨d.opens d.cameras ++ [.elapse d.holdMs], .closeAll, ⟨[.shutdown], ?_⟩, fun _ => ?_, ?_⟩
    · have made : callsIn [.elapse d.holdMs, .closeAll] = [.closeAll] := rfl
      rw [List.append_assoc, callsIn_append, callsIn_opens]
      simp [calls, made]
    · refine ⟨d.opens d.cameras, [.elapse d.holdMs], [], rfl, fun a mem => ?_, ?_⟩
      · obtain rfl := List.mem_singleton.1 mem
        rfl
      · rw [run_append]
        exact Nat.le_refl _
    · rw [run_append]
      exact ⟨client, requestCloseAll_eq_full.2 ⟨reader, full⟩⟩
  | cons c rest =>
    refine ⟨d.opens first, .open c d.share, ⟨d.opens rest ++ [.closeAll, .shutdown], ?_⟩,
      fun mem => ?_, client, requestOpen_eq_full.2 ⟨reader, full⟩⟩
    · have made : callsIn [.open c d.share] = [.open c d.share] := rfl
      rw [callsIn_append, callsIn_opens, made, calls, split]
      simp [Demonstration.opens]
    · simp [Demonstration.opens] at mem

/-! The demonstration as it is scheduled. -/

/-- The calls that were made led to this state, and more of them can be made. -/
def Comes (d : Demonstration) (made : List Action) (b : Broker) : Prop :=
  ∃ actions, callsIn actions = made ∧ b = d.setup.broker.run actions ∧ b.hasClient = true

theorem Comes.client {made : List Action} {b : Broker} (comes : d.Comes made b) :
    b.hasClient = true := by
  obtain ⟨-, -, -, client⟩ := comes
  exact client

theorem Comes.passes {made : List Action} {b b' : Broker} (comes : d.Comes made b)
    (passes : b.Passes b') : d.Comes made b' := by
  obtain ⟨actions, same, rfl, client⟩ := comes
  have stays := passes.hasClient
  obtain ⟨more, background, rfl⟩ := passes
  refine ⟨actions ++ more, ?_, (run_append _ actions more).symm, stays.trans client⟩
  rw [callsIn_append, callsIn_of_background background, List.append_nil, same]

theorem Comes.spared {made : List Action} {b : Broker} (comes : d.Comes made b)
    (few : d.cameras.length < inboxDepth) (call : callsIn [a] = [a])
    (more : made ++ [a] <+: d.calls) : ¬b.Overflows a := by
  obtain ⟨actions, rfl, rfl, -⟩ := comes
  intro overflows
  have runs : d.Runs (actions ++ [a]) := by
    rw [Runs, callsIn_append, call]
    exact more
  obtain ⟨full, most⟩ := runs.crowded overflows
  omega

theorem Comes.call {made : List Action} {b : Broker} (comes : d.Comes made b)
    (call : a.isCall = true) (own : callsIn [a] = [a]) : d.Comes (made ++ [a]) (b.step a) := by
  obtain ⟨actions, rfl, rfl, client⟩ := comes
  refine ⟨actions ++ [a], by rw [callsIn_append, own], by rw [run_append]; rfl, ?_⟩
  rw [hasClient, producers_call call]
  exact client

theorem request_of_taken {f : Broker → Except Refusal Broker} {run : Schedule Broker Task}
    {b : Broker} (taken : f run.state = .ok b) :
    ∃ next, request f run = .ok next ∧ b.Passes next.state := by
  refine ⟨(run.act fun _ => b).settle, ?_, (settle_passes (run.act fun _ => b)).1⟩
  rw [request, taken]
  rfl

theorem opens_taken (few : d.cameras.length < inboxDepth) {first cs : List CameraId}
    (split : d.cameras = first ++ cs) {run : Schedule Broker Task}
    (comes : d.Comes (d.opens first) run.state) : ∃ next,
      cs.foldlM (fun run c => request (·.requestOpen c d.share) run) run = .ok next ∧
        d.Comes (d.opens d.cameras) next.state := by
  induction cs generalizing first run with
  | nil =>
    rw [split, List.append_nil]
    exact ⟨run, rfl, comes⟩
  | cons c cs ih =>
    have more : d.opens first ++ [.open c d.share] <+: d.calls :=
      ⟨d.opens cs ++ [.closeAll, .shutdown], by simp [calls, split, Demonstration.opens]⟩
    obtain ⟨next, asked, passes⟩ := request_of_taken (f := (·.requestOpen c d.share))
      (requestOpen_of_room comes.client (comes.spared few rfl more))
    have comes' : d.Comes (d.opens (first ++ [c])) next.state := by
      have made : d.opens (first ++ [c]) = d.opens first ++ [.open c d.share] := List.map_append ..
      rw [made]
      exact (comes.call rfl rfl).passes passes
    obtain ⟨last, all, comes''⟩ := ih (by rw [split, List.append_assoc]; rfl) comes'
    refine ⟨last, ?_, comes''⟩
    rw [List.foldlM_cons, asked]
    exact all

/-- With fewer cameras than places the demonstration makes all of its calls, and shows the log of
that run. -/
theorem exists_deviceLog (few : d.cameras.length < inboxDepth) :
    ∃ actions, callsIn actions = d.calls ∧ d.Holds actions ∧
      d.deviceLog = .ok (shown (d.setup.broker.run actions)) := by
  have start : d.Comes (d.opens []) d.start.state :=
    Comes.passes ⟨[], rfl, rfl, rfl⟩ (settle_passes _).1
  obtain ⟨opened, all, comes⟩ := opens_taken few rfl start
  obtain ⟨slept, time⟩ := sleep_passes d.holdMs opened
  have comes' := comes.passes slept
  obtain ⟨asking, asked, there, -⟩ := comes
  obtain ⟨kept, background, later⟩ := slept
  have more : d.opens d.cameras ++ [.closeAll] <+: d.calls :=
    ⟨[.shutdown], by simp [calls]⟩
  obtain ⟨closing, closes, passes⟩ := request_of_taken (f := (·.requestCloseAll))
    (requestCloseAll_of_room comes'.client (comes'.spared few rfl more))
  have client := ((comes'.call (a := .closeAll) rfl rfl).passes passes).client
  obtain ⟨rest, background', settled⟩ := passes
  have shut : closing.state.step .shutdown = (closing.act Broker.beginShutdown).state := by
    simp only [Broker.step, client, if_true]
    rfl
  obtain ⟨last, background'', ends⟩ :=
    waitFor_passes Broker.isLoopOver (closing.act Broker.beginShutdown)
  refine ⟨asking ++ kept ++ .closeAll :: (rest ++ .shutdown :: last), ?_, fun _ => ?_, ?_⟩
  · have made : ∀ {a actions}, callsIn [a] = [a] → callsIn (a :: actions) = a :: callsIn actions :=
      fun {a actions} own => by
        rw [← List.singleton_append, callsIn_append, own, List.singleton_append]
    rw [callsIn_append, callsIn_append, made rfl, callsIn_append, made rfl, asked,
      callsIn_of_background background, callsIn_of_background background',
      callsIn_of_background background'']
    simp [calls]
  · refine ⟨asking, kept, _, rfl, background, ?_⟩
    rw [run_append, ← there, ← later]
    exact Nat.le_of_eq time.symm
  · rw [run_append, run_append, ← there, ← later, run_cons, run_append, ← settled, run_cons, shut,
      ← ends, deviceLog, all]
    simp only [bind, Except.bind, closes, pure, Except.pure, shown]

/-! The end of the demonstration. -/

theorem simulated (d : Demonstration) (actions : List Action) :
    (d.setup.broker.run actions).Simulated :=
  (Simulated.start ⟨_, rfl⟩).run actions

theorem Runs.spares (runs : d.Runs actions) : ∀ a ∈ actions, a.sparesDevices = true := by
  intro a mem
  cases background : a.isBackground with
  | true =>
    cases a with
    | turn t => rfl
    | forget h => rfl
    | elapse ms => rfl
    | _ => cases background
  | false =>
    have own : a ∈ callsIn actions := List.mem_filter.2 ⟨mem, by rw [background]; rfl⟩
    rcases List.mem_append.1 (runs.subset own) with opens | last
    · obtain ⟨c, -, rfl⟩ := List.mem_map.1 opens
      rfl
    · rcases List.mem_pair.1 last with rfl | rfl <;> rfl

/-- Once the demonstration has shut its broker down, nobody can ask any more. -/
theorem hasClient_of_called (called : callsIn actions = d.calls) :
    (d.setup.broker.run actions).hasClient = false := by
  have mem : .shutdown ∈ callsIn actions := by
    rw [called, calls]
    simp
  obtain ⟨before, after, rfl, first⟩ := List.eq_append_cons_of_mem (List.mem_filter.1 mem).1
  have only : ∀ a ∈ before, a.isBackground = true ∨ a.isCall = true := by
    intro a mem
    cases background : a.isBackground with
    | true => exact .inl rfl
    | false =>
      have own : a ∈ d.calls := by
        rw [← called]
        exact List.mem_filter.2 ⟨List.mem_append_left _ mem, by rw [background]; rfl⟩
      rcases List.mem_append.1 own with opens | last
      · obtain ⟨c, -, rfl⟩ := List.mem_map.1 opens
        exact .inr rfl
      · rcases List.mem_pair.1 last with rfl | rfl
        · exact .inr rfl
        · exact absurd mem first
  have one : (d.setup.broker.run before).inbox.producers = 1 := producers_run only
  have none := hasClient_shutdown one
  rw [run_append, run_cons]
  by_contra client
  have before := (((Reachable.start d.setup).run before).step .shutdown).hasClient_of_run
    (eq_true_of_ne_false client)
  rw [none] at before
  cases before

/-- The line that tells that a camera was opened or closed tells nothing else. -/
theorem eq_of_deviceLine? {e e' : Event} {c : CameraId}
    (line : e' = .logOpened c ∨ e' = .logClosed c) (same : e.deviceLine? = e'.deviceLine?) :
    e = e' := by
  have own : ∀ {word : String} {c' : CameraId}, word ++ c'.text = word ++ c.text → c' = c := by
    intro word c' same
    obtain ⟨text, valid⟩ := c
    obtain ⟨text', valid'⟩ := c'
    obtain rfl : text' = text := (String.append_right_inj word).1 same
    rfl
  rcases line with rfl | rfl
  · cases e with
    | logOpened c' => rw [own (Option.some.inj same)]
    | logClosed c' | logAsked c' | logCloseCall d =>
      have chars := congrArg String.toList (Option.some.inj same)
      simp at chars
    | _ => cases same
  · cases e with
    | logClosed c' => rw [own (Option.some.inj same)]
    | logOpened c' | logAsked c' | logCloseCall d =>
      have chars := congrArg String.toList (Option.some.inj same)
      simp at chars
    | _ => cases same

theorem count_deviceLine {events : List Event} {e : Event} {c : CameraId} {text : String}
    (line : e = .logOpened c ∨ e = .logClosed c) (told : e.deviceLine? = some text) :
    (events.filterMap Event.deviceLine?).count text = events.count e := by
  rw [List.count_filterMap]
  refine List.countP_congr fun e' _ => ?_
  rw [beq_iff_eq, beq_iff_eq, ← told]
  exact ⟨eq_of_deviceLine? line, congrArg Event.deviceLine?⟩

/-- Once the loop has stopped, every camera that was opened has been closed. -/
theorem balanced_of_stopped (stopped : (d.setup.broker.run actions).loop.stage = .stopped)
    (c : CameraId) : (shown (d.setup.broker.run actions)).count ("opened " ++ c.text) =
      (shown (d.setup.broker.run actions)).count ("closed " ++ c.text) := by
  have simulated := simulated d actions
  have keeps : Throughout KeepsClosed actions d.setup.broker :=
    throughout_keepsClosed (d.simulated [])
  have gone := ReachableBy.gone_of_stopped ⟨d.setup, actions, keeps, rfl⟩ stopped
  have down : (d.setup.broker.run actions).hw.devices.countP (·.isUpFor c) = 0 := by
    refine List.countP_eq_zero.2 fun x hx => ?_
    simp [Device.isUpFor, (gone x hx).isUp]
  have same := simulated.reachable.count_logOpened c
  rw [down, Nat.add_zero] at same
  rw [shown, count_deviceLine (.inl rfl) rfl, count_deviceLine (.inr rfl) rfl, List.count_reverse,
    List.count_reverse, same]

/-- A call of the demonstration finds the inbox full only where its own opens fill it, which takes as
many cameras as the inbox has places, and with so many it can happen however long the cameras are
kept. The loop never crashes, has closed every camera that it opened when it stops, and rests before
that only until an alarm that lies ahead. With fewer cameras the demonstration makes all of its calls
and shows the device log of that run. -/
theorem stays_within_inbox (d : Demonstration) :
    (∀ before a, d.Runs (before ++ [a]) → (d.setup.broker.run before).Overflows a →
      inboxDepth ≤ (d.setup.broker.run before).outstanding ∧ inboxDepth ≤ d.cameras.length) ∧
    (inboxDepth ≤ d.cameras.length → ∃ before a, d.Runs (before ++ [a]) ∧
      d.Holds (before ++ [a]) ∧ (d.setup.broker.run before).Overflows a) ∧
    (∀ actions, d.Runs actions → (d.setup.broker.run actions).loop.stage ≠ .crashed ∧
      ((d.setup.broker.run actions).loop.stage = .stopped → ∀ c : CameraId,
        (shown (d.setup.broker.run actions)).count ("opened " ++ c.text) =
          (shown (d.setup.broker.run actions)).count ("closed " ++ c.text)) ∧
      (callsIn actions = d.calls → (d.setup.broker.run actions).readyTasks = [] →
        (d.setup.broker.run actions).loop.stage = .stopped ∨
          ∃ t due, (t, due) ∈ (d.setup.broker.run actions).sleepers ∧
            (d.setup.broker.run actions).now < due ∧ (t = .loop ∨ ∃ e, t = .release e))) ∧
    (d.cameras.length < inboxDepth → ∃ actions, callsIn actions = d.calls ∧ d.Holds actions ∧
      d.deviceLog = .ok (shown (d.setup.broker.run actions))) := by
  refine ⟨fun before a runs overflows => ?_, exists_overflow, fun actions runs => ?_,
    exists_deviceLog⟩
  · obtain ⟨full, most⟩ := runs.crowded overflows
    exact ⟨full, Nat.le_trans full most⟩
  · have simulated := simulated d actions
    refine ⟨simulated.alive, balanced_of_stopped, fun called rest => ?_⟩
    have winds := (d.simulated []).winds_run (Winds.start d.setup) runs.spares
    exact simulated.ended_of_rest winds (hasClient_of_called called) rest

def pair : Demonstration where
  config := {}
  cameras := crowd.take 2
  share := true
  granted := true
  holdMs := 100

def pairClosed : List Action :=
  .turn .loop :: pair.opens pair.cameras ++ [.turn .loop, .elapse 50] ++
    List.replicate 3 (.turn .loop) ++ [.elapse 50] ++ List.replicate 3 (.turn .loop) ++
    [.closeAll, .turn .loop, .turn (.close 0), .turn (.release 0), .turn (.close 1),
      .turn (.release 1), .shutdown, .elapse 100, .turn (.release 0), .turn (.release 1)] ++
    List.replicate 4 (.turn .loop)

theorem stays_within_inbox_pair : pair.Runs pairClosed ∧
    (shown (pair.setup.broker.run pairClosed)).count "opened 1" = 1 ∧
    (shown (pair.setup.broker.run pairClosed)).count "closed 1" = 1 ∧
    ∃ actions, callsIn actions = pair.calls ∧ pair.Holds actions ∧
      pair.deviceLog = .ok (shown (pair.setup.broker.run actions)) := by
  have runs : pair.Runs pairClosed := by decide
  have stopped : (pair.setup.broker.run pairClosed).loop.stage = .stopped := by decide +kernel
  have opened : (shown (pair.setup.broker.run pairClosed)).count "opened 1" = 1 := by
    decide +kernel
  obtain ⟨-, -, ends, shows⟩ := stays_within_inbox pair
  obtain ⟨-, balanced, -⟩ := ends pairClosed runs
  exact ⟨runs, opened, (balanced stopped ⟨"1", by decide⟩).symm.trans opened, shows (by decide)⟩

def queue : Demonstration :=
  { pair with cameras := (List.replicate 10 (crowd.take 1)).flatten }

/-- The calls find the inbox full although each of them leaves the loop the time to go as far as it
can. -/
theorem queue_overflows : ¬∀ d : Demonstration, ∃ log, d.deviceLog = .ok log := by
  intro shows
  have failed : queue.deviceLog.toOption.isNone = true := by decide +kernel
  obtain ⟨log, ok⟩ := shows queue
  rw [ok] at failed
  cases failed

end Demonstration

end CameraBroker
