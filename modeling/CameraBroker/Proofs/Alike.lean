import CameraBroker.Proofs.Evaluation
import CameraBroker.Proofs.LoneSession
import CameraBroker.Proofs.Shown
import CameraBroker.Proofs.Thinned

/-! Two brokers of which one lacks opens that the other has in its pending list. Apart from that they
show the same, and a round of the loop that comes to no missing open whose handle still waits does
the same in both. -/
namespace CameraBroker.Broker
open Request
variable {b b' o o' : Broker} {marks : List Bool} {h : HandleId} {c : CameraId}

/-- Both show the same, and the second lacks the marked opens of the first. -/
structure Alike (marks : List Bool) (b b' : Broker) : Prop where
  shown : b'.shown = b.shown
  thins : Thins marks b.loop.pending b'.loop.pending

/-- From `b` the loop has come to `o`, and beside it another loop to `o'`. It has served some of the
first opens, and is at its end or still alike. -/
inductive Together (marks : List Bool) (b o o' : Broker) : Prop where
  | ends (stage : o.isLoopOver = true) (shown : o'.shown = o.shown)
  | goesOn (n : Nat) (alike : Alike (marks.drop n) o o')
      (left : (opens b.waiting).length = n + (opens o.waiting).length)
      (inFlight : o.loop.stage.opens? ≠ none → (marks.drop n).head? ≠ some true)

namespace Alike

theorem after {f : Broker → Broker} (alike : Alike marks o o')
    (shows : ∀ b, (f b).shown = f b.shown) (keeps : ∀ b, (f b).loop.pending = b.loop.pending) :
    Alike marks (f o) (f o') :=
  ⟨by rw [shows, shows, alike.shown], by rw [keeps, keeps]; exact alike.thins⟩

theorem emit {e : Event} (alike : Alike marks o o') (he : e.isShown = true) :
    Alike marks (o.emit e) (o'.emit e) :=
  alike.after (f := Broker.emit e) (fun b => b.shown_emit he) fun _ => rfl

theorem note {e e' : Event} (alike : Alike marks o o') (he : e.isShown = false)
    (he' : e'.isShown = false) : Alike marks (o.emit e) (o'.emit e') :=
  ⟨by rw [shown_emit_hidden _ he, shown_emit_hidden _ he', alike.shown], alike.thins⟩

theorem setStage (alike : Alike marks o o') (stage : LoopStage) :
    Alike marks (o.setStage stage) (o'.setStage stage) :=
  alike.after (f := Broker.setStage stage) (fun _ => rfl) fun _ => rfl

theorem setActive (alike : Alike marks o o') (active : List SessionId) :
    Alike marks (o.setActive active) (o'.setActive active) :=
  alike.after (f := Broker.setActive active) (fun _ => rfl) fun _ => rfl

theorem setPending {pending pending' : List Request} (alike : Alike marks o o')
    {marks' : List Bool} (thins : Thins marks' pending pending') :
    Alike marks' (o.setPending pending) (o'.setPending pending') := by
  refine ⟨?_, thins⟩
  have shows : ∀ (o : Broker) (pending : List Request),
      (o.setPending pending).shown = o.shown.setPending (pending.filter Request.isClose) :=
    fun _ _ => rfl
  rw [shows, shows, alike.shown, thins.filter_isClose]

theorem onHardware {w w' : Hardware} (alike : Alike marks o o') (same : w'.shown = w.shown) :
    Alike marks { o with hw := w } { o' with hw := w' } := by
  let onto (w : Hardware) (o : Broker) : Broker := { o with hw := w }
  have shows : ∀ w o, (onto w o).shown = onto w.shown o.shown := fun _ _ => rfl
  exact ⟨(shows w' o').trans ((congrArg₂ onto same alike.shown).trans (shows w o).symm),
    alike.thins⟩

theorem handles (alike : Alike marks o o') : o'.handles = o.handles :=
  congrArg (·.handles) alike.shown

theorem sessions (alike : Alike marks o o') : o'.sessions = o.sessions :=
  congrArg (·.sessions) alike.shown

theorem inbox (alike : Alike marks o o') : o'.inbox = o.inbox :=
  congrArg (·.inbox) alike.shown

theorem active (alike : Alike marks o o') : o'.loop.active = o.loop.active :=
  congrArg (·.loop.active) alike.shown

theorem stage (alike : Alike marks o o') : o'.loop.stage = o.loop.stage :=
  congrArg (·.loop.stage) alike.shown

theorem granted (alike : Alike marks o o') : o'.granted = o.granted :=
  congrArg (·.granted) alike.shown

theorem opener (alike : Alike marks o o') : o'.opener = o.opener :=
  congrArg (·.opener) alike.shown

theorem now (alike : Alike marks o o') : o'.now = o.now := congrArg (·.now) alike.shown

theorem hw (alike : Alike marks o o') : o'.hw.shown = o.hw.shown :=
  congrArg (·.hw) alike.shown

theorem isSessionGone (alike : Alike marks o o') (i : SessionId) :
    o'.isSessionGone i = o.isSessionGone i := by
  rw [← o'.isSessionGone_shown, alike.shown, isSessionGone_shown]

theorem sessionStream? (alike : Alike marks o o') (i : SessionId) :
    o'.sessionStream? i = o.sessionStream? i := by
  rw [← o'.sessionStream?_shown, alike.shown, sessionStream?_shown]

theorem activeFor? (alike : Alike marks o o') (c : CameraId) : o'.activeFor? c = o.activeFor? c :=
  congrArg (·.activeFor? c) alike.shown

theorem conflicting (alike : Alike marks o o') (c : CameraId) :
    o'.conflicting c = o.conflicting c :=
  congrArg (·.conflicting c) alike.shown

end Alike

/-! Waiting for sessions to close. -/

section Closing

/-- It does not matter what came before, as long as the same opens waited. -/
theorem Together.base (together : Together marks o b b') {earlier : Broker}
    (same : opens earlier.waiting = opens o.waiting) : Together marks earlier b b' := by
  cases together with
  | ends stage shown => exact .ends stage shown
  | goesOn n alike left inFlight => exact .goesOn n alike (same ▸ left) inFlight

theorem Alike.together (alike : Alike marks o o') (same : opens b.waiting = opens o.waiting)
    (inFlight : o.loop.stage.opens? ≠ none → marks.head? ≠ some true) : Together marks b o o' :=
  .goesOn 0 alike (by rw [same, Nat.zero_add]) inFlight

theorem together_awaitClosed (alike : Alike marks o o') (sessions left : List SessionId)
    (after : AfterClose) :
    Together marks o (o.awaitClosed sessions left after) (o'.awaitClosed sessions left after) := by
  unfold awaitClosed
  simp only [alike.isSessionGone]
  split
  · cases after with
    | read => exact (alike.setStage .reading).together rfl (absurd rfl)
    | stop =>
      refine .ends rfl ?_
      have stops : ∀ b : Broker, (b.afterClose .stop).shown = b.shown.stopLoop :=
        fun b => b.shown_stopLoop
      rw [stops, stops, alike.shown]
  · exact (alike.setStage _).together rfl (absurd rfl)

theorem together_closeSessions (alike : Alike marks o o') (sessions : List SessionId)
    (after : AfterClose) :
    Together marks o (o.closeSessions sessions after) (o'.closeSessions sessions after) := by
  have spawned : ∀ (ids : List SessionId) {o o' : Broker}, Alike marks o o' →
      Alike marks (ids.foldl (fun b i => b.spawnClose i) o)
        (ids.foldl (fun b i => b.spawnClose i) o') := by
    intro ids
    induction ids with
    | nil => exact id
    | cons i ids ih =>
      exact fun alike => ih (alike.after (f := (·.spawnClose i)) (fun _ => rfl) fun _ => rfl)
  have waiting : ∀ (ids : List SessionId) (o : Broker),
      (ids.foldl (fun b i => b.spawnClose i) o).waiting = o.waiting := by
    intro ids
    induction ids with
    | nil => exact fun _ => rfl
    | cons i ids ih => exact fun o => ih (o.spawnClose i)
  exact (together_awaitClosed (spawned sessions alike) sessions sessions after).base
    (by rw [waiting])

end Closing

/-! The opener. -/

section Opening

theorem waiting_popHead (b : Broker) :
    (b.popHead).waiting = b.loop.pending.tail ++ b.inbox.buffer := by
  unfold popHead
  split <;> rename_i pending <;> simp [waiting, pending, serviced, setPending, onLoop, emit]

/-- Both loops are done with their oldest request, which is the same one. -/
theorem together_popHead (alike : Alike marks o o') (unmarked : marks.head? ≠ some true) :
    Together marks o (o.popHead.setStage .reading) (o'.popHead.setStage .reading) := by
  cases pending : o.loop.pending with
  | nil =>
    have pending' := (pending ▸ alike.thins).nil
    have stays : o.popHead = o ∧ o'.popHead = o' := by simp [popHead, pending, pending']
    rw [stays.1, stays.2]
    exact (alike.setStage .reading).together rfl (absurd rfl)
  | cons r rest =>
    obtain ⟨rest', pending', thins⟩ := (pending ▸ alike.thins).head (.inr unmarked)
    have pops : o.popHead = (o.setPending rest).serviced r ∧
        o'.popHead = (o'.setPending rest').serviced r := by simp [popHead, pending, pending']
    have left : Alike (marks.drop (opens [r]).length) (o.setPending rest) (o'.setPending rest') :=
      alike.setPending thins
    have told : Alike (marks.drop (opens [r]).length) o.popHead o'.popHead := by
      rw [pops.1, pops.2]
      cases r with
      | «open» h share => exact left.note rfl rfl
      | close i => exact left.emit rfl
      | closeAll => exact left.emit rfl
    refine .goesOn _ (told.setStage .reading) ?_ (absurd rfl)
    have waits : (o.popHead.setStage .reading).waiting = rest ++ o.inbox.buffer := by
      have popped := o.waiting_popHead
      rwa [pending] at popped
    rw [waits, waiting, pending, ← List.length_append, ← opens_append]
    rfl

theorem together_giveUpOpen (alike : Alike marks o o') (unmarked : marks.head? ≠ some true)
    (h : HandleId) (reason : OpenFailure) :
    Together marks o (o.giveUpOpen h reason) (o'.giveUpOpen h reason) := by
  have loop : ∀ b : Broker, (b.failHandle h reason).loop = b.loop ∧
      (b.failHandle h reason).inbox = b.inbox := fun b => loop_failHandle h b reason
  have failed : Alike marks (o.failHandle h reason) (o'.failHandle h reason) :=
    alike.after (fun b => ((Onward.refl b).failHandle h reason).shown) fun b => by rw [(loop b).1]
  refine (together_popHead failed unmarked).base ?_
  rw [waiting, waiting, (loop o).1, (loop o).2]

theorem together_openerGaveUp (alike : Alike marks o o') (unmarked : marks.head? ≠ some true)
    (h : HandleId) (c : CameraId) : Together marks o (o.openerGaveUp h c) (o'.openerGaveUp h c) := by
  have told : Alike marks (o.emit (.openGivenUp c)) (o'.emit (.openGivenUp c)) := alike.emit rfl
  exact (together_giveUpOpen told unmarked h .openFailed).base rfl

theorem together_attemptFailed (alike : Alike marks o o') (unmarked : marks.head? ≠ some true)
    (p : RetryPolicy) (h : HandleId) (c : CameraId) (attempt : Nat) (e : DeviceError) :
    Together marks o (o.attemptFailed p h c attempt e) (o'.attemptFailed p h c attempt e) := by
  unfold attemptFailed
  rw [alike.now]
  split
  · have told : Alike marks (o.emit (.attemptFailed c attempt p.attempts e p.interval))
        (o'.emit (.attemptFailed c attempt p.attempts e p.interval)) := alike.emit rfl
    exact (told.setStage _).together rfl fun _ => unmarked
  · have told : Alike marks (o.emit (.gaveUp c attempt e)) (o'.emit (.gaveUp c attempt e)) :=
      alike.emit rfl
    exact (together_openerGaveUp told unmarked h c).base rfl

theorem together_beginAttempt (alike : Alike marks o o') (unmarked : marks.head? ≠ some true)
    (p : RetryPolicy) (h : HandleId) (c : CameraId) (attempt : Nat) :
    Together marks o (o.beginAttempt p h c attempt) (o'.beginAttempt p h c attempt) := by
  have begun := o.hw.shown_beginOpen c
  have begun' := o'.hw.shown_beginOpen c
  rw [alike.hw, begun] at begun'
  obtain ⟨answer, shown⟩ := Prod.mk.inj begun'
  unfold beginAttempt
  cases opening : o.hw.beginOpen c with
  | mk r w =>
    cases opening' : o'.hw.beginOpen c with
    | mk r' w' =>
      rw [opening, opening'] at answer shown
      subst answer
      have moved : Alike marks { o with hw := w } { o' with hw := w' } :=
        alike.onHardware shown.symm
      cases r with
      | error e => exact (together_attemptFailed moved unmarked p h c attempt e).base rfl
      | ok found => exact (moved.setStage _).together rfl fun _ => unmarked

theorem together_deviceReady (alike : Alike marks o o') (c : CameraId) (d : DeviceId) :
    Together marks o (o.deviceReady c d) (o'.deviceReady c d) := by
  have keeps : ∀ b : Broker, (b.deviceReady c d).loop.pending = b.loop.pending ∧
      (b.deviceReady c d).inbox = b.inbox := by
    intro b
    unfold deviceReady startSession
    dsimp only
    split <;> exact ⟨rfl, rfl⟩
  have ready : Alike marks (o.deviceReady c d) (o'.deviceReady c d) :=
    alike.after (fun b => b.shown_deviceReady c d) fun b => (keeps b).1
  refine ready.together ?_ (absurd rfl)
  rw [waiting, waiting, (keeps o).1, (keeps o).2]

theorem together_endAttempt (alike : Alike marks o o') (unmarked : marks.head? ≠ some true)
    (p : RetryPolicy) (h : HandleId) (c : CameraId) (attempt : Nat) (d : DeviceId) :
    Together marks o (o.endAttempt p h c attempt d) (o'.endAttempt p h c attempt d) := by
  have ended := o.hw.shown_finishOpen c d
  have ended' := o'.hw.shown_finishOpen c d
  rw [alike.hw, ended] at ended'
  obtain ⟨answer, shown⟩ := Prod.mk.inj ended'
  unfold endAttempt
  cases ending : o.hw.finishOpen c d with
  | mk r w =>
    cases ending' : o'.hw.finishOpen c d with
    | mk r' w' =>
      rw [ending, ending'] at answer shown
      subst answer
      have moved : Alike marks { o with hw := w } { o' with hw := w' } :=
        alike.onHardware shown.symm
      cases r with
      | error e => exact (together_attemptFailed moved unmarked p h c attempt e).base rfl
      | ok done =>
        dsimp only
        split
        · exact (together_deviceReady (moved.emit rfl) c d).base rfl
        · exact (together_deviceReady moved c d).base rfl

theorem together_endScripted (alike : Alike marks o o') (unmarked : marks.head? ≠ some true)
    (h : HandleId) (c : CameraId) (onClose : OnClose) (outcome : ScriptedOpen) :
    Together marks o (o.endScripted h c onClose outcome) (o'.endScripted h c onClose outcome) := by
  cases outcome with
  | refused => exact together_openerGaveUp alike unmarked h c
  | crash =>
    refine .ends rfl ?_
    have dies : ∀ b : Broker, b.crash.shown = b.shown.crash := fun _ => rfl
    exact (dies o').trans ((congrArg crash alike.shown).trans (dies o).symm)
  | device state =>
    have devices : o'.hw.devices = o.hw.devices := congrArg (·.devices) alike.hw
    have added : (o'.hw.addManual c state onClose).2.shown =
        (o.hw.addManual c state onClose).2.shown := by
      have shows : ∀ w : Hardware, (w.addManual c state onClose).2.shown =
          (w.shown.addManual c state onClose).2 := fun _ => rfl
      rw [shows, shows, alike.hw]
    have moved := together_deviceReady (alike.onHardware added) c o.hw.devices.length
    unfold endScripted Hardware.addManual
    dsimp only
    rw [devices]
    have same : (o'.hw.addManual c state onClose).2 = { o'.hw with
        devices := o.hw.devices ++
          [{ camera := c, make := .manual onClose, stream := { state } }] } := by
      rw [← devices]
      rfl
    rw [same] at moved
    exact moved.base rfl

theorem together_resumeOpening (alike : Alike marks o o') (unmarked : marks.head? ≠ some true)
    (h : HandleId) (call : OpenerCall) :
    Together marks o (o.resumeOpening h call) (o'.resumeOpening h call) := by
  have found : o'.handles[h]? = o.handles[h]? := by rw [alike.handles]
  unfold resumeOpening
  rw [found, alike.opener]
  have stays : Together marks o o o' := alike.together rfl fun _ => unmarked
  cases o.handles[h]? with
  | none => exact stays
  | some x =>
    dsimp only
    split
    · exact together_endAttempt alike unmarked _ h x.camera _ _
    · exact together_beginAttempt alike unmarked _ h x.camera _
    · rename_i delay onClose outcomes _
      have next : Alike marks { o with opener := .scripted delay onClose outcomes.tail }
          { o' with opener := .scripted delay onClose outcomes.tail } :=
        alike.after (f := fun b => { b with opener := .scripted delay onClose outcomes.tail })
          (fun _ => rfl) fun _ => rfl
      exact (together_endScripted next unmarked h x.camera onClose _).base rfl
    · exact stays

theorem together_beginOpening (alike : Alike marks o o') (unmarked : marks.head? ≠ some true)
    (h : HandleId) (c : CameraId) : Together marks o (o.beginOpening h c) (o'.beginOpening h c) := by
  cases granted : o.granted with
  | true =>
    have granted' : o'.granted = true := alike.granted.trans granted
    have told : Alike marks (o.emit (.permissionAsked c true)) (o'.emit (.permissionAsked c true)) :=
      alike.emit rfl
    have asked : Alike marks ((o.emit (.permissionAsked c true)).emit (.openerAsked c h))
        ((o'.emit (.permissionAsked c true)).emit (.openerAsked c h)) := told.emit rfl
    cases opener : o.opener with
    | retrying p =>
      have asks : ∀ b : Broker, b.granted = true → b.opener = .retrying p → b.beginOpening h c =
          ((b.emit (.permissionAsked c true)).emit (.openerAsked c h)).beginAttempt p h c 1 := by
        intro b hb hp
        have permitted : (b.emit (.permissionAsked c true)).granted = true := hb
        have still : ((b.emit (.permissionAsked c true)).emit (.openerAsked c h)).opener =
            .retrying p := hp
        unfold beginOpening
        rw [hb]
        dsimp only
        rw [if_pos permitted, still]
      rw [asks o granted opener, asks o' granted' (alike.opener.trans opener)]
      exact (together_beginAttempt asked unmarked p h c 1).base rfl
    | scripted delay onClose outcomes =>
      have asks : ∀ b : Broker, b.granted = true → b.opener = .scripted delay onClose outcomes →
          b.beginOpening h c = (((b.emit (.permissionAsked c true)).emit (.openerAsked c h)).emit
            (.logAsked c)).setStage (.opening h (.scripted (b.now + delay))) := by
        intro b hb hp
        have permitted : (b.emit (.permissionAsked c true)).granted = true := hb
        have still : ((b.emit (.permissionAsked c true)).emit (.openerAsked c h)).opener =
            .scripted delay onClose outcomes := hp
        unfold beginOpening
        rw [hb]
        dsimp only
        rw [if_pos permitted, still]
        rfl
      rw [asks o granted opener, asks o' granted' (alike.opener.trans opener), alike.now]
      have line : Alike marks
          (((o.emit (.permissionAsked c true)).emit (.openerAsked c h)).emit (.logAsked c))
          (((o'.emit (.permissionAsked c true)).emit (.openerAsked c h)).emit (.logAsked c)) :=
        asked.emit rfl
      exact (line.setStage _).together rfl fun _ => unmarked
  | false =>
    have granted' : o'.granted = false := alike.granted.trans granted
    have told : Alike marks (o.emit (.permissionAsked c false))
        (o'.emit (.permissionAsked c false)) := alike.emit rfl
    have denies : ∀ b : Broker, b.granted = false → b.beginOpening h c =
        (b.emit (.permissionAsked c false)).giveUpOpen h .permissionDenied := by
      intro b hb
      have still : ¬(b.emit (.permissionAsked c false)).granted = true := by
        have same : (b.emit (.permissionAsked c false)).granted = b.granted := rfl
        simp [same, hb]
      unfold beginOpening
      rw [hb]
      dsimp only
      rw [if_neg still]
    rw [denies o granted, denies o' granted']
    exact (together_giveUpOpen told unmarked h .permissionDenied).base rfl

end Opening

/-! Close-alls. -/

section Superseding

/-- No marked open waits for an answer when its turn comes. -/
def Spared : List Bool → List Request → Broker → Prop
  | _, [], _ => True
  | marks, .open h share :: rs, b =>
    (marks.head? = some true → ¬b.Waits h) ∧ Spared marks.tail rs (b.supersede (.open h share))
  | marks, r :: rs, b => Spared marks rs (b.supersede r)

theorem Spared.cons {r : Request} {rs : List Request} (spared : Spared marks (r :: rs) b) :
    Spared (marks.drop (opens [r]).length) rs (b.supersede r) := by
  cases r with
  | «open» h share => exact List.drop_one ▸ spared.2
  | close i => exact spared
  | closeAll => exact spared

theorem handles_supersede (same : b'.handles = b.handles) (r : Request) :
    (b'.supersede r).handles = (b.supersede r).handles := by
  cases r with
  | «open» h share =>
    have failed : (b'.failHandle h .superseded).handles = (b.failHandle h .superseded).handles := by
      rw [handles_failHandle, handles_failHandle, same]
    exact failed
  | close i => exact same
  | closeAll => exact same

/-- Only the handles matter, and the marks that stay can be fewer. -/
theorem Spared.take {rs : List Request} (spared : Spared marks rs b)
    (same : b'.handles = b.handles) (n : Nat) : Spared (marks.take n) rs b' := by
  induction rs generalizing marks n b b' with
  | nil => trivial
  | cons r rs ih =>
    have next := handles_supersede same r
    cases r with
    | close i =>
      have later : Spared (marks.take n) rs (b'.supersede (.close i)) :=
        ih (b := b.supersede (.close i)) spared next n
      exact later
    | closeAll =>
      have later : Spared (marks.take n) rs (b'.supersede .closeAll) :=
        ih (b := b.supersede .closeAll) spared next n
      exact later
    | «open» h share =>
      have tail : (marks.take n).tail = marks.tail.take (n - 1) := by
        cases n with
        | zero => simp
        | succ n => cases marks <;> simp
      refine ⟨fun marked waits => spared.1 ?_ ?_, tail ▸ ih spared.2 next (n - 1)⟩
      · rw [List.head?_take] at marked
        split at marked
        · cases marked
        · exact marked
      · unfold Waits at waits ⊢
        rwa [same] at waits

theorem failHandle_of_not_waits (never : ¬b.Waits h) (reason : OpenFailure) :
    b.failHandle h reason = b := by
  unfold failHandle
  cases hx : b.handles[h]? with
  | none => rfl
  | some x =>
    have answered : x.state ≠ .unopened := fun waits => never ⟨x, hx, waits⟩
    simp [Handle.fail?, answered]

theorem shown_supersede_open (b : Broker) (h : HandleId) (share : Bool) :
    (b.supersede (.open h share)).shown = b.shown.failHandle h .superseded :=
  (shown_emit_hidden _ rfl).trans ((Onward.refl b).failHandle h .superseded).shown

theorem shown_supersede (r : Request) :
    ∃ f : Broker → Broker, ∀ b : Broker, (b.supersede r).shown = f b.shown := by
  cases r with
  | «open» h share => exact ⟨_, fun b => b.shown_supersede_open h share⟩
  | close i => exact ⟨_, fun b => shown_emit b rfl⟩
  | closeAll => exact ⟨_, fun b => shown_emit b rfl⟩

/-- What a close-all gives up shows the same, as long as no open that is missing still waits. -/
theorem shown_supersedeAll {before before' : List Request} (thins : Thins marks before before')
    (same : o'.shown = o.shown) (spared : Spared marks before o) :
    (before'.foldl supersede o').shown = (before.foldl supersede o).shown := by
  have both : ∀ (r : Request) {o o' : Broker}, o'.shown = o.shown →
      (o'.supersede r).shown = (o.supersede r).shown := by
    intro r o o' same
    obtain ⟨f, shows⟩ := shown_supersede r
    rw [shows, shows, same]
  induction thins generalizing o o' with
  | rest rs =>
    clear spared
    induction rs generalizing o o' with
    | nil => exact same
    | cons r rs ih => exact ih (both r same)
  | keep h share _ ih => exact ih (both _ same) spared.2
  | drop h share _ ih =>
    have never : ¬o.Waits h := spared.1 rfl
    have still : (o.supersede (.open h share)).shown = o.shown := by
      rw [shown_supersede_open, ← ((Onward.refl o).failHandle h .superseded).shown,
        failHandle_of_not_waits never]
    exact ih (same.trans still.symm) spared.2
  | @pass marks rs rs' r other _ ih =>
    have next := spared.cons
    rw [opens_other other, opens_nil, List.length_nil, List.drop_zero] at next
    exact ih (both r same) next

end Superseding

/-! A round of the rules. -/

section Rounds

/-- The oldest requests as far as a round over all of them evaluates or supersedes them. -/
def comesTo (rs : List Request) : List Request :=
  match firstClose? rs with
  | some _ => []
  | none => match lastCloseAll? rs with
    | some (before, _) => before
    | none => rs.take 1

theorem comesTo_open {h : HandleId} {share : Bool} {rs : List Request}
    (comes : comesTo rs = [.open h share]) :
    firstClose? rs = none ∧ lastCloseAll? rs = none ∧ ∃ rest, rs = .open h share :: rest := by
  unfold comesTo at comes
  cases closes : firstClose? rs with
  | some found => simp [closes] at comes
  | none =>
    cases clears : lastCloseAll? rs with
    | some parts =>
      obtain ⟨before, after⟩ := parts
      have last := (lastCloseAll?_eq_some clears).2.1
      simp only [closes, clears] at comes
      simp [comes] at last
    | none =>
      simp only [closes, clears] at comes
      cases rs with
      | nil => cases comes
      | cons r rest => exact ⟨rfl, rfl, rest, by rw [List.cons.inj comes |>.1]⟩

theorem Together.shift {n : Nat} (together : Together (marks.drop n) c' o o') {b : Broker}
    (left : (opens b.waiting).length = n + (opens c'.waiting).length) : Together marks b o o' := by
  cases together with
  | ends stage shown => exact .ends stage shown
  | goesOn m alike more inFlight =>
    rw [List.drop_drop] at alike inFlight
    exact .goesOn (n + m) alike (by rw [left, more, Nat.add_assoc]) inFlight

theorem together_place (alike : Alike marks o o') (unmarked : marks.head? ≠ some true)
    {x : Handle} (hx : o.handles[h]? = some x) (waits : x.state = .unopened) (c : CameraId) :
    Together marks o (o.place h c) (o'.place h c) := by
  unfold place
  rw [alike.activeFor?]
  cases o.activeFor? c with
  | none => exact together_beginOpening alike unmarked h c
  | some i =>
    dsimp only
    rw [alike.sessionStream?, alike.active]
    split
    · have told : Alike marks (o.emit (.replacing c)) (o'.emit (.replacing c)) := alike.emit rfl
      exact (together_closeSessions (told.setActive _) [i] .read).base rfl
    · have loop : ∀ b : Broker, (b.connectTo i h).loop = b.loop :=
        fun b => (Apart.connectTo i h b).loop
      have bound : Alike marks (o.connectTo i h) (o'.connectTo i h) :=
        alike.after (fun b => ((Onward.refl b).connectTo i h).shown) fun b => by rw [loop]
      have inbox : (o.connectTo i h).inbox = o.inbox := by
        cases hs : o.sessions[i]? with
        | none => rw [connectTo_of_none (.inl hs)]
        | some s => exact congrArg View.inbox (attaches_connectTo hs hx waits).view
      exact (together_popHead bound unmarked).base (by rw [waiting, waiting, loop, inbox])

theorem together_serveOpen (alike : Alike marks o o') (unmarked : marks.head? ≠ some true)
    (waits : o.Waits h) (share : Bool) :
    Together marks o (o.serveOpen h share) (o'.serveOpen h share) := by
  obtain ⟨x, hx, unopened⟩ := waits
  have found : o'.handles[h]? = some x := by rw [alike.handles, hx]
  have placed := together_place alike unmarked hx unopened x.camera
  have waits : ¬x.state ≠ .unopened := not_not_intro unopened
  unfold serveOpen
  simp only [hx, found, if_neg waits, alike.conflicting]
  split
  · exact placed
  · split
    · exact placed
    · rename_i others own _ _
      have told : Alike marks (o.emit (.makingRoom others.length x.camera))
          (o'.emit (.makingRoom others.length x.camera)) := alike.emit rfl
      exact (together_closeSessions (told.setActive own) others .read).base rfl

/-- What a close-all does that has these requests before it and behind it. -/
def clear (before after : List Request) (b : Broker) : Broker :=
  let b := before.foldl supersede (b.setPending after)
  ((b.emit (.superseding b.loop.active.length)).setActive []).closeSessions b.loop.active .read

theorem together_clear {before before' after after' : List Request} (alike : Alike marks o o')
    (parts : o.loop.pending = before ++ after)
    (first : Thins (marks.take (opens before).length) before before')
    (second : Thins (marks.drop (opens before).length) after after')
    (spared : Spared marks before o) :
    Together marks o (o.clear before after) (o'.clear before' after') := by
  let given := before.foldl supersede (o.setPending after)
  let given' := before'.foldl supersede (o'.setPending after')
  have left : Alike (marks.drop (opens before).length) (o.setPending after)
      (o'.setPending after') := alike.setPending second
  have same : (o.setPending after).handles = o.handles := rfl
  have few : Spared (marks.take (opens before).length) before (o.setPending after) :=
    spared.take same _
  have view : given.view = _ := (supersedeAll before (o.setPending after)).1
  have view' : given'.view = _ := (supersedeAll before' (o'.setPending after')).1
  have loop : given.loop = (o.setPending after).loop := congrArg View.loop view
  have loop' : given'.loop = (o'.setPending after').loop := congrArg View.loop view'
  have cleared : Alike (marks.drop (opens before).length) given given' := by
    refine ⟨shown_supersedeAll first left.shown few, ?_⟩
    rw [loop, loop']
    exact left.thins
  have told : Alike (marks.drop (opens before).length)
      (given.emit (.superseding given.loop.active.length))
      (given'.emit (.superseding given.loop.active.length)) := cleared.emit rfl
  have clears' : o'.clear before' after' = ((given'.emit
      (.superseding given.loop.active.length)).setActive []).closeSessions given.loop.active
        .read := by
    rw [← cleared.active]
    rfl
  rw [clears']
  refine (together_closeSessions (told.setActive []) given.loop.active .read).shift ?_
  have inbox : given.inbox = o.inbox := congrArg View.inbox view
  have waits : ((given.emit (.superseding given.loop.active.length)).setActive []).waiting =
      given.loop.pending ++ given.inbox.buffer := rfl
  rw [waits, loop, inbox, waiting, parts]
  simp [setPending, onLoop]

/-- A round does the same in both, if it comes to no missing open that waits. -/
theorem together_serve (alike : Alike marks o o') (some : o.loop.pending ≠ [])
    (fresh : ∀ h share, comesTo o.loop.pending = [.open h share] → o.Waits h)
    (spared : Spared marks (comesTo o.loop.pending) o) :
    Together marks o o.serve o'.serve := by
  unfold comesTo at fresh spared
  unfold serve
  cases closes : firstClose? o.loop.pending with
  | some found =>
    obtain ⟨i, rest⟩ := found
    obtain ⟨rest', closes', thins⟩ := alike.thins.firstClose?_some closes
    rw [closes']
    dsimp only
    rw [alike.active]
    have left : Alike marks (o.setPending rest) (o'.setPending rest') := alike.setPending thins
    have told : Alike marks ((o.setPending rest).serviced (.close i))
        ((o'.setPending rest').serviced (.close i)) := left.emit rfl
    refine (together_closeSessions (told.setActive _) [i] .read).base ?_
    have waits : ((((o.setPending rest).serviced (.close i)).setActive
        (o.loop.active.filter (· ≠ i)))).waiting = rest ++ o.inbox.buffer := rfl
    rw [waits, waiting, opens_append, opens_append, opens_of_firstClose? closes]
  | none =>
    rw [alike.thins.firstClose?_none closes]
    rw [closes] at fresh spared
    dsimp only at fresh spared ⊢
    cases clears : lastCloseAll? o.loop.pending with
    | some parts =>
      obtain ⟨before, after⟩ := parts
      obtain ⟨before', after', clears', first, second⟩ := alike.thins.lastCloseAll?_some clears
      rw [clears']
      rw [clears] at spared
      dsimp only at spared ⊢
      exact together_clear alike (lastCloseAll?_eq_some clears).1 first second spared
    | none =>
      rw [alike.thins.lastCloseAll?_none clears]
      rw [clears] at fresh spared
      dsimp only at fresh spared ⊢
      cases pending : o.loop.pending with
      | nil => exact absurd pending some
      | cons r rest =>
        rw [pending] at closes clears
        obtain ⟨h, share, rfl⟩ := exists_open_of_none closes clears
        have waits : o.Waits h := fresh h share (by rw [pending]; rfl)
        have unmarked : marks.head? ≠ .some true := by
          rw [pending] at spared
          exact fun marked => spared.1 marked waits
        obtain ⟨rest', pending', -⟩ := (pending ▸ alike.thins).head (.inr unmarked)
        rw [pending']
        exact together_serveOpen alike unmarked waits share

end Rounds

end CameraBroker.Broker
