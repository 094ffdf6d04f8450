import CameraBroker.Proofs.Attaching

/-! What a step makes of the failures of handles, together with what it tells of permissions and of
the opener. A handle fails only where the loop or the closed inbox gives it up. -/
namespace CameraBroker

def Event.isInquiry : Event → Bool
  | .permissionAsked _ _ => true
  | .openerAsked _ _ => true
  | .openGivenUp _ => true
  | _ => false

theorem Event.isInquiry_of_isDeviceLine {e : Event} (line : e.isDeviceLine = true) :
    e.isInquiry = false := by
  cases e <;> first | rfl | cases line

theorem Handle.failed_of_unopened {x : Handle} (waits : x.state = .unopened)
    (reason : OpenFailure) :
    x.failed reason = { x with state := .disconnected, failure := some reason } := by
  simp [failed, fail?, waits]

namespace View

/-- What was asked for opens, latest first. -/
def inquiries (v : View) : List Event := v.milestones.filter Event.isInquiry

/-- Beside the loop nothing is asked for. -/
theorem Background.inquiries {kept : HandleId → Prop} {v w : View} (h : Background kept v w) :
    w.inquiries = v.inquiries := by
  cases h with
  | @device d x y hx xy =>
    have none : (x.logLines y).filter Event.isInquiry = [] := by
      refine List.filter_eq_nil_iff.2 fun e he => ?_
      rcases Device.eq_of_mem_logLines he with rfl | rfl <;> exact Bool.false_ne_true
    simp [View.inquiries, none]
  | refusedOpen c => rfl
  | «open» c share room => rfl
  | close hi room => rfl
  | closeAll room => rfl
  | leave => rfl
  | beginClose hk hs gone => rfl
  | endClose hk hc => rfl

theorem Meanwhile.inquiries {kept : HandleId → Prop} {v w : View} (h : Meanwhile kept v w) :
    w.inquiries = v.inquiries := by
  induction h with
  | refl => rfl
  | tail _ move ih => exact move.inquiries.trans ih

end View

namespace Broker
variable {b b' o : Broker} {h : HandleId} {share : Bool} {x : Handle}

/-- Why the open of the handle failed, if it did. -/
def failure? (b : Broker) (h : HandleId) : Option OpenFailure := (b.handles[h]?).bind (·.failure)

/-- What was asked for opens, latest first. -/
def inquiries (b : Broker) : List Event := b.hw.history.filter Event.isInquiry

theorem view_inquiries (b : Broker) : b.view.inquiries = b.inquiries := by
  have same : b.view.milestones = b.hw.history.filter Event.isMilestone := rfl
  rw [View.inquiries, same, List.filter_filter]
  refine List.filter_congr fun e _ => ?_
  cases e <;> rfl

/-- Nothing but the handle that is opened changes, and devices are only added. -/
structure LeavesOthers (b b' : Broker) (h : HandleId) : Prop where
  handles : ∀ g : HandleId, g ≠ h → b'.handles[g]? = b.handles[g]?
  sessions : b'.sessions = b.sessions
  active : b'.loop.active = b.loop.active
  closes : b'.closes = b.closes
  devices : b.hw.devices <+: b'.hw.devices
  reader : b'.inbox.reader = b.inbox.reader

/-- The loop is done with the oldest request, an open, and gives its handle up if it still waits. -/
structure Drops (b : Broker) (h : HandleId) (reason : OpenFailure) (b' : Broker) : Prop where
  handles : b'.handles = b.handles.modify h (·.failed reason)
  others : b.LeavesOthers b' h
  served : ∃ share, b.waiting = .open h share :: b'.waiting
  stage : b'.loop.stage = .reading

structure Serving (b o : Broker) (h : HandleId) (share : Bool) : Prop where
  bonds : o.bonds = b.bonds
  active : o.loop.active = b.loop.active
  closes : o.closes = b.closes
  devices : o.hw.devices = b.hw.devices
  reader : o.inbox.reader = b.inbox.reader
  head : ∃ rest, o.loop.pending = .open h share :: rest ∧
    b.waiting = .open h share :: (rest ++ o.inbox.buffer)

inductive Inquires (b b' : Broker) : Prop where
  | none (inquiries : b'.inquiries = b.inquiries)
      (opens : ∀ h, b'.loop.stage.opens? = some h → b.loop.stage.opens? = some h)
  | one {h : HandleId} {x : Handle} (handle : b.handles[h]? = some x)
      (inquiries : b'.inquiries =
        .openerAsked x.camera h :: .permissionAsked x.camera true :: b.inquiries)
      (opens : ∀ g, b'.loop.stage.opens? = some g → g = h)

inductive Outcome (b : Broker) (a : Action) (b' : Broker) : Prop where
  | keeps (failures : ∀ h, b'.failure? h = b.failure? h)
      (inquires : b.Inquires b')
      (serviced : ∃ rs, b'.servicedRequests = b.servicedRequests ++ rs ∧ .closeAll ∉ rs)
  | clears {before after : List Request} (last : lastCloseAll? b.waiting = some (before, after))
      (handles : ∀ h : HandleId, b'.handles[h]? = (b.handles[h]?).map fun x =>
        if h ∈ before.filterMap Request.handle? then x.failed .superseded else x)
      (inquiries : b'.inquiries = b.inquiries) (opens : b'.loop.stage.opens? = none)
      (serviced : b'.servicedRequests = b.servicedRequests ++ before)
  | denies {h : HandleId} {share : Bool} {x : Handle} (turn : a = .turn .loop)
      (evaluates : b.Evaluates h share x) (waits : x.state = .unopened)
      (free : b.activeFor? x.camera = none) (alone : share = false → b.loop.active = [])
      (refused : b.granted = false) (drops : b.Drops h .permissionDenied b')
      (inquiries : b'.inquiries = .permissionAsked x.camera false :: b.inquiries)
      (serviced : b'.servicedRequests = b.servicedRequests ++ [.open h share])
  | refuses {h : HandleId} {share : Bool} {x : Handle} {rest : List Event}
      (handle : b.handles[h]? = some x) (drops : b.Drops h .openFailed b')
      (inquiries : b'.inquiries = .openGivenUp x.camera :: .openerAsked x.camera h ::
        .permissionAsked x.camera true :: rest)
      (before : b.inquiries = rest ∨
        b.inquiries = .openerAsked x.camera h :: .permissionAsked x.camera true :: rest)
      (serviced : b'.servicedRequests = b.servicedRequests ++ [.open h share])
  | stops {c : CameraId} {share : Bool} (asked : a = .open c share) (client : b.hasClient = true)
      (closed : b.inbox.offer (.open b.handles.length share) = .error .closed)
      (handles : b'.handles = b.handles ++
        [{ camera := c, state := .disconnected, failure := some .brokerStopped }])
      (view : b'.view = b.view.addHandle c)

/-- Every call of the opener comes right after a permission that was granted. Latest first. -/
def Permitted (events : List Event) : Prop :=
  ∀ more c h less, events = more ++ .openerAsked c h :: less →
    ∃ rest, less = .permissionAsked c true :: rest

/-- While a call of the opener goes on, it is the last thing that was asked for; and the opener is
never asked unless permission was granted just before. -/
structure Inquiring (b : Broker) : Prop where
  opening : ∀ h, b.loop.stage.opens? = some h → ∃ c rest, b.view.wanted[h]? = some c ∧
    b.inquiries = .openerAsked c h :: .permissionAsked c true :: rest
  permitted : Permitted b.inquiries

section History

theorem inquiries_of_told {new : List Event}
    (told : b'.view.milestones = new ++ b.view.milestones) :
    b'.inquiries = new.filter Event.isInquiry ++ b.inquiries := by
  rw [← view_inquiries, ← view_inquiries, View.inquiries, told, List.filter_append]
  rfl

theorem servicedRequests_of_told {new : List Event}
    (told : b'.view.milestones = new ++ b.view.milestones) :
    b'.servicedRequests = b.servicedRequests ++ (new.filterMap Event.serviced?).reverse := by
  rw [← view_servicedRequests, ← view_servicedRequests, View.serviced, told, List.filterMap_append,
    List.reverse_append]
  rfl

/-- A step that tells of no inquiry and of no close-all, and after which no call goes on. -/
theorem Outcome.silent {a : Action} (new : List Event)
    (failures : ∀ h, b'.failure? h = b.failure? h)
    (told : b'.view.milestones = new ++ b.view.milestones)
    (quiet : ∀ e ∈ new, e.isInquiry = false) (kept : .serviced .closeAll ∉ new)
    (opens : ∀ h, b'.loop.stage.opens? = some h → b.loop.stage.opens? = some h) :
    Outcome b a b' := by
  refine .keeps failures (.none ?_ opens) ⟨_, servicedRequests_of_told told, ?_⟩
  · have none : new.filter Event.isInquiry = [] :=
      List.filter_eq_nil_iff.2 fun e he => by simp [quiet e he]
    rw [inquiries_of_told told, none]
    rfl
  · rw [List.mem_reverse, List.mem_filterMap]
    rintro ⟨e, he, serviced⟩
    cases e <;> cases serviced
    exact kept he

end History

section GivingUp

theorem failure?_of_handles (handles : b'.handles = b.handles) (h : HandleId) :
    b'.failure? h = b.failure? h := by
  rw [failure?, failure?, handles]

namespace Serving

theorem of_view {o' : Broker} (serving : b.Serving o h share) (same : o'.bonds = o.bonds)
    (view : o'.view = o.view) : b.Serving o' h share := by
  have loop : o'.loop = o.loop := congrArg View.loop view
  have inbox : o'.inbox = o.inbox := congrArg View.inbox view
  refine ⟨same.trans serving.bonds, ?_, (congrArg View.closes view).trans serving.closes,
    (congrArg View.devices view).trans serving.devices, ?_, ?_⟩
  · rw [loop, serving.active]
  · rw [inbox, serving.reader]
  · rw [loop, inbox]
    exact serving.head

theorem emit (serving : b.Serving o h share) (e : Event) : b.Serving (o.emit e) h share :=
  ⟨serving.bonds, serving.active, serving.closes, serving.devices, serving.reader, serving.head⟩

theorem takeIn (evaluates : b.Evaluates h share x) : b.Serving b.takeIn h share := by
  obtain ⟨rest, head⟩ := evaluates.head
  refine ⟨rfl, rfl, rfl, rfl, rfl, rest, head, ?_⟩
  rw [head]
  exact congrArg _ (List.append_nil _).symm

theorem opening (hs : b.view.Sound) (opens : b.loop.stage.opens? = some h) :
    ∃ share, b.Serving b h share := by
  obtain ⟨c, ho⟩ := hs.opening h opens
  obtain ⟨share, rest, pending, -⟩ := ho.head
  have pending : b.loop.pending = .open h share :: rest := pending
  exact ⟨share, rfl, rfl, rfl, rfl, rfl, rest, pending, by rw [waiting, pending]; rfl⟩

/-- The request that is served is done with when its handle is given up. -/
theorem view_giveUpOpen (serving : b.Serving o h share) (reason : OpenFailure) :
    ∃ rest, b.waiting = .open h share :: (rest ++ o.inbox.buffer) ∧
      (o.giveUpOpen h reason).view =
        ((o.view.setPending rest).note (.serviced (.open h share))).setStage .reading := by
  obtain ⟨rest, pending, waiting⟩ := serving.head
  have head : o.view.loop.pending = .open h share :: rest := pending
  exact ⟨rest, waiting, by rw [Broker.view_giveUpOpen, View.popHead, head]⟩

theorem told (serving : b.Serving o h share) (reason : OpenFailure) :
    (o.giveUpOpen h reason).view.milestones = .serviced (.open h share) :: o.view.milestones := by
  obtain ⟨rest, -, view⟩ := serving.view_giveUpOpen reason
  exact congrArg View.milestones view

/-- The open that the loop gives up is dropped, and nothing else happens. -/
theorem drops (serving : b.Serving o h share) (reason : OpenFailure) :
    b.Drops h reason (o.giveUpOpen h reason) := by
  obtain ⟨rest, waiting, view⟩ := serving.view_giveUpOpen reason
  have old : o.handles = b.handles := congrArg Prod.fst serving.bonds
  have handles : (o.giveUpOpen h reason).handles = b.handles.modify h (·.failed reason) := by
    rw [handles_giveUpOpen, old]
  refine ⟨handles, ⟨fun g hg => ?_, ?_, ?_, ?_, ?_, ?_⟩, ⟨share, ?_⟩, congrArg (·.loop.stage) view⟩
  · rw [handles, List.getElem?_modify_ne _ _ hg.symm]
  · exact (sessions_giveUpOpen h reason o).trans (congrArg Prod.snd serving.bonds)
  · exact (congrArg (·.loop.active) view).trans serving.active
  · exact (congrArg View.closes view).trans serving.closes
  · have still : (o.giveUpOpen h reason).hw.devices = o.hw.devices := congrArg View.devices view
    exact (still.trans serving.devices) ▸ List.prefix_refl _
  · exact (congrArg (·.inbox.reader) view).trans serving.reader
  · rw [← view_waiting (o.giveUpOpen h reason), view, waiting]
    rfl

end Serving

/-- While the opener's call goes on, everything else stays as it is. -/
theorem Serving.leavesOthers (serving : b.Serving o h share) {call : OpenerCall}
    {more : List Device}
    (same : b'.bonds = o.bonds)
    (view : b'.view = (o.view.setDevices (o.view.devices ++ more)).setStage (.opening h call)) :
    b'.handles = b.handles ∧ b.LeavesOthers b' h ∧ b'.waiting = b.waiting := by
  have handles : b'.handles = b.handles := congrArg Prod.fst (same.trans serving.bonds)
  refine ⟨handles, ⟨fun g _ => by rw [handles], ?_, ?_, ?_, ?_, ?_⟩, ?_⟩
  · exact congrArg Prod.snd (same.trans serving.bonds)
  · exact (congrArg (·.loop.active) view).trans serving.active
  · exact (congrArg View.closes view).trans serving.closes
  · have devices : b'.hw.devices = o.hw.devices ++ more := congrArg View.devices view
    rw [devices, serving.devices]
    exact List.prefix_append _ _
  · exact (congrArg (·.inbox.reader) view).trans serving.reader
  · obtain ⟨rest, pending, waiting⟩ := serving.head
    have still : b'.waiting = o.waiting := congrArg View.waiting view
    rw [still, Broker.waiting, pending, waiting]
    rfl

/-- What the opener's reply makes of the handle that it was asked for. -/
theorem Outcome.replies {a : Action} (serving : b.Serving o h share)
    (handle : b.handles[h]? = some x) (unserved : o.servicedRequests = b.servicedRequests)
    {rest : List Event}
    (asked : o.inquiries = .openerAsked x.camera h :: .permissionAsked x.camera true :: rest)
    (before : b.inquiries = rest ∨ b.inquiries = o.inquiries)
    (inquires : ∀ o' : Broker, o'.inquiries = o.inquiries →
      (∀ g, o'.loop.stage.opens? = some g → g = h) → b.Inquires o')
    (replies : o.Replies h x.camera b') : Outcome b a b' := by
  have old : o.handles = b.handles := congrArg Prod.fst serving.bonds
  cases replies with
  | @refuses o' same view gaveUp =>
    have given := (serving.of_view same view).emit (.openGivenUp x.camera)
    have told : b'.view.milestones =
        [.serviced (.open h share), .openGivenUp x.camera] ++ o.view.milestones := by
      have noted : (o'.emit (.openGivenUp x.camera)).view =
          o.view.note (.openGivenUp x.camera) := by
        rw [view_emit, view]
        rfl
      rw [gaveUp]
      refine (given.told .openFailed).trans ?_
      rw [noted]
      rfl
    have drops : b.Drops h .openFailed b' := by
      rw [gaveUp]
      exact given.drops .openFailed
    have serviced : b'.servicedRequests = b.servicedRequests ++ [.open h share] := by
      rw [servicedRequests_of_told told, unserved]
      rfl
    refine .refuses handle drops ?_ (asked ▸ before) serviced
    rw [inquiries_of_told told, asked]
    rfl
  | goesOn call more same view =>
    have handles : b'.handles = b.handles := (congrArg Prod.fst same).trans old
    have told : b'.view.milestones = [] ++ o.view.milestones := by
      rw [view]
      rfl
    have stage : b'.loop.stage = .opening h call := congrArg (·.loop.stage) view
    refine .keeps (failure?_of_handles handles)
      (inquires b' (inquiries_of_told told) fun g hg => ?_) ⟨[], ?_, List.not_mem_nil⟩
    · rw [stage] at hg
      exact (Option.some.inj hg).symm
    · rw [servicedRequests_of_told told, unserved]
      rfl
  | ends lines handles told isLine stage =>
    have noInquiry : lines.filter Event.isInquiry = [] :=
      List.filter_eq_nil_iff.2 fun e he => by simp [Event.isInquiry_of_isDeviceLine (isLine e he)]
    have noneServed : lines.filterMap Event.serviced? = [] := by
      refine List.filterMap_eq_nil_iff.2 fun e he => ?_
      have line := isLine e he
      cases e <;> first | rfl | cases line
    refine .keeps (failure?_of_handles (handles.trans old)) (inquires b' ?_ fun g hg => ?_)
      ⟨[], ?_, List.not_mem_nil⟩
    · rw [inquiries_of_told told, noInquiry]
      rfl
    · cases stage.symm.trans hg
    · rw [servicedRequests_of_told told, noneServed, unserved]
      rfl

/-- Handles that change keep the reason of their failure. -/
theorem failure?_of_map {f : HandleId → Handle → Handle}
    (handles : ∀ g : HandleId, b'.handles[g]? = (b.handles[g]?).map (f g))
    (same : ∀ g y, (f g y).failure = y.failure) (g : HandleId) : b'.failure? g = b.failure? g := by
  rw [failure?, failure?, handles]
  cases b.handles[g]? with
  | none => rfl
  | some y => exact same g y

theorem failure?_letGo (current : Option HandleId) (b : Broker) (g : HandleId) :
    (b.letGo current).failure? g = b.failure? g := by
  refine failure?_of_map (b.getElem?_handles_letGo current) (fun g y => ?_) g
  split
  · exact y.failure_moveTo _
  · rfl

/-- Attaching a handle fails none. -/
theorem failure?_connectTo {i : SessionId} {s : Session} (session : b.sessions[i]? = some s)
    (hx : b.handles[h]? = some x) (waits : x.state = .unopened) (g : HandleId) :
    (b.connectTo i h).failure? g = b.failure? g := by
  obtain ⟨token, bound, takes, kept⟩ := connectTo_bonds session hx waits
  have handles : (b.connectTo i h).handles = (bound.letGo s.current).handles :=
    congrArg Prod.fst kept
  rw [failure?_of_handles handles, failure?_letGo]
  obtain ⟨hh, rfl⟩ := List.getElem?_eq_some_iff.1 hx
  by_cases hg : h = g
  · subst hg
    simp [failure?, takes.handles, hh]
  · simp [failure?, takes.handles, hg]

/-- The loop closes sessions first, and no handle hears of it. -/
theorem Outcome.closing {a : Action} {e : Event} (silent : e.isMilestone = false)
    (active sessions : List SessionId) :
    Outcome b a (((b.takeIn.emit e).setActive active).closeSessions sessions .read) := by
  obtain ⟨left, -, view⟩ := view_closeSessions active sessions .read (b.takeIn.emit e)
  let closed := ((b.takeIn.emit e).setActive active).closeSessions sessions .read
  have handles : closed.handles = b.handles := handles_closeSessions _ _ _
  refine .silent [] (failure?_of_handles handles) ?_ nofun List.not_mem_nil fun g hg => ?_
  · have noted : (b.takeIn.emit e).view = b.view.take b.waiting := by
      rw [view_emit, silent, view_takeIn]
      rfl
    rw [view, noted]
    rfl
  · cases (opens?_closeSessions sessions .read _).symm.trans hg

/-- What becomes of failures when an open is evaluated. -/
theorem Outcome.evaluation (hr : Reachable b) (evaluates : b.Evaluates h share x)
    (evaluation : b.Evaluation h share x b') : Outcome b (.turn .loop) b' := by
  cases evaluation with
  | stale answered =>
    have view : (((b.takeIn.emit (.stale h x.camera)).popHead).setStage .reading).view.milestones =
        [.serviced (.open h share), .stale h x.camera] ++ b.view.milestones := by
      obtain ⟨rest, head⟩ := evaluates.head
      rw [view_setStage, view_popHead, view_emit, view_takeIn, head]
      rfl
    refine .silent _ (failure?_of_handles (handles_popHead _)) view ?_ (by simp) nofun
    simp [Event.isInquiry]
  | makeRoom waits exclusive conflict some => exact .closing rfl _ _
  | replace waits active => exact .closing rfl _ _
  | @attach waits alone i active up =>
    obtain ⟨-, s, session, -⟩ := session_of_activeFor? active
    obtain ⟨s', joins⟩ := joins_of_attach hr evaluates waits alone active up
    refine .silent [.serviced (.open h share), .attached h x.camera i] (fun g => ?_)
      joins.told (by simp [Event.isInquiry]) (by simp) nofun
    exact (failure?_of_handles (handles_popHead _) g).trans
      (failure?_connectTo (b := b.takeIn) session evaluates.handle waits g)
  | deny waits alone none refused =>
    have serving := (Serving.takeIn evaluates).emit (.permissionAsked x.camera false)
    have told : ((b.takeIn.emit (.permissionAsked x.camera false)).giveUpOpen h
        .permissionDenied).view.milestones =
        [.serviced (.open h share), .permissionAsked x.camera false] ++ b.view.milestones := by
      refine (serving.told .permissionDenied).trans ?_
      rw [view_emit, view_takeIn]
      rfl
    exact .denies rfl evaluates waits none
      (fun exclusive => active_eq_nil hr.sound none (alone exclusive)) refused
      (serving.drops .permissionDenied) (inquiries_of_told told) (servicedRequests_of_told told)
  | ask waits alone none granted replies =>
    have serving := ((Serving.takeIn evaluates).emit (.permissionAsked x.camera true)).emit
      (.openerAsked x.camera h)
    have told : ((b.takeIn.emit (.permissionAsked x.camera true)).emit
        (.openerAsked x.camera h)).view.milestones =
        [.openerAsked x.camera h, .permissionAsked x.camera true] ++ b.view.milestones := by
      rw [view_emit, view_emit, view_takeIn]
      rfl
    have asked := inquiries_of_told told
    refine .replies serving evaluates.handle ?_ asked (.inl rfl) (fun o' same opens => ?_) replies
    · rw [servicedRequests_of_told told]
      exact List.append_nil _
    · exact .one evaluates.handle (same.trans asked) opens

end GivingUp

/-! A turn of the loop. -/

theorem serviced_of_mem_map {e : Event} {rs : List Request}
    (he : e ∈ (rs.map Event.serviced).reverse) : ∃ r ∈ rs, .serviced r = e := by
  simpa using he

theorem Outcome.course (hr : Reachable b) (asking : b.Inquiring) (course : b.Course b') :
    Outcome b (.turn .loop) b' := by
  cases course with
  | rests new handles told closes opens =>
    refine .silent new (failure?_of_handles handles) told (fun e he => ?_) (fun mem => ?_)
      fun g hg => ?_
    · obtain ⟨i, rfl⟩ := closes e he
      rfl
    · obtain ⟨i, same⟩ := closes _ mem
      cases same
    · cases opens.symm.trans hg
  | @clears before after last handles told opens =>
    have none : ((before.map Event.serviced).reverse).filter Event.isInquiry = [] := by
      refine List.filter_eq_nil_iff.2 fun e he => ?_
      obtain ⟨r, -, rfl⟩ := serviced_of_mem_map he
      exact Bool.false_ne_true
    have all : (((before.map Event.serviced).reverse).filterMap Event.serviced?).reverse =
        before := by
      rw [List.filterMap_reverse, List.reverse_reverse, List.filterMap_map]
      exact List.filterMap_some
    refine .clears last handles ?_ opens ?_
    · rw [inquiries_of_told told, none]
      rfl
    · rw [servicedRequests_of_told told, all]
  | evaluates evaluates evaluation => exact .evaluation hr evaluates evaluation
  | @replies h call x stage hx replies =>
    have opens : b.loop.stage.opens? = some h := congrArg LoopStage.opens? stage
    obtain ⟨share, serving⟩ := Serving.opening hr.sound opens
    obtain ⟨c, rest, wanted, asked⟩ := asking.opening h opens
    -- The call that goes on is for the camera that the handle wants.
    have camera : c = x.camera := by simpa [view, hx] using wanted.symm
    subst camera
    exact .replies serving hx rfl asked (.inr rfl)
      (fun o' same still => .none same fun g hg => still g hg ▸ opens) replies

/-- A turn that leaves a call of the opener under way changes nothing else. -/
theorem Course.leavesOthers (hs : b.view.Sound) (course : b.Course b')
    (opens : b'.loop.stage.opens? = some h) :
    b'.handles = b.handles ∧ b.LeavesOthers b' h ∧ b'.waiting = b.waiting := by
  have replied : ∀ {o : Broker} {g : HandleId} {share : Bool} {c : CameraId},
      b.Serving o g share → o.Replies g c b' →
        b'.handles = b.handles ∧ b.LeavesOthers b' h ∧ b'.waiting = b.waiting := by
    intro o g share c serving replies
    cases replies with
    | @refuses o' same view gaveUp =>
      have idle : b'.loop.stage = .reading := congrArg (·.loop.stage) gaveUp
      cases (congrArg LoopStage.opens? idle).symm.trans opens
    | goesOn call more same view =>
      have stage : b'.loop.stage = .opening g call := congrArg (·.loop.stage) view
      obtain rfl : g = h :=
        Option.some.inj ((congrArg LoopStage.opens? stage).symm.trans opens)
      exact serving.leavesOthers same view
    | ends new handles told lines none => cases none.symm.trans opens
  cases course with
  | rests new handles told closes none => cases none.symm.trans opens
  | clears last handles told none => cases none.symm.trans opens
  | replies stage hx replies =>
    obtain ⟨share, serving⟩ := Serving.opening hs (congrArg LoopStage.opens? stage)
    exact replied serving replies
  | evaluates evaluates evaluation =>
    cases evaluation with
    | stale answered => cases opens
    | makeRoom waits exclusive conflict some =>
      cases (opens?_closeSessions _ _ _).symm.trans opens
    | replace waits active => cases (opens?_closeSessions _ _ _).symm.trans opens
    | attach waits alone active up => cases opens
    | deny waits alone none refused => cases opens
    | ask waits alone none granted replies =>
      exact replied (((Serving.takeIn evaluates).emit _).emit _) replies

/-! Beside the loop. -/

theorem failure?_observe (g h : HandleId) (b : Broker) :
    (b.observe g).failure? h = b.failure? h := by
  rcases b.handles_observe g with same | ⟨x, k, st, hx, -, -, observed⟩
  · exact failure?_of_handles same h
  · obtain ⟨hg, rfl⟩ := List.getElem?_eq_some_iff.1 hx
    by_cases hgh : g = h
    · subst hgh
      simp [failure?, observed, hg, Handle.failure_observe]
    · simp [failure?, observed, hgh]

theorem failure?_resumeClose (k : Nat) (h : HandleId) (b : Broker) :
    (b.resumeClose k).failure? h = b.failure? h := by
  have began : ∀ i, (b.beginClose i).2.failure? h = b.failure? h := by
    intro i
    cases hs : b.sessions[i]? with
    | none =>
      have nothing : b.beginClose i = (false, b) := by simp [beginClose, hs]
      rw [nothing]
    | some s =>
      obtain ⟨shutting, handles, -, same⟩ := beginClose_bonds hs
      have left : (b.beginClose i).2.handles = (shutting.letGo s.current).handles :=
        congrArg Prod.fst same
      rw [failure?_of_handles left, failure?_letGo, failure?_of_handles handles]
  unfold resumeClose
  split
  · rfl
  · rename_i c hk
    obtain ⟨i, stage⟩ := c
    have same := began i
    cases stage with
    | fresh =>
      cases begun : b.beginClose i with
      | mk started after =>
        rw [begun] at same
        cases started <;> exact same
    | awaiting => rfl
    | done => rfl

/-- Only an open that is refused for good fails a handle beside the loop. -/
theorem failure?_beside {a : Action} (turn : a ≠ .turn .loop) (asks : ∀ c share, a ≠ .open c share)
    (h : HandleId) : (b.step a).failure? h = b.failure? h := by
  have kept : ∀ {o : Broker}, o.handles = b.handles → o.failure? h = b.failure? h :=
    fun handles => failure?_of_handles handles h
  cases a with
  | turn t =>
    simp only [step]
    split
    · cases t with
      | loop => exact absurd rfl turn
      | release d => exact kept rfl
      | observe g => exact failure?_observe g h b
      | listen i => exact kept (b.handles_listen i)
      | close k => exact failure?_resumeClose k h b
      | countdown i g => exact kept (b.handles_wakeCountdown i g)
    · rfl
  | «open» c share => exact absurd rfl (asks c share)
  | disconnect g => exact failure?_letGo (some g) b h
  | forget g =>
    refine failure?_of_map
      (f := fun i x => if g = i then { x with clients := x.clients - 1 } else x)
      (fun i => ?_) (fun i x => ?_) h
    · have forgotten : (b.step (.forget g)).handles =
          b.handles.modify g fun x => { x with clients := x.clients - 1 } := rfl
      rw [forgotten, List.getElem?_modify]
      by_cases hgi : g = i <;> simp [hgi]
    · split <;> rfl
  | closeAll =>
    simp only [step, requestCloseAll]
    split
    · split
      · rename_i o offered
        exact kept (congrArg Prod.fst (bonds_offer offered))
      · rfl
      · exact kept rfl
    · rfl
  | shutdown =>
    simp only [step, beginShutdown, offerOrLeave]
    split
    · split
      · rename_i o offered
        have left : o.leave.handles = b.handles := congrArg Prod.fst (bonds_offer offered)
        exact kept left
      · exact kept rfl
    · rfl
  | leave =>
    simp only [step]
    split <;> exact kept rfl
  | join =>
    simp only [step, endShutdown]
    split
    · split <;> exact kept rfl
    · rfl
  | grant =>
    simp only [step, Broker.grant]
    split <;> exact kept rfl
  | revoke =>
    simp only [step, Broker.revoke]
    split <;> exact kept rfl
  | unplug c => exact kept rfl
  | addCamera c => exact kept rfl
  | failNext c n => exact kept rfl
  | setLatency o c => exact kept rfl
  | publish d state => exact kept (congrArg Prod.fst (b.bonds_onManual d _))
  | dropPublisher d => exact kept (congrArg Prod.fst (b.bonds_onManual d _))
  | script delay onClose outcomes =>
    simp only [step, rescript]
    split <;> exact kept rfl
  | elapse ms => exact kept rfl

/-- The handle that is added has its own failure, if it has one. -/
theorem failure?_of_concat {y : Handle} (handles : b'.handles = b.handles ++ [y]) (h : HandleId) :
    b'.failure? h = if h = b.handles.length then y.failure else b.failure? h := by
  rw [failure?, failure?, handles]
  rcases Nat.lt_trichotomy h b.handles.length with old | rfl | out
  · rw [List.getElem?_append_left old, if_neg (Nat.ne_of_lt old)]
  · simp
  · have length : (b.handles ++ [y]).length ≤ h := by
      rw [List.length_append]
      exact out
    rw [List.getElem?_eq_none length, List.getElem?_eq_none (Nat.le_of_lt out),
      if_neg (Nat.ne_of_gt out)]

/-- Beside the loop nothing is asked for and nothing is done with. -/
theorem Outcome.beside (hr : Reachable b) {a : Action} (turn : a ≠ .turn .loop)
    (failures : ∀ h, (b.step a).failure? h = b.failure? h) : Outcome b a (b.step a) := by
  have beside := (beside_step hr.sound.devicesFit turn).view
  have loop : (b.step a).loop = b.loop := (View.Aside.of_meanwhile beside).loop
  refine .keeps failures (.none ?_ fun h hh => loop ▸ hh) ⟨[], ?_, List.not_mem_nil⟩
  · rw [← view_inquiries, beside.inquiries, view_inquiries]
  · rw [← view_servicedRequests, beside.serviced, view_servicedRequests, List.append_nil]

/-- An open that is refused for good makes a handle that has failed. -/
theorem requestOpen_of_closed {c : CameraId} {share : Bool} (client : b.hasClient = true)
    (closed : b.inbox.offer (.open b.handles.length share) = .error .closed) :
    (b.step (.open c share)).handles = b.handles ++
        [{ camera := c, state := .disconnected, failure := some .brokerStopped }] ∧
      (b.step (.open c share)).view = b.view.addHandle c ∧
      (b.step (.open c share)).sessions = b.sessions := by
  let told := (b.createHandle c).emit .requestDropped
  have offered : (b.createHandle c).offer (.open b.handles.length share) = .error .closed := by
    have same : (b.createHandle c).inbox = b.inbox := rfl
    rw [offer, same, closed]
    rfl
  have dropped : b.step (.open c share) = told.failHandle b.handles.length .brokerStopped := by
    simp only [step, if_pos client, Broker.requestOpen, offered, orUnchanged]
    rfl
  have created : told.handles = b.handles ++ [({ camera := c } : Handle)] := rfl
  rw [dropped]
  refine ⟨by simp [failHandle, Handle.fail?, setHandle, emit, created], ?_,
    sessions_failHandle told _ _⟩
  rw [view_failHandle, view_emit]
  simp [Broker.view, createHandle, View.addHandle, Event.isMilestone]

/-- An open that the inbox takes waits; one that it refuses for good has failed. -/
theorem Outcome.requestOpen (hr : Reachable b) (c : CameraId) (share : Bool) :
    Outcome b (.open c share) (b.step (.open c share)) := by
  have stays : b.step (.open c share) = b → Outcome b (.open c share) (b.step (.open c share)) :=
    fun same => .beside hr nofun fun h => by rw [same]
  by_cases client : b.hasClient = true
  · cases taken : b.inbox.offer (.open b.handles.length share) with
    | ok inbox =>
      have handles : (b.step (.open c share)).handles = b.handles ++ [{ camera := c }] := by
        have same : (b.createHandle c).inbox = b.inbox := rfl
        simp only [step, if_pos client, Broker.requestOpen, offer, same, taken, Except.map,
          orUnchanged]
        rfl
      refine .beside hr nofun fun h => ?_
      rw [failure?_of_concat handles]
      split
      · rename_i new
        rw [failure?, List.getElem?_eq_none (Nat.le_of_eq new.symm)]
        rfl
      · rfl
    | error e =>
      cases e with
      | full =>
        have same : (b.createHandle c).inbox = b.inbox := rfl
        refine stays ?_
        simp only [step, if_pos client, Broker.requestOpen, offer, same, taken, Except.map,
          orUnchanged]
      | closed =>
        obtain ⟨handles, view, -⟩ := requestOpen_of_closed client taken
        exact .stops rfl client taken handles view
  · exact stays (if_neg client)

theorem Permitted.cons {events : List Event} (permitted : Permitted events) {e : Event}
    (other : ∀ c h, e ≠ .openerAsked c h) : Permitted (e :: events) := by
  intro more c h less split
  cases more with
  | nil => exact absurd (List.cons.inj split).1 (other c h)
  | cons e' more => exact permitted more c h less (List.cons.inj split).2

theorem Permitted.ask {events : List Event} (permitted : Permitted events) (c : CameraId)
    (h : HandleId) : Permitted (.openerAsked c h :: .permissionAsked c true :: events) := by
  intro more c' g less split
  cases more with
  | nil =>
    cases split
    exact ⟨events, rfl⟩
  | cons e more =>
    have granted : Permitted (.permissionAsked c true :: events) := permitted.cons (by simp)
    exact granted more c' g less (List.cons.inj split).2

/-- A step keeps the record of inquiries in order. -/
theorem Outcome.inquiring (hr : Reachable b) (asking : b.Inquiring) {a : Action}
    (outcome : Outcome b a (b.step a)) : (b.step a).Inquiring := by
  have idle : (b.step a).loop.stage.opens? = none → ∀ h, (b.step a).loop.stage.opens? = some h →
      ∃ c rest, (b.step a).view.wanted[h]? = some c ∧
        (b.step a).inquiries = .openerAsked c h :: .permissionAsked c true :: rest :=
    fun none h hh => by cases none.symm.trans hh
  have kept : (b.step a).inquiries = b.inquiries →
      (∀ h, (b.step a).loop.stage.opens? = some h → b.loop.stage.opens? = some h) →
        (b.step a).Inquiring := by
    intro same opens
    refine ⟨fun h hh => ?_, same ▸ asking.permitted⟩
    obtain ⟨c, rest, wanted, asked⟩ := asking.opening h (opens h hh)
    exact ⟨c, rest, hr.wanted_step wanted a, same.trans asked⟩
  cases outcome with
  | keeps failures inquires serviced =>
    cases inquires with
    | none same opens => exact kept same opens
    | @one h x handle asked opens =>
      refine ⟨fun g hg => ?_, asked ▸ asking.permitted.ask x.camera h⟩
      obtain rfl := opens g hg
      have wanted : b.view.wanted[g]? = some x.camera := by simp [view, handle]
      exact ⟨x.camera, b.inquiries, hr.wanted_step wanted a, asked⟩
  | clears last handles same opens serviced => exact ⟨idle opens, same ▸ asking.permitted⟩
  | denies turn evaluates waits free alone refused drops asked serviced =>
    exact ⟨idle (congrArg LoopStage.opens? drops.stage), asked ▸ asking.permitted.cons (by simp)⟩
  | @refuses h share x rest handle drops asked before serviced =>
    refine ⟨idle (congrArg LoopStage.opens? drops.stage), asked ▸ Permitted.cons ?_ (by simp)⟩
    rcases before with old | old
    · exact (old ▸ asking.permitted).ask x.camera h
    · exact old ▸ asking.permitted
  | stops asked client closed handles view =>
    refine kept ?_ fun h hh => ?_
    · rw [← view_inquiries, ← view_inquiries, view]
      rfl
    · have loop : (b.step a).loop = b.loop := congrArg View.loop view
      exact loop ▸ hh

theorem outcome_step (hr : Reachable b) (asking : b.Inquiring) (a : Action) :
    Outcome b a (b.step a) := by
  by_cases turn : a = .turn .loop
  · subst turn
    rcases loop_turn hr.sound with stays | ⟨turns, -⟩
    · rw [stays]
      exact .silent [] (fun _ => rfl) rfl nofun List.not_mem_nil fun _ => id
    · rw [turns]
      exact .course hr asking (course_resumeLoop hr.sound)
  · by_cases asks : ∃ c share, a = .open c share
    · obtain ⟨c, share, rfl⟩ := asks
      exact .requestOpen hr c share
    · exact .beside hr turn (failure?_beside turn fun c share same => asks ⟨c, share, same⟩)

theorem Reachable.inquiring (hr : Reachable b) : b.Inquiring := by
  refine hr.invariant (P := Inquiring) (fun s => ?_) fun b a hb asking =>
    (outcome_step hb asking a).inquiring hb asking
  have nothing : s.broker.inquiries = [] := by
    rw [← view_inquiries, view_start]
    rfl
  refine ⟨fun h hh => (nomatch hh), fun more c h less split => ?_⟩
  rw [nothing] at split
  cases more <;> cases split

/-- What a step makes of failures. -/
theorem Reachable.outcome (hr : Reachable b) (a : Action) : Outcome b a (b.step a) :=
  outcome_step hr hr.inquiring a

end Broker

end CameraBroker
