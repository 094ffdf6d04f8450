import CameraBroker.Event

/-! The bounded inbox of the request loop: first in, first out, at most eight buffered. It
ends when its reader goes or when no producer is left. -/
namespace CameraBroker

/-- How many requests the inbox buffers. -/
def inboxDepth : Nat := 8

/-- The reading end: taking requests, refusing new ones, or gone with its buffer. -/
inductive ReadingEnd where
  | «open»
  | closed
  | gone
deriving DecidableEq, Repr

structure Inbox (α : Type) where
  buffer : List α := []
  producers : Nat := 1
  reader : ReadingEnd := .open
deriving DecidableEq, Repr

inductive Refusal where
  | full
  | closed
deriving DecidableEq, Repr

namespace Refusal

def name : Refusal → String
  | .full => "Full"
  | .closed => "Closed"

def message : Refusal → String
  | .full => "more than " ++ toString inboxDepth ++ " camera requests are buffered"
  | .closed => "camera request loop has stopped"

/-- The failure of a producer that had no right to find the inbox full. -/
def overflow : String :=
  "there are more than " ++ toString inboxDepth ++ " camera requests buffered"

end Refusal

/-- What a reader gets that does not wait. -/
inductive Receipt (α : Type) where
  | item (value : α)
  | empty
  | disconnected
deriving DecidableEq, Repr

namespace Inbox
variable {α : Type}

/-- Buffers `a` unless the reader has left, which counts first, or every slot is taken. -/
def offer (i : Inbox α) (a : α) : Except Refusal (Inbox α) :=
  if i.reader ≠ .open then .error .closed
  else if inboxDepth ≤ i.buffer.length then .error .full
  else .ok { i with buffer := i.buffer ++ [a] }

/-- Takes the oldest request. An inbox without one is over once nobody can add another. -/
def receive (i : Inbox α) : Receipt α × Inbox α :=
  match i.buffer with
  | a :: rest => (.item a, { i with buffer := rest })
  | [] => (if i.reader ≠ .open ∨ i.producers = 0 then .disconnected else .empty, i)

/-- The reader takes no new requests and keeps the buffered ones. -/
def closeReader (i : Inbox α) : Inbox α :=
  { i with reader := if i.reader = .open then .closed else i.reader }

/-- The reader goes and the buffered requests with it. -/
def dropReader (i : Inbox α) : Inbox α := { i with buffer := [], reader := .gone }

def addProducer (i : Inbox α) : Inbox α := { i with producers := i.producers + 1 }

def dropProducer (i : Inbox α) : Inbox α := { i with producers := i.producers - 1 }

/-- A producer that did not count becomes one that does, while another still counts. -/
def upgrade? (i : Inbox α) : Option (Inbox α) :=
  if i.producers = 0 then none else some i.addProducer

/-- An accepted request finds the reader there and room, so the bound is kept. -/
theorem offer_eq_ok {i j : Inbox α} {a : α} : i.offer a = .ok j ↔
    i.reader = .open ∧ i.buffer.length < inboxDepth ∧
      { i with buffer := i.buffer ++ [a] } = j := by
  unfold offer
  split
  · simp [*]
  · split
    · simp; omega
    · simp_all

end Inbox

/-- A request as a message shows it. -/
def Request.inspect (n : Names) (camera : HandleId → Option CameraId)
    (sessionCamera : SessionId → Option CameraId) : Request → String
  | .open h share =>
    "Open \x7b camera_id: " ++ ((camera h).map CameraId.inspect).getD "" ++ ", handle: " ++
      n.handle h ++ ", share: " ++ (if share then "true" else "false") ++ " \x7d"
  | .close s =>
    "Close \x7b camera_id: " ++ ((sessionCamera s).map CameraId.inspect).getD "" ++
      ", session: " ++ n.session s ++ " \x7d"
  | .closeAll => "CloseAll"

end CameraBroker
