import CameraBroker.Retry
import CameraBroker.Toml.Grammar
import CameraBroker.Toml.Schema

/-! The settings of the broker. In a document they lie in three sections. A field that is not
given keeps its default, an entry with another name is ignored, and one that does not fit
is a fault. -/
namespace CameraBroker
open Toml

structure Config where
  logLevel : String := "info"
  maxAttempts : UInt32 := 3
  retryInterval : UInt64 := 250
  cameras : List String := ["0", "1"]
  openLatency : UInt64 := 50
  closeLatency : UInt64 := 100
deriving DecidableEq, Repr

/-- Why a text does not give settings: it is no document, or it is one in which a value does
not fit. -/
inductive Unreadable where
  | malformed
  | fault (report : String)
deriving DecidableEq, Repr

namespace Config

def policy (c : Config) : RetryPolicy := ⟨c.maxAttempts.toNat, c.retryInterval.toNat⟩

def arbiterFields : Schema Config := [
  ⟨"log_level", fun place n c => return { c with logLevel := ← readString place n }⟩]

def openerFields : Schema Config := [
  ⟨"max_attempts", fun place n c =>
    return { c with maxAttempts := .ofNat (← readUnsigned 32 place n) }⟩,
  ⟨"retry_interval_ms", fun place n c =>
    return { c with retryInterval := .ofNat (← readUnsigned 64 place n) }⟩]

def simulatorFields : Schema Config := [
  ⟨"cameras", fun place n c => return { c with cameras := ← readStrings place n }⟩,
  ⟨"open_latency_ms", fun place n c =>
    return { c with openLatency := .ofNat (← readUnsigned 64 place n) }⟩,
  ⟨"close_latency_ms", fun place n c =>
    return { c with closeLatency := .ofNat (← readUnsigned 64 place n) }⟩]

def sections : Schema Config := [
  ⟨"arbiter", arbiterFields.take "ArbiterSection"⟩,
  ⟨"opener", openerFields.take "OpenerSection"⟩,
  ⟨"simulator", simulatorFields.take "SimulatorSection"⟩]

/-- The defaults with what a table gives in their place. -/
def ofTable (t : Table) : Except Fault Config := sections.takeEntries t.entries {}

def parse (text : String) : Except Unreadable Config :=
  match Table.parse? text.toList with
  | none => .error .malformed
  | some t => (ofTable t).mapError fun f => .fault (f.report text.toList)

end Config

end CameraBroker
