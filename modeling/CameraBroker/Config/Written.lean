import CameraBroker.Config
import CameraBroker.Toml.Written

/-! The document that settings are written as: all fields of all sections, in a fixed order. -/
namespace CameraBroker.Config
open Toml

def written (c : Config) : List (String × List (String × Entry)) := [
  ("arbiter", [("log_level", .string c.logLevel)]),
  ("opener", [("max_attempts", .number c.maxAttempts.toNat),
    ("retry_interval_ms", .number c.retryInterval.toNat)]),
  ("simulator", [("cameras", .strings c.cameras),
    ("open_latency_ms", .number c.openLatency.toNat),
    ("close_latency_ms", .number c.closeLatency.toNat)])]

/-- The text of the document, unless a number is too large for one. -/
def text? (c : Config) : Option String := (writeDocument? c.written).map String.ofList

end CameraBroker.Config
