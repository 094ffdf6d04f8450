import CameraBroker.Broker.Client
import CameraBroker.Config

/-! One run of the broker over simulated cameras: opens some, keeps them for a while, closes
everything, and shows the device log. -/
namespace CameraBroker

structure Demonstration where
  config : Config
  cameras : List CameraId
  share : Bool
  granted : Bool
  holdMs : Nat
deriving DecidableEq

namespace Demonstration

def hardware (d : Demonstration) : Hardware :=
  .simulated d.config.cameras d.config.openLatency.toNat d.config.closeLatency.toNat

def start (d : Demonstration) : Schedule Broker Broker.Task :=
  Schedule.settle { state :=
    { hw := d.hardware, opener := .retrying d.config.policy, granted := d.granted } }

/-- A request of the client, after which the loop goes on as far as it can. -/
def request (f : Broker → Except Refusal Broker) (run : Schedule Broker Broker.Task) :
    Except Refusal (Schedule Broker Broker.Task) := do
  let b ← f run.state
  pure (run.act fun _ => b).settle

/-- The device log of the whole run. An inbox without room ends it at once. -/
def deviceLog (d : Demonstration) : Except Refusal (List String) := do
  let run ← d.cameras.foldlM (fun run c => request (·.requestOpen c d.share) run) d.start
  let run ← request (·.requestCloseAll) (run.sleep d.holdMs)
  let run := (run.act Broker.beginShutdown).waitFor Broker.isLoopOver
  pure (run.state.hw.history.reverse.filterMap Event.deviceLine?)

end Demonstration

end CameraBroker
