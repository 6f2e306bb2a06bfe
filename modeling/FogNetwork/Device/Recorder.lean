import FogNetwork.Device.Links
import FogNetwork.Simulation.Context

/-! A device that writes down every event it receives and does nothing else. Its queues and its
energy are what they were set to. -/

namespace FogNetwork

structure Recorder where
  id : DeviceId
  name : String
  links : Links
  received : List (Time × DeviceEvent)
  north : List Tuple
  south : List Tuple
  energy : Float

namespace Recorder

def named (id : DeviceId) (name : String) : Recorder := ⟨id, name, .empty, [], [], [], 0.0⟩

def react (event : DeviceEvent) (recorder : Recorder) : Act Recorder := do
  return { recorder with received := recorder.received ++ [(← Act.now, event)] }

def launched (recorder : Recorder) : List String :=
  recorder.received.filterMap fun
    | (_, .launchModule spec) => some spec.name
    | _ => none

def managements (recorder : Recorder) : Nat :=
  recorder.received.countP fun
    | (_, .manageResources) => true
    | _ => false

end Recorder
end FogNetwork
