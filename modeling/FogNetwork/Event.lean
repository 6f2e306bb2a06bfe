import FogNetwork.Application.Graph
import FogNetwork.Time
import FogNetwork.Tuple

/-! Events. Each one names the single entity that reacts to it. -/

namespace FogNetwork

inductive DeviceEvent where
  | applicationActive (application : Application)
  | applicationReceived (application : Application)
  | launchModule (spec : ModuleSpec)
  | manageResources
  | tupleArrival (tuple : Tuple)
  deriving BEq

inductive Payload where
  | launchApplication (application : String)
  | controlTick
  | tupleFinished (tuple : Tuple)
  | stop
  | device (device : DeviceId) (event : DeviceEvent)
  | transmit (sensor : SensorId)
  | delivery (actuator : ActuatorId) (tuple : Tuple)
  deriving BEq

inductive Recipient where
  | orchestrator
  | device (id : DeviceId)
  | sensor (id : SensorId)
  | actuator (id : ActuatorId)
  deriving DecidableEq

structure Event where
  id : EventId
  time : Time
  payload : Payload
  deriving BEq

def Recipient.text : Recipient → String
  | .orchestrator => "orchestrator"
  | .device id => id.text
  | .sensor id => id.text
  | .actuator id => id.text

def DeviceEvent.tag : DeviceEvent → String
  | .applicationActive _ => "ACTIVE_APP_UPDATE"
  | .applicationReceived _ => "RECEIVE_APPLICATION"
  | .launchModule _ => "LAUNCH_MODULE"
  | .manageResources => "RESOURCE_MANAGEMENT"
  | .tupleArrival _ => "TUPLE_ARRIVAL"

def DeviceEvent.text : DeviceEvent → String
  | .applicationActive application => "ActiveAppUpdate(" ++ application.id ++ ")"
  | .applicationReceived application => "ReceiveApplication(" ++ application.id ++ ")"
  | .launchModule spec => "LaunchModule(" ++ spec.name ++ ")"
  | .manageResources => "ResourceManagement"
  | .tupleArrival tuple => "TupleArrival(" ++ tuple.text ++ ")"

namespace Payload

def recipient : Payload → Recipient
  | .launchApplication _ => .orchestrator
  | .controlTick => .orchestrator
  | .tupleFinished _ => .orchestrator
  | .stop => .orchestrator
  | .device id _ => .device id
  | .transmit sensor => .sensor sensor
  | .delivery actuator _ => .actuator actuator

def tag : Payload → String
  | .launchApplication _ => "APP_LAUNCH"
  | .controlTick => "CONTROLLER_TICK"
  | .tupleFinished _ => "TUPLE_FINISHED"
  | .stop => "STOP_SIMULATION"
  | .device _ event => event.tag
  | .transmit _ => "SENSOR_TRANSMIT"
  | .delivery _ _ => "ACTUATOR_ARRIVAL"

def arrivingTuple? : Payload → Option Tuple
  | .device _ (.tupleArrival tuple) => some tuple
  | _ => none

def reaching (name : String) (recipient : Recipient) (item : String) : String :=
  name ++ "(" ++ recipient.text ++ " ← " ++ item ++ ")"

def text (payload : Payload) : String :=
  match payload with
  | .launchApplication application => "AppLaunch(" ++ application ++ ")"
  | .tupleFinished tuple => "TupleFinished(" ++ tuple.text ++ ")"
  | .device _ (.launchModule spec) => reaching "LaunchModule" payload.recipient spec.name
  | .device _ (.applicationActive application) =>
      reaching payload.tag payload.recipient application.id
  | .device _ (.applicationReceived application) =>
      reaching payload.tag payload.recipient application.id
  | .device _ (.tupleArrival tuple) => reaching "TupleArrival" payload.recipient tuple.text
  | .delivery _ tuple => reaching "ActuatorArrival" payload.recipient tuple.text
  | .controlTick | .stop | .device _ .manageResources | .transmit _ =>
      payload.tag ++ "(" ++ payload.recipient.text ++ ")"

end Payload

namespace Event

/-- Dispatch order: the earlier time first, and of events at one time the one scheduled first. -/
def before (left right : Event) : Prop :=
  left.time.ticks < right.time.ticks ∨
    (left.time.ticks = right.time.ticks ∧ left.id.number < right.id.number)

instance (left right : Event) : Decidable (left.before right) :=
  inferInstanceAs (Decidable (_ ∨ _))

def urgency (left right : Event) : Ordering :=
  (compare right.time.ticks left.time.ticks).then (compare right.id.number left.id.number)

theorem before_trans {first second third : Event} (left : first.before second)
    (right : second.before third) : first.before third := by
  simp only [before] at *
  omega

theorem not_before_self (event : Event) : ¬event.before event := by
  simp only [before]
  omega

end Event
end FogNetwork
