import FogNetwork.Orchestrator.Figures
import FogNetwork.Orchestrator.Start

/-! How the orchestrator reacts to events: it hands each one to the entity it is meant for. -/

namespace FogNetwork
namespace Orchestrator

def deliver (device : DeviceId) (event : DeviceEvent) (orchestrator : Orchestrator) :
    Act Orchestrator := do
  match orchestrator.devices.get? device with
  | none =>
      Act.note (.unknownDevice device event)
      return orchestrator
  | some target =>
      let target ← target.react event
      return { orchestrator with devices := orchestrator.devices.insert device target }

def transmit (id : SensorId) (orchestrator : Orchestrator) : Act Orchestrator := do
  match orchestrator.sensors.get? id with
  | none =>
      Act.note (.unknownSensor id)
      return orchestrator
  | some sensor =>
      match orchestrator.application? with
      | some application =>
          if sensor.application = application.id then
            let sensor ← sensor.transmit application
            return { orchestrator with sensors := orchestrator.sensors.insert id sensor }
          else
            Act.note (.sensorInactive id)
            return orchestrator
      | none =>
          Act.note (.sensorInactive id)
          return orchestrator

def actuate (id : ActuatorId) (tuple : Tuple) (orchestrator : Orchestrator) :
    Act Orchestrator := do
  match orchestrator.actuators.get? id with
  | none =>
      Act.note (.unknownActuator id)
      return orchestrator
  | some actuator =>
      let actuator ← actuator.receive orchestrator.application? tuple
      return { orchestrator with actuators := orchestrator.actuators.insert id actuator }

def control (orchestrator : Orchestrator) : Act Orchestrator := do
  let now ← Act.now
  let ticks := orchestrator.controlTicks + 1
  Act.note (.controlTick now ticks)
  match now.after? orchestrator.config.controlInterval with
  | none => Act.note .noFurtherControlTick
  | some time =>
      let _ ← Act.scheduleAt time .controlTick
  return { orchestrator with controlTicks := ticks }

def launchDue (application : String) (orchestrator : Orchestrator) : Act Unit := do
  if orchestrator.application?.any (·.id == application) then orchestrator.activate
  else Act.note (.launchNotHeld application)

/-- Ends the run: the agenda admits no more events, and the figures are taken and exported. -/
def stop (orchestrator : Orchestrator) : Act Orchestrator := do
  if orchestrator.snapshot.isSome then
    Act.note .duplicateTermination
    return orchestrator
  else
    Act.terminate
    let context ← get
    let snapshot ← orchestrator.figures context
    Act.note (.simulationStopped context.now snapshot.pendingEvents)
    let (delivery, exporter) := orchestrator.exporter.handOver snapshot
    match delivery with
    | .kept => pure ()
    | .filed => Act.note .metricsWritten
    | .failed => Act.note .exportFailed
    return { orchestrator with exporter := exporter, snapshot := some snapshot }

def handle (event : Event) (orchestrator : Orchestrator) : Act Orchestrator := do
  Act.note (.dispatch event.id (← Act.now) event.payload)
  match event.payload with
  | .launchApplication application =>
      orchestrator.launchDue application
      return orchestrator
  | .controlTick => orchestrator.control
  | .tupleFinished tuple =>
      Act.note (.tupleFinished tuple)
      return orchestrator
  | .stop => orchestrator.stop
  | .device device payload => orchestrator.deliver device payload
  | .transmit sensor => orchestrator.transmit sensor
  | .delivery actuator tuple => orchestrator.actuate actuator tuple

end Orchestrator
end FogNetwork
