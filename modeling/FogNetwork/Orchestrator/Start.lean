import FogNetwork.Orchestrator.Basic

/-! The start of a run, and the launch of the held application. -/

namespace FogNetwork
namespace Orchestrator

/-- Hands one placed module to its device. Names that are no modules are passed over. -/
def launchModule (application : Application) (device : DeviceId) (name : String) : Act Unit := do
  match application.module? name with
  | none => return
  | some spec =>
      let _ ← Act.scheduleNow (.device device (.applicationReceived application))
      let _ ← Act.scheduleNow (.device device (.launchModule spec))

def activate (orchestrator : Orchestrator) : Act Unit := do
  match orchestrator.active with
  | none => return
  | some held =>
      let application := held.application
      orchestrator.devices.keys.forM fun device => do
        let _ ← Act.scheduleNow (.device device (.applicationActive application))
      held.placement.assignments.entries.forM fun entry =>
        entry.2.forM (launchModule application entry.1)
      (orchestrator.sensors.values.filter (·.application == application.id)).forM Sensor.arm
      Act.note (.applicationActivated application.id (← Act.now))

def unreachable? (now : Time) (delays : List Nat) : Option Nat :=
  delays.find? fun delay => (now.after? delay).isNone

def readyAt (orchestrator : Orchestrator) (now : Time) : Except Rejection Unit := do
  if orchestrator.isStarted then
    throw .startedTwice
  orchestrator.config.validate
  let launchDelay := (orchestrator.active.map (·.delay)).getD 0
  if let some delay := unreachable? now
      [launchDelay, orchestrator.config.controlInterval, orchestrator.config.runLength] then
    throw (.timeOverflow now delay)

def launch (orchestrator : Orchestrator) : Act Unit := do
  match orchestrator.active with
  | none => Act.note .startingWithoutApplication
  | some held =>
      if held.delay = 0 then orchestrator.activate
      else
        let _ ← Act.scheduleAfter held.delay (.launchApplication held.application.id)

def start (orchestrator : Orchestrator) : Act (Except Rejection Unit × Orchestrator) := do
  let now ← Act.now
  match orchestrator.readyAt now with
  | .error rejection => return (.error rejection, orchestrator)
  | .ok () =>
      orchestrator.launch
      let _ ← Act.scheduleAfter orchestrator.config.controlInterval .controlTick
      let _ ← Act.scheduleAfter orchestrator.config.runLength .stop
      orchestrator.devices.keys.forM fun device => do
        let _ ← Act.manageLater device 0
      Act.note (.simulationStarted now orchestrator.config.runLength)
      return (.ok (), { orchestrator with startedAt := some now })

end Orchestrator
end FogNetwork
