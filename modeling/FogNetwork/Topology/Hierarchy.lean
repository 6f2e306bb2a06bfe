import FogNetwork.Device.Basic

/-! The child tables of a set of devices, derived from the parents that the devices declare. -/

namespace FogNetwork

def declaredLinks (devices : Devices) : List (DeviceId × ParentLink) :=
  devices.entries.flatMap fun entry => entry.2.links.parents.map fun link => (entry.1, link)

def enterLink (devices : Devices) (declared : DeviceId × ParentLink) : Devices :=
  devices.modify declared.2.parent
    (Device.changeLinks (·.addChild declared.1 declared.2.latency))

/-- Builds every child table afresh. Links to unregistered parents are reported and dropped. -/
def connect (devices : Devices) : Logged Devices :=
  let declared := declaredLinks devices
  let cleared := devices.mapValues fun _ => Device.changeLinks Links.clearChildren
  let dropped := declared.filter fun entry => !devices.contains entry.2.parent
  ⟨dropped.map fun entry => .linkDropped entry.1 entry.2.parent, declared.foldl enterLink cleared⟩

end FogNetwork
