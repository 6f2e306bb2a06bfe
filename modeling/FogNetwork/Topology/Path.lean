import FogNetwork.Device.Basic

/-! The way between two devices: up from each of them to their closest common ancestor. Only the
first declared parent of a device leads up. -/

namespace FogNetwork

def linkUp? (devices : Devices) (visited : List DeviceId) (device : DeviceId) :
    Option ParentLink :=
  match (devices.get? device).bind (·.links.uplink?) with
  | none => none
  | some link =>
      if devices.contains link.parent && !visited.contains link.parent then some link else none

/-- The ancestors above `device`, each with its distance, given the devices visited on the way. A
climb meets a new device with every step, so it takes no more steps than there are devices. -/
def climb (devices : Devices) :
    Nat → List DeviceId → DeviceId → Nat → Except Fault (List (DeviceId × Nat))
  | 0, _, _, _ => .ok []
  | steps + 1, visited, device, distance =>
      match linkUp? devices visited device with
      | none => .ok []
      | some link =>
          match sum? distance link.latency with
          | none => .error .overflow
          | some total =>
              (climb devices steps (link.parent :: visited) link.parent total).map
                ((link.parent, total) :: ·)

def ancestry (devices : Devices) (device : DeviceId) : Except Fault (List (DeviceId × Nat)) :=
  (climb devices devices.size [device] device 0).map ((device, 0) :: ·)

def firstShared? (left right : List (DeviceId × Nat)) : Option (Nat × Nat) :=
  left.findSome? fun here =>
    (right.find? (·.1 == here.1)).map fun there => (here.2, there.2)

def pathLatency (devices : Devices) (start target : DeviceId) : Except Fault (Option Nat) := do
  let upward ← ancestry devices start
  let downward ← ancestry devices target
  match firstShared? upward downward with
  | none => .ok none
  | some (above, below) =>
      match sum? above below with
      | none => .error .overflow
      | some total => .ok (some total)

end FogNetwork
