import FogNetwork.Device.Recorder
import FogNetwork.Device.Relay

/-! The devices of a network. -/

namespace FogNetwork

inductive Device where
  | relay (relay : Relay)
  | recorder (recorder : Recorder)

abbrev Devices := SortedMap DeviceId Device

namespace Device

def id : Device → DeviceId
  | .relay device => device.id
  | .recorder device => device.id

def name : Device → String
  | .relay device => device.name
  | .recorder device => device.name

def links : Device → Links
  | .relay device => device.links
  | .recorder device => device.links

def energy : Device → Float
  | .relay device => device.energy
  | .recorder device => device.energy

def north : Device → List Tuple
  | .relay device => device.north
  | .recorder device => device.north

def south : Device → List Tuple
  | .relay device => device.south
  | .recorder device => device.south

def changeLinks (change : Links → Links) : Device → Device
  | .relay device => .relay { device with links := change device.links }
  | .recorder device => .recorder { device with links := change device.links }

def changeRelay (change : Relay → Relay) : Device → Device
  | .relay device => .relay (change device)
  | .recorder device => .recorder device

def relay? : Device → Option Relay
  | .relay device => some device
  | .recorder _ => none

def react (event : DeviceEvent) : Device → Act Device
  | .relay device => .relay <$> device.react event
  | .recorder device => .recorder <$> device.react event

end Device
end FogNetwork
