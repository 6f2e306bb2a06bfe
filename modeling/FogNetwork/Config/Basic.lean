import FogNetwork.Rejection

/-! The two numbers that a run is set up with. -/

namespace FogNetwork

structure Config where
  controlInterval : Nat
  runLength : Nat
  deriving DecidableEq

namespace Config

def defaultControlInterval : Nat := 100

def defaultRunLength : Nat := 10000

def standard : Config := ⟨defaultControlInterval, defaultRunLength⟩

def validate (config : Config) : Except Rejection Unit :=
  if config.controlInterval = 0 then .error (.settingNotPositive .controlInterval)
  else if config.runLength = 0 then .error (.settingNotPositive .runLength)
  else .ok ()

end Config
end FogNetwork
