import FogNetwork.Identifier
import FogNetwork.Time
import FogNetwork.Text.Quoted

/-! Why a request is turned down, and what the requester is told. -/

namespace FogNetwork

inductive Setting where
  | controlInterval
  | runLength
  deriving DecidableEq

def Setting.name : Setting → String
  | .controlInterval => "resource_manage_interval"
  | .runLength => "max_simulation_time"

inductive Rejection where
  | placementIncomplete (application : String) (missing : List String)
  | unknownModule (application unknown : String)
  | applicationAlreadyActive (active submitted : String)
  | alreadyStarted (application : String)
  | startedTwice
  | unknownLoopMember (application member : String)
  | emptyLoop (application : String)
  | deviceNotFound (device : DeviceId)
  | deviceNameNotFound (name : String)
  | deviceAlreadyRegistered (device : DeviceId)
  | timeOverflow (now : Time) (delay : Nat)
  | notTerminated
  | settingNotPositive (setting : Setting)
  | malformedConfiguration
  | unreadableFile
  deriving DecidableEq

/-- The text of a rejection. Malformed documents and unreadable files have none: what is wrong
with them is told by whoever reads them. -/
def Rejection.message? : Rejection → Option String
  | .placementIncomplete application missing =>
      some ("placement for application " ++ application ++ " does not cover modules "
        ++ Text.quotedList missing)
  | .unknownModule application unknown =>
      some ("placement assigns unknown module " ++ unknown ++ " of application " ++ application)
  | .applicationAlreadyActive active submitted =>
      some ("application " ++ active ++ " is already active; cannot submit " ++ submitted)
  | .alreadyStarted application =>
      some ("simulation already started; cannot submit " ++ application)
  | .startedTwice => some "orchestrator was already started"
  | .unknownLoopMember application member =>
      some ("loop of application " ++ application ++ " references unknown name " ++ member)
  | .emptyLoop application => some ("loop of application " ++ application ++ " is empty")
  | .deviceNotFound device => some ("device " ++ device.text ++ " not found")
  | .deviceNameNotFound name => some ("device named " ++ Text.quoted name ++ " not found")
  | .deviceAlreadyRegistered device =>
      some ("device " ++ device.text ++ " is already registered")
  | .timeOverflow now delay =>
      some ("a delay of " ++ toString delay ++ " ticks from " ++ now.text
        ++ " overflows virtual time")
  | .notTerminated => some "simulation has not terminated; no snapshot yet"
  | .settingNotPositive setting =>
      some ("invalid configuration: " ++ setting.name ++ " must be positive")
  | .malformedConfiguration => none
  | .unreadableFile => none

end FogNetwork
