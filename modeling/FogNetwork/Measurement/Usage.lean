import FogNetwork.Quantity
import FogNetwork.SortedMap.Basic

/-! What a run moves over its links and how many tuples each module receives, processes and
sends. Only the total of bytes can outgrow its range; the counts grow by one at a time. -/

namespace FogNetwork

structure Tally where
  received : Nat
  processed : Nat
  sent : Nat
  deriving DecidableEq

def Tally.zero : Tally := ⟨0, 0, 0⟩

structure Usage where
  bytes : Nat
  transfers : Nat
  modules : SortedMap String Tally

namespace Usage

def initial : Usage := ⟨0, 0, .empty⟩

instance : Inhabited Usage := ⟨initial⟩

def transfer? (usage : Usage) (size : Nat) : Option Usage :=
  (sum? usage.bytes size).map fun bytes =>
    { usage with bytes := bytes, transfers := usage.transfers + 1 }

def changeModule (usage : Usage) (name : String) (change : Tally → Tally) : Usage :=
  { usage with modules := usage.modules.update name .zero change }

def countReceived (usage : Usage) (name : String) : Usage :=
  usage.changeModule name fun tally => { tally with received := tally.received + 1 }

def countProcessed (usage : Usage) (name : String) : Usage :=
  usage.changeModule name fun tally => { tally with processed := tally.processed + 1 }

def countSent (usage : Usage) (name : String) : Usage :=
  usage.changeModule name fun tally => { tally with sent := tally.sent + 1 }

def tally (usage : Usage) (name : String) : Tally := usage.modules.getD name .zero

end Usage
end FogNetwork
