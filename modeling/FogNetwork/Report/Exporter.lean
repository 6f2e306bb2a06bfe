import FogNetwork.Report.Snapshot

/-! Where the figures of a run go. An exporter remembers every snapshot that it was handed,
whether it could deliver it or not. -/

namespace FogNetwork

inductive Delivery where
  | kept
  | filed
  | failed
  deriving DecidableEq

structure Exporter where
  deliver : List Snapshot → Snapshot → Delivery
  received : List Snapshot

namespace Exporter

def keeping : Exporter := ⟨fun _ _ => .kept, []⟩

def page (snapshot : Snapshot) : String := snapshot.text ++ "\n"

/-- Writes one page after the other, into no more than `room` bytes if there is a limit. -/
def printing (room : Option Nat) : Exporter where
  deliver earlier snapshot :=
    let size := (earlier ++ [snapshot]).foldl (fun sum each => sum + (page each).utf8ByteSize) 0
    if room.any (· < size) then .failed else .kept
  received := []

def filing (writable : Bool) : Exporter := ⟨fun _ _ => if writable then .filed else .failed, []⟩

def handOver (exporter : Exporter) (snapshot : Snapshot) : Delivery × Exporter :=
  (exporter.deliver exporter.received snapshot,
    { exporter with received := exporter.received ++ [snapshot] })

def printed (exporter : Exporter) : String := String.join (exporter.received.map page)

def lastPage? (exporter : Exporter) : Option String := exporter.received.getLast?.map page

end Exporter
end FogNetwork
