import FogNetwork.Proofs.Horizon

/-! The backlog that is reported when a run ends: for every module, the bytes that are still waiting
for it, wherever they wait. -/

namespace FogNetwork

def Payload.derivedArrival? : Payload → Option Tuple
  | .device _ (.tupleArrival tuple) => if tuple.origin = .sensor then none else some tuple
  | _ => none

def Tuple.bytesFor (tuple : Tuple) (name : String) : Nat :=
  if tuple.destination = name then tuple.size else 0

def bytesFor (name : String) : List Tuple → Nat
  | [] => 0
  | tuple :: rest => tuple.bytesFor name + bytesFor name rest

/-- The bytes that wait for a module: on their way to a device, unless they come from a sensor, and
in the queues of all devices. -/
def waitingBytes (name : String) (pending : List Event) (devices : Devices) : Nat :=
  bytesFor name (pending.filterMap (·.payload.derivedArrival?)) +
    bytesFor name (devices.values.flatMap Device.north) +
    bytesFor name (devices.values.flatMap Device.south)

section Bytes

variable {name : String} {left right : List Tuple}

theorem bytesFor_append (name : String) (left right : List Tuple) :
    bytesFor name (left ++ right) = bytesFor name left + bytesFor name right := by
  induction left with
  | nil => simp [bytesFor]
  | cons first rest ih => simp [bytesFor, ih, Nat.add_assoc]

theorem bytesFor_perm (perm : left.Perm right) : bytesFor name left = bytesFor name right := by
  induction perm with
  | nil => rfl
  | cons tuple _ ih => simp [bytesFor, ih]
  | swap first second rest =>
      simp only [bytesFor]
      omega
  | trans _ _ early late => exact early.trans late

theorem waitingBytes_perm {pending order : List Event} (perm : order.Perm pending)
    (devices : Devices) : waitingBytes name order devices = waitingBytes name pending devices := by
  rw [waitingBytes, waitingBytes, bytesFor_perm (perm.filterMap _)]

theorem derivedArrival?_eq (payload : Payload) :
    payload.derivedArrival? = payload.arrivingTuple?.filter (!·.isFromSensor) := by
  cases payload with
  | device id event =>
      cases event with
      | tupleArrival tuple =>
          simp only [Payload.derivedArrival?, Payload.arrivingTuple?, Option.filter_some,
            Tuple.isFromSensor]
          cases tuple.origin <;> rfl
      | _ => rfl
  | _ => rfl

theorem bytesFor_waitingTuples (name : String) (pending : List Event) (devices : Devices) :
    bytesFor name ((waitingTuples pending devices).map (·.1)) =
      waitingBytes name pending devices := by
  have derived : (pending.filterMap (·.payload.arrivingTuple?)).filter (!·.isFromSensor) =
      pending.filterMap (·.payload.derivedArrival?) := by
    simp only [List.filter_filterMap, derivedArrival?_eq]
  have queued : (devices.values.flatMap fun device => device.north ++ device.south).Perm
      (devices.values.flatMap Device.north ++ devices.values.flatMap Device.south) :=
    (List.flatMap_append_perm _ _ _).symm
  simp [waitingTuples, waitingBytes, List.map_flatMap, bytesFor_append, bytesFor_perm queued,
    derived, Function.comp_def, Nat.add_assoc]

end Bytes

/-! The report while the waiting tuples are counted one by one. -/

def byteTable (names : List String) (bytes : String → Nat) : SortedMap String Nat :=
  .ofList (names.map fun name => (name, bytes name))

section Counting

variable {names : List String} {bytes : String → Nat} {waiting : Waiting}

theorem get?_byteTable (names : List String) (bytes : String → Nat) (name : String) :
    (byteTable names bytes).get? name = if name ∈ names then some (bytes name) else none :=
  SortedMap.get?_ofList_map names bytes name

theorem byteTable_congr {other : String → Nat} (same : ∀ name ∈ names, bytes name = other name) :
    byteTable names bytes = byteTable names other := by
  ext1 name
  rw [get?_byteTable, get?_byteTable]
  by_cases listed : name ∈ names
  · simp [listed, same name listed]
  · simp [listed]

theorem addWaiting_outcome (small : ∀ name ∈ names, bytes name ≤ largest) :
    (addWaiting (byteTable names bytes) waiting).outcome =
      if ∀ name ∈ names, bytes name + waiting.1.bytesFor name ≤ largest then
        .ok (byteTable names fun name => bytes name + waiting.1.bytesFor name)
      else .error .overflow := by
  have own : waiting.1.bytesFor waiting.1.destination = waiting.1.size := if_pos rfl
  have others {name : String} (differs : name ≠ waiting.1.destination) :
      waiting.1.bytesFor name = 0 := if_neg differs.symm
  by_cases listed : waiting.1.destination ∈ names
  · by_cases fits : bytes waiting.1.destination + waiting.1.size ≤ largest
    · have all : ∀ name ∈ names, bytes name + waiting.1.bytesFor name ≤ largest := by
        intro name member
        by_cases here : name = waiting.1.destination
        · rw [here, own]
          exact fits
        · rw [others here]
          exact small name member
      have entered : (byteTable names bytes).insert waiting.1.destination
            (bytes waiting.1.destination + waiting.1.size) =
          byteTable names fun name => bytes name + waiting.1.bytesFor name := by
        ext1 name
        rw [SortedMap.get?_insert, get?_byteTable, get?_byteTable]
        by_cases here : name = waiting.1.destination
        · simp [here, listed, own]
        · simp [here, others here]
      rw [if_pos all, ← entered]
      simp [addWaiting, get?_byteTable, listed, sum?, fits, Run.orFault]
    · have exceeds : ¬∀ name ∈ names, bytes name + waiting.1.bytesFor name ≤ largest := by
        intro all
        have own' := all _ listed
        rw [own] at own'
        exact fits own'
      rw [if_neg exceeds]
      simp [addWaiting, get?_byteTable, listed, sum?, fits, Run.orFault]
  · have nothing : ∀ name ∈ names, bytes name = bytes name + waiting.1.bytesFor name := by
      intro name member
      rw [others fun same => listed (same ▸ member), Nat.add_zero]
    rw [if_pos fun name member => nothing name member ▸ small name member,
      ← byteTable_congr nothing]
    simp only [addWaiting, get?_byteTable, if_neg listed]
    rfl

theorem addAll_outcome {tuples : List Waiting} (small : ∀ name ∈ names, bytes name ≤ largest) :
    (tuples.foldlM addWaiting (byteTable names bytes)).outcome =
      if ∀ name ∈ names, bytes name + bytesFor name (tuples.map (·.1)) ≤ largest then
        .ok (byteTable names fun name => bytes name + bytesFor name (tuples.map (·.1)))
      else .error .overflow := by
  induction tuples generalizing bytes with
  | nil => exact (if_pos small).symm
  | cons first rest ih =>
      rw [List.foldlM_cons, Run.outcome_bind, addWaiting_outcome small]
      by_cases fits : ∀ name ∈ names, bytes name + first.1.bytesFor name ≤ largest
      · rw [if_pos fits]
        simpa [bytesFor, Nat.add_assoc] using ih fits
      · have exceeds : ¬∀ name ∈ names,
            bytes name + bytesFor name ((first :: rest).map (·.1)) ≤ largest := by
          intro all
          refine fits fun name member => ?_
          have whole := all name member
          rw [List.map_cons, bytesFor] at whole
          omega
        rw [if_neg fits, if_neg exceeds]

end Counting

theorem backlog_outcome (application : Application) (pending : List Event) (devices : Devices) :
    (backlog application pending devices).outcome =
      if ∀ name ∈ application.moduleNames, waitingBytes name pending devices ≤ largest then
        .ok (byteTable application.moduleNames (waitingBytes · pending devices))
      else .error .overflow := by
  have counted := @addAll_outcome application.moduleNames (fun _ => 0)
    (waitingTuples pending devices) fun _ _ => Nat.zero_le _
  simp only [bytesFor_waitingTuples, Nat.zero_add] at counted
  exact counted

/-- The report has one entry for each module: the bytes of the tuples for it that are on their way,
other than those from sensors, and of those in the queues of all devices. The order of the pending
events makes no difference, neither to the report nor to whether a sum overflows. -/
theorem backlog_sums_waiting (application : Application) (pending : List Event)
    (devices : Devices) :
    ((∀ name ∈ application.moduleNames, waitingBytes name pending devices ≤ largest) →
      ∃ report, (backlog application pending devices).outcome = .ok report ∧
        ∀ name, report.get? name =
          if name ∈ application.moduleNames then some (waitingBytes name pending devices)
          else none) ∧
    ((backlog application pending devices).outcome = .error .overflow ↔
      ∃ name ∈ application.moduleNames, largest < waitingBytes name pending devices) ∧
    ∀ order, order.Perm pending →
      (backlog application order devices).outcome =
        (backlog application pending devices).outcome := by
  refine ⟨fun fits => ?_, ?_, fun order perm => ?_⟩
  · refine ⟨_, (backlog_outcome ..).trans (if_pos fits), ?_⟩
    exact get?_byteTable _ _
  · rw [backlog_outcome]
    split
    next fits => simpa using fits
    next exceeds => simpa using exceeds
  · simp only [backlog_outcome, waitingBytes_perm perm]

namespace Demo

def depot : Application :=
  { Application.named "depot" with modules := [⟨"sort", 10, []⟩, ⟨"load", 10, []⟩] }

def parcel (id : Nat) (name : String) (origin : Origin) (size : Nat) : Tuple :=
  { Tuple.along (Edge.between "gate" name "PARCEL" .module) id "depot" origin id with
    size := size }

/-- For loading, one parcel is on its way and two wait at a device. A parcel from a sensor counts
only where it waits, and one for nobody does not count at all. -/
def parcels : List Event :=
  [⟨⟨0⟩, ⟨5⟩, .device ⟨1⟩ (.tupleArrival (parcel 0 "load" .module 40))⟩,
    ⟨⟨1⟩, ⟨5⟩, .device ⟨1⟩ (.tupleArrival (parcel 1 "sort" .sensor 7))⟩,
    ⟨⟨2⟩, ⟨5⟩, .delivery ⟨0⟩ (parcel 2 "load" .module 9)⟩,
    ⟨⟨3⟩, ⟨5⟩, .device ⟨1⟩ (.tupleArrival (parcel 3 "moon" .module 3))⟩]

def ramp : Devices :=
  .ofList [(⟨1⟩, .recorder { Recorder.named ⟨1⟩ "ramp" with
    north := [parcel 4 "load" .module 40, parcel 5 "sort" .sensor 2]
    south := [parcel 4 "load" .module 40] })]

end Demo

theorem backlog_sums_waiting_depot :
    (∀ name ∈ Demo.depot.moduleNames, waitingBytes name Demo.parcels Demo.ramp ≤ largest) ∧
      ∃ report, (backlog Demo.depot Demo.parcels Demo.ramp).outcome = .ok report ∧
        report.get? "load" = some 120 ∧ report.get? "sort" = some 2 ∧
        report.get? "moon" = none ∧
        (backlog Demo.depot Demo.parcels.reverse Demo.ramp).outcome = .ok report := by
  have fits : ∀ name ∈ Demo.depot.moduleNames,
      waitingBytes name Demo.parcels Demo.ramp ≤ largest := by
    decide
  obtain ⟨counted, _, order⟩ := backlog_sums_waiting Demo.depot Demo.parcels Demo.ramp
  obtain ⟨report, counts, figures⟩ := counted fits
  refine ⟨fits, report, counts, ?_, ?_, ?_, ?_⟩
  · rw [figures]
    decide
  · rw [figures]
    decide
  · rw [figures]
    decide
  · rw [order _ Demo.parcels.reverse_perm, counts]

end FogNetwork
