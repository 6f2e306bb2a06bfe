import FogNetwork.Proofs.Entries
import FogNetwork.Topology.Path
import Mathlib.Data.List.Perm.Subperm
import Mathlib.Logic.Relation
import Mathlib.Order.Bounds.Basic

/-! The latency between two devices: the least that a way up from one and down to the other takes,
by way of any device that is an ancestor of both. -/

namespace FogNetwork

def uplinkOf? (devices : Devices) (device : DeviceId) : Option ParentLink :=
  (devices.get? device).bind (·.links.uplink?)

def Uplink (devices : Devices) (device parent : DeviceId) : Prop :=
  ∃ link, uplinkOf? devices device = some link ∧ link.parent = parent

/-- The chain of uplinks that begins at `start` never comes back to a device. -/
def Unrepeated (devices : Devices) (start : DeviceId) : Prop :=
  ∀ device, Relation.ReflTransGen (Uplink devices) start device →
    ¬Relation.TransGen (Uplink devices) device device

/-- A device itself and its registered ancestors, each with the latency of the way up to it. -/
inductive Above (devices : Devices) : DeviceId → DeviceId → Nat → Prop
  | here (device : DeviceId) : Above devices device device 0
  | up {device ancestor : DeviceId} {link : ParentLink} {way : Nat}
      (first : uplinkOf? devices device = some link)
      (registered : devices.contains link.parent = true)
      (rest : Above devices link.parent ancestor way) :
      Above devices device ancestor (link.latency + way)

def sharedTotals (devices : Devices) (start target : DeviceId) : Set Nat :=
  { total | ∃ device above below, Above devices start device above ∧
    Above devices target device below ∧ total = above + below }

/-- The latencies of the ways up from either device fit, and so does one by way of a shared
ancestor, if there is any. -/
structure LatenciesFit (devices : Devices) (start target : DeviceId) : Prop where
  upward : ∀ device way, Above devices start device way → way ≤ largest
  downward : ∀ device way, Above devices target device way → way ≤ largest
  shared : ∀ total ∈ sharedTotals devices start target,
    ∃ least ∈ sharedTotals devices start target, least ≤ largest

inductive Ascent (devices : Devices) :
    List DeviceId → DeviceId → Nat → Except Fault (List (DeviceId × Nat)) → Prop
  | top {visited : List DeviceId} {device : DeviceId} {distance : Nat}
      (last : linkUp? devices visited device = none) :
      Ascent devices visited device distance (.ok [])
  | overflow {visited : List DeviceId} {device : DeviceId} {distance : Nat} {link : ParentLink}
      (found : linkUp? devices visited device = some link)
      (exceeds : largest < distance + link.latency) :
      Ascent devices visited device distance (.error .overflow)
  | on {visited : List DeviceId} {device : DeviceId} {distance : Nat} {link : ParentLink}
      {result : Except Fault (List (DeviceId × Nat))}
      (found : linkUp? devices visited device = some link)
      (fits : distance + link.latency ≤ largest)
      (rest : Ascent devices (link.parent :: visited) link.parent (distance + link.latency)
        result) :
      Ascent devices visited device distance
        (result.map ((link.parent, distance + link.latency) :: ·))

section Links

variable {devices : Devices} {visited : List DeviceId} {device start ancestor top : DeviceId}
variable {link : ParentLink} {way far : Nat}

theorem linkUp?_eq_some_iff :
    linkUp? devices visited device = some link ↔
      uplinkOf? devices device = some link ∧ devices.contains link.parent = true ∧
        link.parent ∉ visited := by
  unfold linkUp? uplinkOf?
  cases (devices.get? device).bind (·.links.uplink?) with
  | none => simp
  | some other =>
      by_cases leads : (devices.contains other.parent && !visited.contains other.parent) = true
      · simp only [leads, if_true, Option.some.injEq]
        constructor
        · rintro rfl
          simpa using leads
        · exact And.left
      · simp only [leads, Bool.false_eq_true, if_false, Option.some.injEq]
        constructor
        · rintro ⟨⟩
        · rintro ⟨rfl, known, fresh⟩
          simp [known, fresh] at leads

theorem uplink_of_uplinkOf? (first : uplinkOf? devices device = some link) :
    Uplink devices device link.parent := ⟨link, first, rfl⟩

theorem Unrepeated.climbs (unrepeated : Unrepeated devices start)
    (way : Relation.ReflTransGen (Uplink devices) start device) : Unrepeated devices device :=
  fun other further => unrepeated other (way.trans further)

theorem Unrepeated.fresh (unrepeated : Unrepeated devices device)
    (behind : ∀ other ∈ visited, Relation.ReflTransGen (Uplink devices) other device)
    (first : uplinkOf? devices device = some link) : link.parent ∉ visited := by
  intro back
  have up := uplink_of_uplinkOf? first
  exact unrepeated device .refl (Relation.TransGen.head' up (behind _ back))

namespace Above

theorem trans (low : Above devices start device way) (high : Above devices device ancestor far) :
    Above devices start ancestor (way + far) := by
  induction low with
  | here => rwa [Nat.zero_add]
  | up first registered _ ih =>
      rw [Nat.add_assoc]
      exact .up first registered (ih high)

theorem reach (above : Above devices start ancestor way) :
    Relation.ReflTransGen (Uplink devices) start ancestor := by
  induction above with
  | here => exact .refl
  | up first _ _ ih => exact .head (uplink_of_uplinkOf? first) ih

theorem self (above : Above devices device device way) (unrepeated : Unrepeated devices device) :
    way = 0 := by
  cases above with
  | here => rfl
  | up first _ rest =>
      exact absurd (Relation.TransGen.head' (uplink_of_uplinkOf? first) rest.reach)
        (unrepeated device .refl)

theorem linear (left : Above devices start device way) (right : Above devices start ancestor far) :
    (∃ further, Above devices device ancestor further ∧ far = way + further) ∨
      ∃ further, Above devices ancestor device further ∧ way = far + further := by
  induction left generalizing ancestor far with
  | here => exact .inl ⟨far, right, (Nat.zero_add far).symm⟩
  | @up start device link way first registered rest ih =>
      cases right with
      | here => exact .inr ⟨_, .up first registered rest, (Nat.zero_add _).symm⟩
      | @up _ _ other _ first' _ rest' =>
          obtain rfl : other = link := Option.some.inj (first'.symm.trans first)
          rcases ih rest' with ⟨further, above, rfl⟩ | ⟨further, above, rfl⟩
          · exact .inl ⟨further, above, (Nat.add_assoc ..).symm⟩
          · exact .inr ⟨further, above, (Nat.add_assoc ..).symm⟩

theorem unique (unrepeated : Unrepeated devices start) (left : Above devices start device way)
    (right : Above devices start device far) : way = far := by
  have still := unrepeated.climbs left.reach
  rcases left.linear right with ⟨further, above, rfl⟩ | ⟨further, above, rfl⟩
  · rw [above.self still, Nat.add_zero]
  · rw [above.self still, Nat.add_zero]

end Above

theorem unrepeated_of_falls (falls : ∀ entry ∈ devices.entries, ∀ link,
    entry.2.links.uplink? = some link → link.parent.number < entry.1.number) (start : DeviceId) :
    Unrepeated devices start := by
  have step {device parent : DeviceId} (up : Uplink devices device parent) :
      parent.number < device.number := by
    obtain ⟨link, first, rfl⟩ := up
    obtain ⟨declaring, registered, leads⟩ := Option.bind_eq_some_iff.mp first
    exact falls _ (SortedMap.get?_eq_some_iff.mp registered) link leads
  have chain {device ancestor : DeviceId}
      (way : Relation.TransGen (Uplink devices) device ancestor) :
      ancestor.number < device.number := by
    induction way with
    | single up => exact step up
    | tail _ up ih => exact (step up).trans ih
  intro device _ back
  exact Nat.lt_irrefl _ (chain back)

end Links

/-! A climb visits registered devices, none of them twice, so it ends before its steps are used
up. -/

section Climbing

variable {devices : Devices} {visited : List DeviceId} {device start target : DeviceId}
variable {distance : Nat} {link : ParentLink} {result : Except Fault (List (DeviceId × Nat))}

theorem length_le_size (distinct : visited.Nodup)
    (known : ∀ other ∈ visited, devices.contains other = true) :
    visited.length ≤ devices.size := by
  have listed : visited ⊆ devices.keys := fun other member =>
    SortedMap.contains_iff_mem_keys.mp (known other member)
  simpa [SortedMap.keys, SortedMap.size] using (distinct.subperm listed).length_le

theorem climb_ascends {steps : Nat} (distinct : visited.Nodup)
    (known : ∀ other ∈ visited, devices.contains other = true)
    (enough : devices.size < steps + visited.length) :
    Ascent devices visited device distance (climb devices steps visited device distance) := by
  induction steps generalizing visited device distance with
  | zero =>
      have bounded := length_le_size distinct known
      omega
  | succ steps ih =>
      rw [climb]
      cases found : linkUp? devices visited device with
      | none => exact .top found
      | some link =>
          obtain ⟨_, registered, fresh⟩ := linkUp?_eq_some_iff.mp found
          dsimp only
          cases summed : sum? distance link.latency with
          | none => exact .overflow found (sum?_eq_none_iff.mp summed)
          | some total =>
              obtain ⟨fits, rfl⟩ := sum?_eq_some_iff.mp summed
              refine .on found fits (ih (List.nodup_cons.mpr ⟨fresh, distinct⟩) ?_ ?_)
              · intro other member
                rcases List.mem_cons.mp member with rfl | old
                · exact registered
                · exact known other old
              · simp only [List.length_cons]
                omega

theorem climb_ends (devices : Devices) (device : DeviceId) :
    Ascent devices [device] device 0 (climb devices devices.size [device] device 0) := by
  by_cases known : devices.contains device = true
  · exact climb_ascends (by simp) (by simp [known]) (by simp)
  · have nowhere : linkUp? devices [device] device = none := by
      rw [Option.eq_none_iff_forall_ne_some]
      intro link found
      have first := (linkUp?_eq_some_iff.mp found).1
      cases registered : devices.get? device with
      | none => simp [uplinkOf?, registered] at first
      | some other => simp [SortedMap.contains, registered] at known
    have ended : climb devices devices.size [device] device 0 = .ok [] := by
      cases devices.size with
      | zero => rfl
      | succ steps => simp [climb, nowhere]
    rw [ended]
    exact .top nowhere

structure Lineup (devices : Devices) (device : DeviceId) (distance : Nat)
    (entries : List (DeviceId × Nat)) : Prop where
  listed : ∀ other total, (other, total) ∈ entries ↔
    ∃ way, Above devices device other way ∧ total = distance + way
  upward : entries.Pairwise fun lower upper =>
    ∃ way, Above devices lower.1 upper.1 way ∧ upper.2 = lower.2 + way

theorem Lineup.top (last : ∀ other way, Above devices device other way → other = device ∧ way = 0)
    (distance : Nat) : Lineup devices device distance [(device, distance)] := by
  refine ⟨fun other total => ?_, List.pairwise_singleton _ _⟩
  simp only [List.mem_singleton, Prod.mk.injEq]
  constructor
  · rintro ⟨rfl, rfl⟩
    exact ⟨0, .here _, rfl⟩
  · rintro ⟨way, above, rfl⟩
    obtain ⟨rfl, rfl⟩ := last other way above
    exact ⟨rfl, rfl⟩

theorem Lineup.up {entries : List (DeviceId × Nat)} (first : uplinkOf? devices device = some link)
    (registered : devices.contains link.parent = true)
    (rest : Lineup devices link.parent (distance + link.latency) entries) :
    Lineup devices device distance ((device, distance) :: entries) := by
  constructor
  · intro other total
    rw [List.mem_cons, rest.listed, Prod.mk.injEq]
    constructor
    · rintro (⟨rfl, rfl⟩ | ⟨way, above, rfl⟩)
      · exact ⟨0, .here _, rfl⟩
      · exact ⟨_, .up first registered above, Nat.add_assoc ..⟩
    · rintro ⟨way, above, rfl⟩
      cases above with
      | here => exact .inl ⟨rfl, rfl⟩
      | @up _ _ again way first' _ above =>
          obtain rfl : again = link := Option.some.inj (first'.symm.trans first)
          exact .inr ⟨way, above, (Nat.add_assoc ..).symm⟩
  · refine List.pairwise_cons.mpr ⟨?_, rest.upward⟩
    rintro ⟨other, total⟩ member
    obtain ⟨way, above, rfl⟩ := (rest.listed other total).mp member
    exact ⟨_, .up first registered above, Nat.add_assoc ..⟩

theorem Ascent.lists (ascent : Ascent devices visited device distance result)
    (unrepeated : Unrepeated devices device)
    (behind : ∀ other ∈ visited, Relation.ReflTransGen (Uplink devices) other device)
    (small : distance ≤ largest) :
    (∃ chain, result = .ok chain ∧ Lineup devices device distance ((device, distance) :: chain) ∧
        ∀ other way, Above devices device other way → distance + way ≤ largest) ∨
      result = .error .overflow ∧
        ∃ other way, Above devices device other way ∧ largest < distance + way := by
  induction ascent with
  | @top visited device distance last =>
      have only : ∀ other way, Above devices device other way → other = device ∧ way = 0 := by
        intro other way above
        cases above with
        | here => exact ⟨rfl, rfl⟩
        | up first registered _ =>
            have leads := linkUp?_eq_some_iff.mpr
              ⟨first, registered, unrepeated.fresh behind first⟩
            rw [last] at leads
            cases leads
      refine .inl ⟨[], rfl, .top only distance, ?_⟩
      intro other way above
      obtain ⟨_, rfl⟩ := only other way above
      exact small
  | overflow found exceeds =>
      obtain ⟨first, registered, _⟩ := linkUp?_eq_some_iff.mp found
      exact .inr ⟨rfl, _, _, .up first registered (.here _), exceeds⟩
  | @on visited device distance link result found fits rest ih =>
      obtain ⟨first, registered, _⟩ := linkUp?_eq_some_iff.mp found
      have step : Relation.ReflTransGen (Uplink devices) device link.parent :=
        .single (uplink_of_uplinkOf? first)
      have passed : ∀ other ∈ link.parent :: visited,
          Relation.ReflTransGen (Uplink devices) other link.parent := by
        intro other member
        rcases List.mem_cons.mp member with rfl | old
        · exact .refl
        · exact (behind other old).trans step
      rcases ih (unrepeated.climbs step) passed fits with
        ⟨chain, rfl, lineup, bounds⟩ | ⟨rfl, other, way, above, exceeds⟩
      · refine .inl ⟨_, rfl, lineup.up first registered, ?_⟩
        intro other way above
        cases above with
        | here => exact small
        | @up _ _ again way first' _ above =>
            obtain rfl : again = link := Option.some.inj (first'.symm.trans first)
            rw [← Nat.add_assoc]
            exact bounds other way above
      · refine .inr ⟨rfl, other, _, .up first registered above, ?_⟩
        rwa [← Nat.add_assoc]

theorem ancestry_cases (unrepeated : Unrepeated devices device) :
    (∃ entries, ancestry devices device = .ok entries ∧ Lineup devices device 0 entries ∧
        ∀ other way, Above devices device other way → way ≤ largest) ∨
      ancestry devices device = .error .overflow ∧
        ∃ other way, Above devices device other way ∧ largest < way := by
  have behind : ∀ other ∈ [device], Relation.ReflTransGen (Uplink devices) other device := by
    simp [Relation.ReflTransGen.refl]
  have listed := (climb_ends devices device).lists unrepeated behind (Nat.zero_le _)
  simp only [Nat.zero_add] at listed
  unfold ancestry
  rcases listed with ⟨chain, climbed, lineup, bounds⟩ | ⟨climbed, exceeds⟩
  · rw [climbed]
    exact .inl ⟨_, rfl, lineup, bounds⟩
  · rw [climbed]
    exact .inr ⟨rfl, exceeds⟩

end Climbing

section Meeting

variable {devices : Devices} {start target : DeviceId} {left right : List (DeviceId × Nat)}

theorem sharedTotals_comm (devices : Devices) (start target : DeviceId) :
    sharedTotals devices start target = sharedTotals devices target start := by
  ext total
  constructor
  · rintro ⟨device, above, below, up, down, rfl⟩
    exact ⟨device, below, above, down, up, Nat.add_comm ..⟩
  · rintro ⟨device, above, below, up, down, rfl⟩
    exact ⟨device, below, above, down, up, Nat.add_comm ..⟩

theorem LatenciesFit.symm (fit : LatenciesFit devices start target) :
    LatenciesFit devices target start :=
  ⟨fit.downward, fit.upward, sharedTotals_comm devices start target ▸ fit.shared⟩

theorem firstShared?_eq_none (apart : firstShared? left right = none) {device : DeviceId}
    {above below : Nat} (up : (device, above) ∈ left) : (device, below) ∉ right := by
  intro down
  have missed := List.findSome?_eq_none_iff.mp apart _ up
  rw [Option.map_eq_none_iff, List.find?_eq_none] at missed
  exact missed _ down (by simp)

theorem firstShared?_eq_some {above below : Nat}
    (shared : firstShared? left right = some (above, below)) :
    ∃ device early late, left = early ++ (device, above) :: late ∧ (device, below) ∈ right ∧
      ∀ entry ∈ early, ∀ total, (entry.1, total) ∉ right := by
  obtain ⟨early, ⟨device, distance⟩, late, split, found, missed⟩ :=
    List.findSome?_eq_some_iff.mp shared
  obtain ⟨⟨other, total⟩, meets, same⟩ := Option.map_eq_some_iff.mp found
  cases same
  obtain rfl : other = device := by simpa using List.find?_some meets
  refine ⟨_, early, late, split, List.mem_of_find?_eq_some meets, ?_⟩
  intro entry member total down
  have none := missed entry member
  rw [Option.map_eq_none_iff, List.find?_eq_none] at none
  exact none _ down (by simp)

theorem firstShared?_cases (straight : Unrepeated devices target)
    (up : Lineup devices start 0 left) (down : Lineup devices target 0 right) :
    (firstShared? left right = none ∧ sharedTotals devices start target = ∅) ∨
      ∃ above below, firstShared? left right = some (above, below) ∧
        IsLeast (sharedTotals devices start target) (above + below) := by
  have upward {device : DeviceId} {total : Nat} :
      (device, total) ∈ left ↔ Above devices start device total := by
    simp [up.listed]
  have downward {device : DeviceId} {total : Nat} :
      (device, total) ∈ right ↔ Above devices target device total := by
    simp [down.listed]
  cases shared : firstShared? left right with
  | none =>
      refine .inl ⟨rfl, Set.eq_empty_iff_forall_notMem.mpr ?_⟩
      rintro total ⟨device, above, below, low, high, _⟩
      exact firstShared?_eq_none shared (upward.mpr low) (downward.mpr high)
  | some pair =>
      obtain ⟨above, below⟩ := pair
      obtain ⟨device, early, late, split, member, apart⟩ := firstShared?_eq_some shared
      have low : Above devices start device above := upward.mp (by simp [split])
      have high := downward.mp member
      refine .inr ⟨above, below, rfl, ⟨device, above, below, low, high, rfl⟩, ?_⟩
      rintro total ⟨other, far, deep, lowOther, highOther, rfl⟩
      have listed := upward.mpr lowOther
      rw [split, List.mem_append, List.mem_cons] at listed
      rcases listed with before | same | behind
      · exact absurd (downward.mpr highOther) (apart _ before _)
      · cases same
        rw [highOther.unique straight high]
      · have order := up.upward
        rw [split, List.pairwise_append, List.pairwise_cons] at order
        obtain ⟨way, between, rfl⟩ := order.2.1.1 _ behind
        rw [highOther.unique straight (high.trans between)]
        dsimp only
        omega

theorem pathLatency_cases (unrepeated : Unrepeated devices start)
    (straight : Unrepeated devices target) :
    (¬LatenciesFit devices start target ∧
        pathLatency devices start target = .error .overflow) ∨
      LatenciesFit devices start target ∧
        ((pathLatency devices start target = .ok none ∧
            sharedTotals devices start target = ∅) ∨
          ∃ latency, pathLatency devices start target = .ok (some latency) ∧
            IsLeast (sharedTotals devices start target) latency) := by
  unfold pathLatency
  rcases ancestry_cases unrepeated with
    ⟨left, climbed, up, upward⟩ | ⟨climbed, device, way, above, exceeds⟩
  · rcases ancestry_cases straight with
      ⟨right, descended, down, downward⟩ | ⟨descended, device, way, above, exceeds⟩
    · rw [climbed, descended]
      rcases firstShared?_cases straight up down with
        ⟨apart, none⟩ | ⟨above, below, shared, least⟩
      · refine .inr ⟨⟨upward, downward, by simp [none]⟩, .inl ⟨?_, none⟩⟩
        simp [bind, Except.bind, apart]
      · by_cases fits : above + below ≤ largest
        · refine .inr ⟨⟨upward, downward, fun _ _ => ⟨_, least.1, fits⟩⟩, .inr ⟨_, ?_, least⟩⟩
          simp [bind, Except.bind, shared, sum?, fits]
        · refine .inl ⟨fun fit => ?_, ?_⟩
          · obtain ⟨total, member, small⟩ := fit.shared _ least.1
            exact fits ((least.2 member).trans small)
          · simp [bind, Except.bind, shared, sum?, fits]
    · rw [climbed, descended]
      exact .inl ⟨fun fit => absurd (fit.downward device way above) (by omega), rfl⟩
  · rw [climbed]
    exact .inl ⟨fun fit => absurd (fit.upward device way above) (by omega), rfl⟩

end Meeting

/-- Every climb comes to its end, wherever the uplinks lead. If neither chain of uplinks comes back
to a device, the latency between two devices is that of the shortest way by an ancestor that they
share, in both directions, and there is none if they share no ancestor. It is known if the latencies
fit. -/
theorem pathLatency_least_shared (devices : Devices) :
    (∀ device, Ascent devices [device] device 0 (climb devices devices.size [device] device 0)) ∧
      ∀ start target, Unrepeated devices start → Unrepeated devices target →
        pathLatency devices start target = pathLatency devices target start ∧
        (LatenciesFit devices start target →
          ∃ latency?, pathLatency devices start target = .ok latency? ∧
            (latency?.isSome ↔ ∃ device above below, Above devices start device above ∧
              Above devices target device below) ∧
            ∀ latency, latency? = some latency →
              IsLeast (sharedTotals devices start target) latency) ∧
        (¬LatenciesFit devices start target →
          pathLatency devices start target = .error .overflow) := by
  refine ⟨climb_ends devices, fun start target unrepeated straight => ?_⟩
  have forward := pathLatency_cases unrepeated straight
  have backward := pathLatency_cases straight unrepeated
  refine ⟨?_, fun fit => ?_, fun unfit => ?_⟩
  · rcases forward with ⟨unfit, failed⟩ | ⟨fit, found⟩
    · rcases backward with ⟨_, again⟩ | ⟨fit, _⟩
      · rw [failed, again]
      · exact absurd fit.symm unfit
    · rcases backward with ⟨unfit, _⟩ | ⟨_, back⟩
      · exact absurd fit.symm unfit
      · rw [sharedTotals_comm devices target start] at back
        rcases found with ⟨absent, none⟩ | ⟨latency, known, least⟩
        · rcases back with ⟨again, _⟩ | ⟨_, _, member, _⟩
          · rw [absent, again]
          · simp [none] at member
        · rcases back with ⟨_, none⟩ | ⟨other, again, same⟩
          · simp [none, IsLeast] at least
          · rw [known, again, least.unique same]
  · rcases forward with ⟨unfit, _⟩ | ⟨_, ⟨absent, none⟩ | ⟨latency, known, least⟩⟩
    · exact absurd fit unfit
    · refine ⟨Option.none, absent, ?_, by simp⟩
      simp only [Option.isSome_none, Bool.false_eq_true, false_iff]
      rintro ⟨device, above, below, up, down⟩
      exact Set.eq_empty_iff_forall_notMem.mp none _ ⟨device, above, below, up, down, rfl⟩
    · obtain ⟨device, above, below, up, down, _⟩ := least.1
      refine ⟨some latency, known, iff_of_true rfl ⟨device, above, below, up, down⟩, ?_⟩
      rintro _ ⟨⟩
      exact least
  · rcases forward with ⟨_, failed⟩ | ⟨fit, _⟩
    · exact failed
    · exact absurd fit unfit

namespace Demo

def cabin (number : Nat) (parents : List ParentLink) : DeviceId × Device :=
  (⟨number⟩, .recorder { Recorder.named ⟨number⟩ "cabin" with links := ⟨parents, .empty⟩ })

/-- The first cabin is linked to a stranger. The last one declares a second link, which is no way
up. -/
def slope : Devices :=
  .ofList [cabin 2 [⟨⟨1⟩, 9⟩], cabin 3 [⟨⟨2⟩, 4⟩], cabin 4 [⟨⟨3⟩, 0⟩], cabin 5 [⟨⟨3⟩, 6⟩, ⟨⟨4⟩, 1⟩]]

def circuit : Devices := .ofList [cabin 1 [⟨⟨2⟩, 3⟩], cabin 2 [⟨⟨1⟩, 4⟩]]

end Demo

theorem pathLatency_least_shared_slope :
    Ascent Demo.circuit [⟨2⟩] ⟨2⟩ 0 (.ok [(⟨1⟩, 4)]) ∧
      Unrepeated Demo.slope ⟨4⟩ ∧ Unrepeated Demo.slope ⟨5⟩ ∧ LatenciesFit Demo.slope ⟨4⟩ ⟨5⟩ ∧
      pathLatency Demo.slope ⟨5⟩ ⟨4⟩ = .ok (some 6) ∧
      IsLeast (sharedTotals Demo.slope ⟨4⟩ ⟨5⟩) 6 ∧
      Unrepeated Demo.slope ⟨1⟩ ∧ pathLatency Demo.slope ⟨2⟩ ⟨1⟩ = .ok none := by
  have falls : ∀ entry ∈ Demo.slope.entries, ∀ link,
      entry.2.links.uplink? = some link → link.parent.number < entry.1.number := by decide
  have straight := unrepeated_of_falls falls
  obtain ⟨mirrored, found, lost⟩ :=
    (pathLatency_least_shared Demo.slope).2 ⟨4⟩ ⟨5⟩ (straight _) (straight _)
  have computed : pathLatency Demo.slope ⟨4⟩ ⟨5⟩ = .ok (some 6) := by decide
  have fit : LatenciesFit Demo.slope ⟨4⟩ ⟨5⟩ := by
    by_contra unfit
    simp [lost unfit] at computed
  obtain ⟨latency?, known, _, least⟩ := found fit
  obtain rfl : latency? = some 6 := Except.ok.inj (known.symm.trans computed)
  refine ⟨(pathLatency_least_shared Demo.circuit).1 ⟨2⟩, straight _, straight _, fit,
    mirrored ▸ computed, least 6 rfl, straight _, by decide⟩

end FogNetwork
