import FogNetwork.Proofs.Conservation
import FogNetwork.Proofs.Mappings
import FogNetwork.Proofs.Runs

/-! Which figures stand in a report under a name that several devices or several loops have. -/

namespace FogNetwork

namespace Orchestrator

variable {orchestrator : Orchestrator} {context : Context} {snapshot : Snapshot}

theorem figures_energy (taken : (orchestrator.figures context).outcome = .ok snapshot)
    {id : DeviceId} {device : Device} (known : orchestrator.devices.get? id = some device)
    (greatest : ∀ other later, orchestrator.devices.get? other = some later →
      later.name = device.name → other.number ≤ id.number) :
    snapshot.energyPerDevice.get? device.name = some device.energy := by
  have entered : snapshot.energyPerDevice =
      .ofList (orchestrator.devices.values.map fun device => (device.name, device.energy)) := by
    rcases figures_cases taken with ⟨_, rfl⟩ | ⟨_, _, _, rfl⟩
    · rfl
    · rfl
  rw [entered]
  exact SortedMap.get?_ofList_values Device.name Device.energy known fun other later found same =>
    Identifier.isLE_compare.mpr (greatest other later found same)

variable {held : Submission} {path : LoopPath} {front back : List LoopPath}

theorem figures_loops (taken : (orchestrator.figures context).outcome = .ok snapshot)
    (active : orchestrator.active = some held) :
    snapshot.loopsOnTime = .ofList (held.application.loops.map fun path =>
        (path.name, (context.timings.loopTiming? path.id).elim 0 (·.onTime))) ∧
      snapshot.latencyPerLoop = .ofList (held.application.loops.filterMap fun path =>
        (context.timings.loopAverage? path.id).map fun average => (path.name, average.mean)) := by
  rcases figures_cases taken with ⟨inactive, _⟩ | ⟨other, _, holds, rfl⟩
  · rw [active] at inactive
    cases inactive
  · rw [active, Option.some.injEq] at holds
    subst holds
    exact ⟨rfl, rfl⟩

theorem figures_onTime (taken : (orchestrator.figures context).outcome = .ok snapshot)
    (active : orchestrator.active = some held)
    (split : held.application.loops = front ++ path :: back)
    (last : ∀ other ∈ back, other.name ≠ path.name) :
    snapshot.loopsOnTime.get? path.name =
      some ((context.timings.loopTiming? path.id).elim 0 (·.onTime)) := by
  rw [(figures_loops taken active).1, split, List.map_append, List.map_cons]
  refine SortedMap.get?_ofList_split fun entry member => ?_
  obtain ⟨other, later, rfl⟩ := List.mem_map.mp member
  exact last other later

theorem figures_latency (taken : (orchestrator.figures context).outcome = .ok snapshot)
    (active : orchestrator.active = some held)
    (split : held.application.loops = front ++ path :: back) {average : Average}
    (sampled : context.timings.loopAverage? path.id = some average)
    (last : ∀ other ∈ back, other.name = path.name →
      context.timings.loopAverage? other.id = none) :
    snapshot.latencyPerLoop.get? path.name = some average.mean := by
  rw [(figures_loops taken active).2, split, List.filterMap_append,
    List.filterMap_cons_some (by rw [sampled]; rfl)]
  refine SortedMap.get?_ofList_split fun entry member same => ?_
  obtain ⟨other, later, mean⟩ := List.mem_filterMap.mp member
  obtain ⟨_, found, rfl⟩ := Option.map_eq_some_iff.mp mean
  rw [last other later same] at found
  cases found

theorem figures_unsampled (taken : (orchestrator.figures context).outcome = .ok snapshot)
    (active : orchestrator.active = some held) {name : String} :
    snapshot.latencyPerLoop.get? name = none ↔ ∀ path ∈ held.application.loops,
      path.name = name → context.timings.loopAverage? path.id = none := by
  rw [(figures_loops taken active).2, SortedMap.get?_ofList_eq_none_iff]
  constructor
  · intro absent path listed same
    cases sampled : context.timings.loopAverage? path.id with
    | none => rfl
    | some average =>
        exact absurd same (absent (path.name, average.mean)
          (List.mem_filterMap.mpr ⟨path, listed, by rw [sampled]; rfl⟩))
  · intro silent entry member same
    obtain ⟨path, listed, mean⟩ := List.mem_filterMap.mp member
    obtain ⟨_, found, rfl⟩ := Option.map_eq_some_iff.mp mean
    rw [silent path listed same] at found
    cases found

end Orchestrator

namespace Scenario

variable {started ended : Scenario} {turns : List Turn} {figures : Snapshot}

theorem Reached.figures_stand (fresh : started.orchestrator.snapshot = none)
    (reached : started.Reached turns ended)
    (taken : ended.orchestrator.snapshot = some figures) :
    ∃ context, context.timings = ended.simulation.context.timings ∧
      (ended.orchestrator.figures context).outcome = .ok figures := by
  refine (reached.keeps (motive := fun _ scenario =>
    ∀ figures, scenario.orchestrator.snapshot = some figures →
      scenario.simulation.context.halted = true ∧
      ∃ context, context.timings = scenario.simulation.context.timings ∧
        (scenario.orchestrator.figures context).outcome = .ok figures)
    (by simp [fresh]) ?_ figures taken).2
  intro _ before event after begun reacted earlier dispatches figures taken
  have untaken : before.orchestrator.snapshot = none := by
    cases early : before.orchestrator.snapshot with
    | none => rfl
    | some old =>
        have halted := (earlier old early).1
        rw [dispatches.running] at halted
        cases halted
  by_cases stops : event.payload = .stop
  · obtain ⟨rfl, own, made, next⟩ := Orchestrator.stop_ends_of_fresh untaken
      (Orchestrator.handle_of_stop stops dispatches.reacts)
    rw [next, Option.some.injEq] at taken
    subst taken
    refine ⟨by rw [dispatches.context]; rfl, _, dispatches.after_timings.symm, ?_⟩
    rw [next]
    exact made
  · rw [dispatches.reaction.snapshot_eq stops, untaken] at taken
    cases taken

/-- At the end of a run the figures are found under names. Where several devices have a name it is
the one with the greatest identifier that is found, and where several loops have it, the one that
was declared last; for the mean, the last of those that came around at all. There is no mean only
where none of them did. -/
theorem figures_under_names (fresh : started.orchestrator.snapshot = none)
    (reached : started.Reached turns ended)
    (taken : ended.orchestrator.snapshot = some figures) :
    let timings := ended.simulation.context.timings
    (∀ id device, ended.orchestrator.devices.get? id = some device →
      (∀ other later, ended.orchestrator.devices.get? other = some later →
        later.name = device.name → other.number ≤ id.number) →
      figures.energyPerDevice.get? device.name = some device.energy) ∧
    ∀ held, ended.orchestrator.active = some held →
      (∀ front path back, held.application.loops = front ++ path :: back →
        ((∀ other ∈ back, other.name ≠ path.name) →
          figures.loopsOnTime.get? path.name =
            some ((timings.loopTiming? path.id).elim 0 (·.onTime))) ∧
        ∀ average, timings.loopAverage? path.id = some average →
          (∀ other ∈ back, other.name = path.name → timings.loopAverage? other.id = none) →
            figures.latencyPerLoop.get? path.name = some average.mean) ∧
      ∀ name, figures.latencyPerLoop.get? name = none ↔
        ∀ path ∈ held.application.loops, path.name = name →
          timings.loopAverage? path.id = none := by
  obtain ⟨context, same, made⟩ := reached.figures_stand fresh taken
  dsimp only
  rw [← same]
  refine ⟨fun _ _ known greatest => Orchestrator.figures_energy made known greatest,
    fun held active => ⟨fun front path back split => ⟨?_, ?_⟩, fun name => ?_⟩⟩
  · exact Orchestrator.figures_onTime made active split
  · exact fun average sampled => Orchestrator.figures_latency made active split sampled
  · exact Orchestrator.figures_unsampled made active

end Scenario

namespace Demo

def cellarApplication : Application :=
  (Application.named "cellar").declareAll
    [.module "m->k" 10, .module "k" 10,
      .edge { Edge.between "S" "m->k" "S" .sensor with cpuLength := 1000 },
      .edge { Edge.between "S->m" "k" "S->m" .sensor with cpuLength := 3000 },
      .edge (.between "S->m->k" "k" "REST" .sensor),
      .loop ["S", "m->k"], .loop ["S->m", "k"], .loop ["S->m->k"], .deadline ⟨0⟩ 100.0]

def cellar : Blueprint :=
  { Blueprint.empty with
    config := ⟨50, 45⟩
    devices := [.recorder { Recorder.named ⟨0⟩ "node" with energy := 5.0 }]
    relays := [.named ⟨1⟩ "node"]
    sensors := [((Sensor.named ⟨0⟩ "left" "S" "cellar").every 20).attachedTo ⟨1⟩ 1,
      ((Sensor.named ⟨1⟩ "right" "S->m" "cellar").every 23).attachedTo ⟨1⟩ 1]
    mapped := some ⟨cellarApplication,
      (Mapping.empty.add "node" "m->k").add "node" "k", 0⟩ }

def overwritten (figures : Snapshot) (ended : Scenario) : Bool :=
  let timings := ended.simulation.context.timings
  (ended.orchestrator.devices.get? ⟨0⟩).any (fun device =>
    decide (figures.energyPerDevice.get? device.name ≠ some device.energy)) &&
  ended.orchestrator.active.any fun held =>
    (held.application.loops.any fun path =>
      decide (figures.loopsOnTime.get? path.name ≠
        some ((timings.loopTiming? path.id).elim 0 (·.onTime))) &&
      (timings.loopAverage? path.id).any fun average =>
        decide (figures.latencyPerLoop.get? path.name ≠ some average.mean)) &&
    held.application.loops.any fun path =>
      (timings.loopAverage? path.id).isNone &&
        (figures.latencyPerLoop.get? path.name).isSome

theorem cellar_finishes : ∃ built figures ended,
    cellar.build.outcome = .ok (.ok built) ∧ built.run.outcome = .ok (.ok figures, ended) ∧
      overwritten figures ended = true ∧
      ended.orchestrator.devices.entries.map (fun entry => (entry.1.number, entry.2.name)) =
        [(0, "node"), (1, "node")] ∧
      ended.orchestrator.active.map (·.application.loops.map (·.id.number)) = some [0, 1, 2] := by
  have finishes : (cellar.after? []).any (fun built => built.finish?.any fun finished =>
      overwritten finished.1 finished.2 &&
      decide (finished.2.orchestrator.devices.entries.map
        (fun entry => (entry.1.number, entry.2.name)) = [(0, "node"), (1, "node")]) &&
      decide (finished.2.orchestrator.active.map (·.application.loops.map (·.id.number)) =
        some [0, 1, 2])) = true := by
    decide +kernel
  obtain ⟨scenario, left, finishes⟩ := (Option.any_eq_true _ _).mp finishes
  obtain ⟨built, builds, same⟩ := Blueprint.after?_eq_some left
  cases same
  obtain ⟨figures, ended, ran, passed⟩ := Scenario.finishes_of_any finishes
  simp only [Bool.and_eq_true, decide_eq_true_eq] at passed
  exact ⟨_, figures, ended, builds, ran, passed.1.1, passed.1.2, passed.2⟩

/-- The meter loses its energy to the node, the first loop what is known of it to the others, and
the last, which has never come around, is found with a mean. -/
theorem cellar_overwritten : ∃ built figures ended device held first average silent,
    cellar.build.outcome = .ok (.ok built) ∧ built.run.outcome = .ok (.ok figures, ended) ∧
      ended.orchestrator.snapshot = some figures ∧
      ended.orchestrator.devices.get? ⟨0⟩ = some device ∧
      figures.energyPerDevice.get? device.name ≠ some device.energy ∧
      ended.orchestrator.active = some held ∧ first ∈ held.application.loops ∧
      figures.loopsOnTime.get? first.name ≠
        some ((ended.simulation.context.timings.loopTiming? first.id).elim 0 (·.onTime)) ∧
      ended.simulation.context.timings.loopAverage? first.id = some average ∧
      figures.latencyPerLoop.get? first.name ≠ some average.mean ∧
      silent ∈ held.application.loops ∧
      ended.simulation.context.timings.loopAverage? silent.id = none ∧
      figures.latencyPerLoop.get? silent.name ≠ none := by
  obtain ⟨built, figures, ended, builds, ran, lost, _⟩ := cellar_finishes
  obtain ⟨_, _, _, _, taken⟩ := Scenario.run_course ran
  simp only [overwritten, Bool.and_eq_true, Option.any_eq_true, List.any_eq_true,
    decide_eq_true_eq, Option.isNone_iff_eq_none, Option.isSome_iff_ne_none] at lost
  obtain ⟨⟨device, known, energy⟩, held, active, ⟨first, listed, onTime, average, sampled, mean⟩,
    silent, declared, unsampled, found⟩ := lost
  exact ⟨built, figures, ended, device, held, first, average, silent, builds, ran, taken, known,
    energy, active, listed, onTime, sampled, mean, declared, unsampled, found⟩

end Demo

theorem Scenario.figures_under_names_cellar : ∃ built figures ended node held last,
    Demo.cellar.build.outcome = .ok (.ok built) ∧ built.run.outcome = .ok (.ok figures, ended) ∧
      ended.orchestrator.devices.get? ⟨1⟩ = some node ∧
      figures.energyPerDevice.get? node.name = some node.energy ∧
      ended.orchestrator.active = some held ∧ last ∈ held.application.loops ∧ last.id = ⟨2⟩ ∧
      figures.loopsOnTime.get? last.name =
        some ((ended.simulation.context.timings.loopTiming? last.id).elim 0 (·.onTime)) := by
  obtain ⟨built, figures, ended, builds, ran, _, devices, loops⟩ := Demo.cellar_finishes
  obtain ⟨started, turns, starts, reached, taken⟩ := Scenario.run_course ran
  have fresh : started.orchestrator.snapshot = none := by
    obtain ⟨_, unstarted⟩ := Blueprint.build_initial builds
    have idle : built.isStarted = false := by
      simp [Scenario.isStarted, Orchestrator.isStarted, unstarted]
    rw [(Orchestrator.start_figures (Scenario.start_outcome idle starts).1).1]
    exact (Blueprint.build_settings builds).2.1
  obtain ⟨energies, times⟩ := Scenario.figures_under_names fresh reached taken
  obtain ⟨held, active, numbers⟩ := Option.map_eq_some_iff.mp loops
  obtain ⟨front, rest, split, _, final⟩ := List.map_eq_append_iff.mp
    (show held.application.loops.map (·.id.number) = [0, 1] ++ [2] from numbers)
  obtain ⟨last, rfl, own⟩ := List.map_eq_singleton_iff.mp final
  obtain ⟨before, others, entries, _, final⟩ := List.map_eq_append_iff.mp
    (show ended.orchestrator.devices.entries.map _ = [(0, "node")] ++ [(1, "node")] from devices)
  obtain ⟨⟨id, node⟩, rfl, same⟩ := List.map_eq_singleton_iff.mp final
  obtain rfl : id = ⟨1⟩ := Identifier.ext (Prod.mk.inj same).1
  have known : ended.orchestrator.devices.get? ⟨1⟩ = some node :=
    SortedMap.get?_eq_some_iff.mpr (by rw [entries]; simp)
  have greatest : ∀ other later, ended.orchestrator.devices.get? other = some later →
      later.name = node.name → other.number ≤ 1 := by
    intro other later found _
    have member := List.mem_map_of_mem (f := fun entry : DeviceId × Device =>
      (entry.1.number, entry.2.name)) (SortedMap.get?_eq_some_iff.mp found)
    rw [devices] at member
    simp only [List.mem_cons, Prod.mk.injEq, List.not_mem_nil, or_false] at member
    omega
  refine ⟨built, figures, ended, node, held, last, builds, ran, known,
    energies ⟨1⟩ node known greatest, active, by rw [split]; simp, Identifier.ext own, ?_⟩
  exact ((times held active).1 front last [] split).1 (by simp)

end FogNetwork
