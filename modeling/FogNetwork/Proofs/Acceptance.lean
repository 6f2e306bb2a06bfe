import FogNetwork.Proofs.Mappings
import FogNetwork.Proofs.Starting

/-! Which blueprints are built, and where the modules of their applications go. The settings, the
identifiers, the names and the modules are looked at in this order, and each time only if all was
well before. -/

namespace FogNetwork

theorem Config.validate_eq_ok_iff {config : Config} :
    config.validate = .ok () ↔ 0 < config.controlInterval ∧ 0 < config.runLength := by
  refine ⟨fun valid => ?_, fun positive => validate_eq_ok positive.1 positive.2⟩
  unfold validate at valid
  split at valid
  · cases valid
  · split at valid
    · cases valid
    · constructor <;> omega

namespace Blueprint

variable {blueprint : Blueprint} {mapped : MappedApplication} {built : Scenario}

structure Acceptable (blueprint : Blueprint) : Prop where
  interval : 0 < blueprint.config.controlInterval
  length : 0 < blueprint.config.runLength
  distinct : (blueprint.parts.map Device.id).Nodup
  named : ∀ mapped, blueprint.mapped = some mapped → ∀ name ∈ mapped.mapping.assignments.keys,
    ∃ device ∈ blueprint.parts, device.name = name
  covers : ∀ mapped, blueprint.mapped = some mapped → ∀ name,
    (∃ device, name ∈ mapped.mapping.modulesUnder device) ↔ name ∈ mapped.application.moduleNames

def enrolled (blueprint : Blueprint) : Orchestrator :=
  (blueprint.fresh.enroll ⟨blueprint.parts, blueprint.sensors, blueprint.actuators⟩).2

/-- The wiring of a blueprint is reached and comes upon a latency that cannot be counted. -/
inductive Overflows (blueprint : Blueprint) : Prop
  | wiring {mapped : MappedApplication} {placement : Placement}
      (valid : blueprint.config.validate = .ok ())
      (distinct : (blueprint.parts.map Device.id).Nodup) (some : blueprint.mapped = some mapped)
      (resolved : mapped.mapping.resolve blueprint.enrolled.devices = .ok placement)
      (fails : (FogNetwork.wiring blueprint.enrolled.devices placement blueprint.actuatorLinks
        (blueprint.relays.map (·.id))).outcome = .error .overflow) :
      Overflows blueprint

theorem register_parts : ((Orchestrator.initial blueprint.config blueprint.exporter).register
    (blueprint.devices ++ blueprint.relays.map Device.relay) blueprint.sensors
    blueprint.actuators).value =
      blueprint.fresh.enroll ⟨blueprint.parts, blueprint.sensors, blueprint.actuators⟩ := by
  rfl

theorem unclaimed_parts (distinct : (blueprint.parts.map Device.id).Nodup) :
    Unclaimed blueprint.fresh.devices blueprint.parts where
  distinct := distinct
  free _ _ := rfl

theorem enroll_parts (distinct : (blueprint.parts.map Device.id).Nodup) :
    blueprint.fresh.enroll ⟨blueprint.parts, blueprint.sensors, blueprint.actuators⟩ =
      (.ok (), blueprint.enrolled) := by
  rw [enrolled, Orchestrator.enroll_of_unclaimed (unclaimed_parts distinct)]

theorem deviceNamed?_enrolled (distinct : (blueprint.parts.map Device.id).Nodup) (name : String) :
    deviceNamed? blueprint.enrolled.devices name =
      deviceNamed? (enterAll blueprint.parts .empty) name := by
  rw [enrolled, Orchestrator.enroll_of_unclaimed (unclaimed_parts distinct)]
  refine deviceNamed?_congr (connect_mapValues (fun _ device => ?_) _) name
  cases device with
  | relay | recorder => rfl

theorem resolve_enrolled_iff (distinct : (blueprint.parts.map Device.id).Nodup)
    {mapping : Mapping} {placement : Placement} :
    mapping.resolve blueprint.enrolled.devices = .ok placement ↔
      (∀ name ∈ mapping.assignments.keys, ∃ device ∈ blueprint.parts, device.name = name) ∧
        placement = .ofPairs (mapping.pairs blueprint.enrolled.devices) := by
  simp only [Mapping.resolve_eq_ok_iff, deviceNamed?_enrolled distinct,
    exists_deviceNamed?_iff distinct]

theorem admissible_enrolled_iff (distinct : (blueprint.parts.map Device.id).Nodup)
    {mapping : Mapping} {placement : Placement} {application : Application}
    (resolved : mapping.resolve blueprint.enrolled.devices = .ok placement) :
    blueprint.enrolled.Admissible application placement ↔
      ∀ name, (∃ device, name ∈ mapping.modulesUnder device) ↔ name ∈ application.moduleNames := by
  obtain ⟨known, rfl⟩ := Mapping.resolve_eq_ok_iff.mp resolved
  have fresh : blueprint.enrolled.startedAt = none ∧ blueprint.enrolled.active = none := by
    rw [enrolled, Orchestrator.enroll_of_unclaimed (unclaimed_parts distinct)]
    exact ⟨rfl, rfl⟩
  simp only [← Mapping.exists_modulesOn_iff known]
  refine ⟨fun admissible => admissible.covers, fun covers => ⟨⟨fresh.1, ?_⟩, covers, ?_⟩⟩
  · rw [fresh.2]
    exact nofun
  · exact fun _ hosts => Mapping.contains_of_mem_keys hosts

/-! The steps of building. -/

theorem build_of_distinct (valid : blueprint.config.validate = .ok ())
    (distinct : (blueprint.parts.map Device.id).Nodup) :
    blueprint.build.outcome =
      blueprint.mapped.elim (.ok (.ok (.ofOrchestrator blueprint.enrolled))) fun mapped =>
        (blueprint.install mapped blueprint.enrolled).outcome.map
          (·.map Scenario.ofOrchestrator) := by
  unfold build
  rw [valid]
  dsimp only
  rw [Run.outcome_bind, Run.outcome_lift, register_parts, enroll_parts distinct]
  dsimp only
  cases blueprint.mapped with
  | none => rfl
  | some mapped =>
      dsimp only
      rw [Run.outcome_bind, Option.elim_some]
      cases (blueprint.install mapped blueprint.enrolled).outcome <;> rfl

theorem build_of_shared (valid : blueprint.config.validate = .ok ())
    (shared : ¬(blueprint.parts.map Device.id).Nodup) :
    ∃ rejection, blueprint.build.outcome = .ok (.error rejection) := by
  rcases unclaimed_or_clashes blueprint.fresh.devices blueprint.parts with
    unclaimed | ⟨front, device, clashes⟩
  · exact absurd unclaimed.distinct shared
  · unfold build
    rw [valid]
    dsimp only
    rw [Run.outcome_bind, Run.outcome_lift, register_parts,
      Orchestrator.enroll_of_clashes clashes]
    exact ⟨_, rfl⟩

theorem install_of_wired {orchestrator : Orchestrator} {placement : Placement} {wires : List Wire}
    (resolved : mapped.mapping.resolve orchestrator.devices = .ok placement)
    (wired : (wiring orchestrator.devices placement blueprint.actuatorLinks
      (blueprint.relays.map (·.id))).outcome = .ok wires) :
    (blueprint.install mapped orchestrator).outcome =
      .ok ((orchestrator.submit mapped.application placement mapped.delay).value.1.map fun _ =>
        wires.foldl Orchestrator.applyWire
          (orchestrator.submit mapped.application placement mapped.delay).value.2) := by
  unfold install
  rw [resolved]
  dsimp only
  rw [Run.outcome_bind, wired]
  dsimp only
  rw [Run.outcome_bind, Run.outcome_lift]
  cases (orchestrator.submit mapped.application placement mapped.delay).value with
  | mk result submitted => cases result <;> rfl

theorem install_of_overflow {orchestrator : Orchestrator} {placement : Placement} {fault : Fault}
    (resolved : mapped.mapping.resolve orchestrator.devices = .ok placement)
    (fails : (wiring orchestrator.devices placement blueprint.actuatorLinks
      (blueprint.relays.map (·.id))).outcome = .error fault) :
    (blueprint.install mapped orchestrator).outcome = .error fault := by
  unfold install
  rw [resolved]
  dsimp only
  rw [Run.outcome_bind, fails]

theorem overflows_of_build {fault : Fault} (failed : blueprint.build.outcome = .error fault) :
    blueprint.Overflows := by
  cases valid : blueprint.config.validate with
  | error rejection =>
      unfold build at failed
      rw [valid] at failed
      cases failed
  | ok =>
      by_cases distinct : (blueprint.parts.map Device.id).Nodup
      · rw [build_of_distinct valid distinct] at failed
        cases some : blueprint.mapped with
        | none =>
            rw [some] at failed
            cases failed
        | some mapped =>
            cases resolved : mapped.mapping.resolve blueprint.enrolled.devices with
            | error rejection =>
                rw [some, Option.elim_some, install, resolved] at failed
                cases failed
            | ok placement =>
                cases wired : (wiring blueprint.enrolled.devices placement blueprint.actuatorLinks
                  (blueprint.relays.map (·.id))).outcome with
                | error fault =>
                    exact .wiring valid distinct some resolved (wiring_fault wired ▸ wired)
                | ok wires =>
                    rw [some, Option.elim_some, install_of_wired resolved wired] at failed
                    cases failed
      · obtain ⟨rejection, refused⟩ := build_of_shared valid distinct
        rw [refused] at failed
        cases failed

theorem build_of_overflows (overflows : blueprint.Overflows) :
    blueprint.build.outcome = .error .overflow := by
  obtain ⟨valid, distinct, some, resolved, fails⟩ := overflows
  rw [build_of_distinct valid distinct, some, Option.elim_some, install_of_overflow resolved fails]
  rfl

theorem build_of_acceptable (acceptable : blueprint.Acceptable) (counts : ¬blueprint.Overflows) :
    ∃ built, blueprint.build.outcome = .ok (.ok built) := by
  have valid := Config.validate_eq_ok acceptable.interval acceptable.length
  rw [build_of_distinct valid acceptable.distinct]
  cases some : blueprint.mapped with
  | none => exact ⟨_, rfl⟩
  | some mapped =>
      have resolved := (resolve_enrolled_iff acceptable.distinct).mpr
        ⟨acceptable.named mapped some, rfl⟩
      have admissible := (admissible_enrolled_iff acceptable.distinct resolved).mpr
        (acceptable.covers mapped some)
      cases wired : (wiring blueprint.enrolled.devices _ blueprint.actuatorLinks
          (blueprint.relays.map (·.id))).outcome with
      | error fault =>
          exact absurd (.wiring valid acceptable.distinct some resolved
            (wiring_fault wired ▸ wired)) counts
      | ok wires =>
          rw [Option.elim_some, install_of_wired resolved wired,
            Orchestrator.submit_of_admits admissible.admits]
          exact ⟨_, rfl⟩

theorem build_enrolled (builds : blueprint.build.outcome = .ok (.ok built)) :
    (blueprint.parts.map Device.id).Nodup ∧
      ∀ mapped, blueprint.mapped = some mapped → ∃ placement,
        mapped.mapping.resolve blueprint.enrolled.devices = .ok placement ∧
        blueprint.enrolled.Admissible mapped.application placement ∧
        built.orchestrator.placement = placement := by
  obtain ⟨registered, registers, rest⟩ := build_outcome builds
  have enrolls := register_parts.symm.trans registers
  have distinct : (blueprint.parts.map Device.id).Nodup :=
    (Orchestrator.exists_enroll_iff.mp ⟨registered, enrolls⟩).distinct
  rw [enroll_parts distinct] at enrolls
  cases enrolls
  refine ⟨distinct, fun mapped some => ?_⟩
  rcases rest with
    ⟨none, _⟩ | ⟨other, placement, wires, submitted, known, resolved, _, submits, rfl⟩
  · rw [some] at none
    cases none
  · rw [some, Option.some.injEq] at known
    subst known
    obtain ⟨admissible, rfl⟩ := Orchestrator.submit_eq_ok_iff.mp submits
    refine ⟨placement, resolved, admissible, ?_⟩
    obtain ⟨_, frame⟩ := Orchestrator.applyWires_frame wires
      (blueprint.enrolled.holding mapped.application placement mapped.delay)
    rw [Scenario.ofOrchestrator, Orchestrator.placement, frame]
    rfl

theorem acceptable_of_build (builds : blueprint.build.outcome = .ok (.ok built)) :
    blueprint.Acceptable := by
  obtain ⟨interval, length⟩ := Config.validate_eq_ok_iff.mp (config_valid builds)
  obtain ⟨distinct, submitted⟩ := build_enrolled builds
  refine ⟨interval, length, distinct, fun mapped some => ?_, fun mapped some => ?_⟩
  · obtain ⟨placement, resolved, _⟩ := submitted mapped some
    exact ((resolve_enrolled_iff distinct).mp resolved).1
  · obtain ⟨placement, resolved, admissible, _⟩ := submitted mapped some
    exact (admissible_enrolled_iff distinct resolved).mp admissible

theorem build_placed (builds : blueprint.build.outcome = .ok (.ok built))
    (some : blueprint.mapped = some mapped) (id : DeviceId) :
    (built.orchestrator.placement.modulesOn id).Nodup ∧
      ∀ name, name ∈ built.orchestrator.placement.modulesOn id ↔
        ∃ device, StandsFor blueprint.parts device id ∧
          name ∈ mapped.mapping.modulesUnder device := by
  obtain ⟨distinct, submitted⟩ := build_enrolled builds
  obtain ⟨placement, resolved, _, same⟩ := submitted mapped some
  obtain ⟨_, rfl⟩ := Mapping.resolve_eq_ok_iff.mp resolved
  obtain ⟨nodup, members⟩ :=
    Placement.modulesOn_ofPairs (mapped.mapping.pairs blueprint.enrolled.devices) id
  rw [same]
  refine ⟨nodup, fun name => (members name).trans ?_⟩
  simp only [Mapping.mem_pairs_iff, deviceNamed?_enrolled distinct, deviceNamed?_enterAll distinct]

theorem acceptable_allOn_iff {name : String} {application : Application} {delay : Nat}
    (valid : blueprint.config.validate = .ok ())
    (distinct : (blueprint.parts.map Device.id).Nodup)
    (mapped : blueprint.mapped = some ⟨application, .allOn name application, delay⟩)
    (filled : application.moduleNames ≠ []) :
    blueprint.Acceptable ↔ ∃ device ∈ blueprint.parts, device.name = name := by
  constructor
  · intro acceptable
    exact acceptable.named _ mapped name (Mapping.mem_keys_allOn.mpr ⟨filled, rfl⟩)
  · intro known
    obtain ⟨interval, length⟩ := Config.validate_eq_ok_iff.mp valid
    refine ⟨interval, length, distinct, ?_, ?_⟩
    · rintro _ own other listed
      rw [mapped, Option.some.injEq] at own
      subst own
      rw [(Mapping.mem_keys_allOn.mp listed).2]
      exact known
    · rintro _ own other
      rw [mapped, Option.some.injEq] at own
      subst own
      simp only [Mapping.mem_modulesUnder_allOn]
      exact ⟨fun claims => claims.choose_spec.2, fun listed => ⟨name, rfl, listed⟩⟩

/-- A blueprint is built just if its settings are positive, no two of its devices share an
identifier, and its mapping, if it has one, mentions only names of devices and the modules of the
application, all of them and nothing else. Whatever is mapped to a name goes to the device with the
greatest identifier of those that have the name, and there once only. All this holds as long as the
ways through the network can be counted; if they cannot, it is the only way to fail for good. -/
theorem build_accepts_iff (blueprint : Blueprint) :
    (∀ fault, blueprint.build.outcome = .error fault ↔
      fault = .overflow ∧ blueprint.Overflows) ∧
    (¬blueprint.Overflows →
      ((∃ built, blueprint.build.outcome = .ok (.ok built)) ↔ blueprint.Acceptable)) ∧
    (∀ built mapped, blueprint.build.outcome = .ok (.ok built) →
      blueprint.mapped = some mapped → ∀ id,
        (built.orchestrator.placement.modulesOn id).Nodup ∧
        ∀ name, name ∈ built.orchestrator.placement.modulesOn id ↔
          ∃ device, StandsFor blueprint.parts device id ∧
            name ∈ mapped.mapping.modulesUnder device) ∧
    ∀ name application delay, ¬blueprint.Overflows →
      0 < blueprint.config.controlInterval → 0 < blueprint.config.runLength →
      (blueprint.parts.map Device.id).Nodup → application.moduleNames ≠ [] →
      blueprint.mapped = some ⟨application, .allOn name application, delay⟩ →
        ((∃ built, blueprint.build.outcome = .ok (.ok built)) ↔
          ∃ device ∈ blueprint.parts, device.name = name) := by
  have accepts (counts : ¬blueprint.Overflows) :
      (∃ built, blueprint.build.outcome = .ok (.ok built)) ↔ blueprint.Acceptable := by
    refine ⟨?_, fun acceptable => build_of_acceptable acceptable counts⟩
    rintro ⟨_, builds⟩
    exact acceptable_of_build builds
  refine ⟨fun fault => ⟨fun failed => ?_, ?_⟩, accepts, ?_, ?_⟩
  · have overflows := overflows_of_build failed
    rw [build_of_overflows overflows] at failed
    exact ⟨(Except.error.inj failed).symm, overflows⟩
  · rintro ⟨rfl, overflows⟩
    exact build_of_overflows overflows
  · exact fun built mapped builds some => build_placed builds some
  · intro name application delay counts interval length distinct filled mapped
    exact (accepts counts).trans
      (acceptable_allOn_iff (Config.validate_eq_ok interval length) distinct mapped filled)

end Blueprint

namespace Demo

def mill : Application :=
  { Application.named "mill" with modules := [⟨"saw", 10, []⟩, ⟨"belt", 10, []⟩] }

/-- Two nodes have one name, and one module is mapped to that name twice. -/
def sawmill : Blueprint :=
  { Blueprint.empty with
    devices := [.recorder (.named ⟨1⟩ "log")]
    relays := [.named ⟨3⟩ "node", .named ⟨0⟩ "node"]
    mapped := some ⟨mill,
      (((Mapping.empty.add "node" "saw").add "log" "belt").add "node" "belt").add "node" "saw", 0⟩ }

end Demo

theorem Blueprint.build_accepts_iff_sawmill :
    Demo.sawmill.Acceptable ∧
      (∃ built, Demo.sawmill.build.outcome = .ok (.ok built) ∧
        "saw" ∈ built.orchestrator.placement.modulesOn ⟨3⟩ ∧
        "saw" ∉ built.orchestrator.placement.modulesOn ⟨0⟩ ∧
        (built.orchestrator.placement.modulesOn ⟨3⟩).Nodup) ∧
      ∃ device ∈ Demo.sawmill.parts, device.name = "log" := by
  obtain ⟨faults, accepts, placed, _⟩ := Demo.sawmill.build_accepts_iff
  obtain ⟨built, builds⟩ : ∃ built, Demo.sawmill.build.outcome = .ok (.ok built) := ⟨_, rfl⟩
  have counts : ¬Demo.sawmill.Overflows := by
    intro overflows
    have failed := (faults .overflow).mpr ⟨rfl, overflows⟩
    rw [builds] at failed
    cases failed
  have acceptable := (accepts counts).mp ⟨built, builds⟩
  obtain ⟨nodup, upper⟩ := placed built _ builds rfl ⟨3⟩
  obtain ⟨_, lower⟩ := placed built _ builds rfl ⟨0⟩
  have parts : Demo.sawmill.parts = [.recorder (.named ⟨1⟩ "log"), .relay (.named ⟨3⟩ "node"),
    .relay (.named ⟨0⟩ "node")] := rfl
  refine ⟨acceptable, ⟨built, builds, (upper "saw").mpr ⟨"node", ?_, by decide⟩, ?_, nodup⟩,
    acceptable.named _ rfl "log" (by decide)⟩
  · exact ⟨⟨.relay (.named ⟨3⟩ "node"), by simp [parts], rfl, rfl⟩,
      by simp [parts, Device.id, Device.name, Relay.named, Recorder.named]⟩
  · intro stays
    obtain ⟨name, ⟨⟨device, listed, rfl, own⟩, greatest⟩, _⟩ := (lower "saw").mp stays
    rw [parts] at listed greatest
    -- The only device with that identifier shares its name with one that has a greater one.
    have shared : device.name = "node" := by
      simp only [List.mem_cons, List.not_mem_nil, or_false] at listed
      rcases listed with rfl | rfl | rfl
      · cases own
      · rfl
      · rfl
    have most := greatest (.relay (.named ⟨3⟩ "node")) (by simp) shared.symm
    exact absurd most (by decide)

end FogNetwork
