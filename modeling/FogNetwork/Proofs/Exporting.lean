import FogNetwork.Proofs.Building
import FogNetwork.Proofs.Views

/-! Where the figures go makes no difference to a run: without a look at their exporters, scenarios
that were alike stay alike. -/

namespace FogNetwork

theorem Run.outcome_bind_map_congr {α α' β β' γ δ : Type} {left : Run α} {right : Run α'}
    {leftNext : α → Run β} {rightNext : α' → Run β'} {early : α → γ} {early' : α' → γ}
    {late : β → δ} {late' : β' → δ}
    (first : left.outcome.map early = right.outcome.map early')
    (next : ∀ middle other, early middle = early' other →
      (leftNext middle).outcome.map late = (rightNext other).outcome.map late') :
    (left >>= leftNext).outcome.map late = (right >>= rightNext).outcome.map late' := by
  rw [outcome_bind, outcome_bind]
  cases reached : left.outcome with
  | error fault =>
      rw [reached] at first
      cases other : right.outcome with
      | error fault' =>
          rw [other] at first
          cases first
          rfl
      | ok middle =>
          rw [other] at first
          cases first
  | ok middle =>
      rw [reached] at first
      cases other : right.outcome with
      | error fault =>
          rw [other] at first
          cases first
      | ok middle' =>
          rw [other] at first
          exact next middle middle' (Except.ok.inj first)

theorem Logged.value_map {α β : Type} (change : α → β) (logged : Logged α) :
    (change <$> logged).value = change logged.value := rfl

theorem Act.outcome_map {α β : Type} (act : Act α) (change : α → β) (begun : Context) :
    ((change <$> act).run begun).outcome =
      (act.run begun).outcome.map fun reached => (change reached.1, reached.2) := by
  rw [map_eq_pure_bind, StateT.run_bind, Run.outcome_bind]
  cases (act.run begun).outcome <;> rfl

theorem Act.Ends.outcome_bind {α β : Type} {first : Act α} {next : α → Act β} {value : α}
    {before between : Context} (ended : first.Ends before value between) :
    ((first >>= next).run before).outcome = ((next value).run between).outcome := by
  rw [StateT.run_bind, Run.outcome_bind, show (first.run before).outcome = _ from ended]

theorem Act.outcome_lift {α : Type} (run : Run α) (context : Context) :
    ((liftM run : Act α).run context).outcome = run.outcome.map fun value => (value, context) := by
  change (run >>= fun value => pure (value, context) : Run (α × Context)).outcome = _
  rw [Run.outcome_bind]
  cases run.outcome <;> rfl

namespace Orchestrator

variable {orchestrator : Orchestrator}

def muted (orchestrator : Orchestrator) : Orchestrator :=
  { orchestrator with exporter := .keeping }

theorem muted_aside : Aside muted where
  devices _ := rfl
  sensors _ := rfl
  actuators _ := rfl
  active _ := rfl
  withDevices _ _ := rfl
  withSensors _ _ := rfl
  withActuators _ _ := rfl

theorem control_muted (orchestrator : Orchestrator) :
    orchestrator.muted.control = muted <$> orchestrator.control := by
  unfold control
  rw [show orchestrator.muted.config = orchestrator.config from rfl,
    show orchestrator.muted.controlTicks = orchestrator.controlTicks from rfl]
  simp only [map_bind]
  congr 1
  funext now
  congr 1
  funext done
  cases now.after? orchestrator.config.controlInterval with
  | none =>
      simp only [map_bind, map_pure]
      rfl
  | some time =>
      simp only [map_bind, map_pure]
      rfl

theorem stop_outcome (fresh : orchestrator.snapshot = none) (begun : Context) :
    (orchestrator.stop.run begun).outcome =
      (orchestrator.figures { begun with halted := true }).outcome.map fun figures =>
        ({ orchestrator with
            exporter := (orchestrator.exporter.handOver figures).2
            snapshot := some figures },
          { begun with halted := true }) := by
  have terminates : Act.terminate.Ends begun () { begun with halted := true } := rfl
  have looks (context : Context) : (get : Act Context).Ends context context context := rfl
  rw [stop, if_neg (by simp [fresh]), terminates.outcome_bind, (looks _).outcome_bind,
    StateT.run_bind, Run.outcome_bind, Act.outcome_lift]
  cases (orchestrator.figures { begun with halted := true }).outcome with
  | error fault => rfl
  | ok figures =>
      dsimp only [Except.map, Exporter.handOver]
      cases orchestrator.exporter.deliver orchestrator.exporter.received figures <;> rfl

theorem stop_muted (orchestrator : Orchestrator) (begun : Context) :
    (orchestrator.stop.run begun).outcome.map (fun reached => (reached.1.muted, reached.2)) =
      (orchestrator.muted.stop.run begun).outcome.map fun reached => (reached.1.muted, reached.2) := by
  cases fresh : orchestrator.snapshot with
  | some figures =>
      rw [stop, stop, if_pos (by simp [fresh]), if_pos (by simp [muted, fresh])]
      rfl
  | none =>
      have freshToo : orchestrator.muted.snapshot = none := fresh
      rw [stop_outcome fresh, stop_outcome freshToo,
        show orchestrator.muted.figures = orchestrator.figures from rfl]
      cases (orchestrator.figures { begun with halted := true }).outcome <;> rfl

theorem muted_shadows : Simulation.Shadows muted handle fun event orchestrator =>
    muted <$> orchestrator.handle event := by
  intro event orchestrator begun
  rw [Act.outcome_map]
  by_cases stops : event.payload = .stop
  · obtain ⟨id, time, payload⟩ := event
    obtain rfl : payload = .stop := stops
    exact orchestrator.stop_muted begun
  · rw [muted_aside.handle stops fun _ => orchestrator.control_muted, Act.outcome_map]
    cases ((orchestrator.handle event).run begun).outcome <;> rfl

theorem start_muted (orchestrator : Orchestrator) :
    orchestrator.muted.start =
      (fun reached : Except Rejection Unit × Orchestrator => (reached.1, reached.2.muted)) <$>
        orchestrator.start := by
  unfold start
  rw [map_bind]
  congr 1
  funext now
  rw [show orchestrator.muted.readyAt now = orchestrator.readyAt now from rfl]
  cases orchestrator.readyAt now with
  | error rejection => simp only [map_pure]
  | ok =>
      simp only [map_bind, map_pure]
      rfl

end Orchestrator

namespace Scenario

variable {left right started after : Scenario} {turns : List Turn}

def muted (scenario : Scenario) : Scenario :=
  { scenario with orchestrator := scenario.orchestrator.muted }

theorem start_muted (scenario : Scenario) :
    scenario.muted.start.outcome =
      scenario.start.outcome.map fun reached => (reached.1, reached.2.muted) := by
  unfold start
  rw [show scenario.muted.isStarted = scenario.isStarted from rfl]
  split
  · rfl
  · rw [Run.outcome_bind, Run.outcome_bind]
    unfold Simulation.perform
    rw [Run.outcome_bind, Run.outcome_bind,
      show scenario.muted.orchestrator.start = scenario.orchestrator.muted.start from rfl,
      show scenario.muted.simulation = scenario.simulation from rfl, Orchestrator.start_muted,
      Act.outcome_map]
    cases (scenario.orchestrator.start.run scenario.simulation.context).outcome <;> rfl

/-- One scenario takes the turns of another, and is in the same states then but for its exporter. -/
def Replays (left right : Scenario) : Prop :=
  ∀ started turns scenario, right.Begun started turns scenario →
    ∃ startedToo turnsToo scenarioToo, left.Begun startedToo turnsToo scenarioToo ∧
      turnsToo.map (·.event) = turns.map (·.event) ∧ scenarioToo.muted = scenario.muted

theorem simulation_eq_of_muted (same : left.muted = right.muted) :
    left.simulation = right.simulation :=
  (congrArg Scenario.simulation same :)

theorem orchestrator_muted_eq (same : left.muted = right.muted) :
    left.orchestrator.muted = right.orchestrator.muted :=
  (congrArg Scenario.orchestrator same :)

theorem step_replayed {event : Event} (same : left.muted = right.muted)
    (stepped : (right.simulation.step Orchestrator.handle right.orchestrator).outcome =
      .ok (some event, after.simulation, after.orchestrator)) :
    ∃ afterToo : Scenario,
      (left.simulation.step Orchestrator.handle left.orchestrator).outcome =
        .ok (some event, afterToo.simulation, afterToo.orchestrator) ∧
      afterToo.muted = after.muted := by
  have steps := Orchestrator.muted_shadows.step left.simulation left.orchestrator
  rw [simulation_eq_of_muted same, orchestrator_muted_eq same,
    ← Orchestrator.muted_shadows.step right.simulation right.orchestrator, stepped,
    ← simulation_eq_of_muted same] at steps
  cases taken : (left.simulation.step Orchestrator.handle left.orchestrator).outcome with
  | error fault =>
      rw [taken] at steps
      cases steps
  | ok reached =>
      obtain ⟨event?, simulation, orchestrator⟩ := reached
      rw [taken] at steps
      have level := Except.ok.inj steps
      simp only [Prod.mk.injEq] at level
      obtain ⟨rfl, rfl, muted⟩ := level
      exact ⟨⟨after.simulation, orchestrator⟩, rfl, congrArg (Scenario.mk after.simulation) muted⟩

theorem Reached.replayed (same : left.muted = right.muted) (reached : right.Reached turns after) :
    ∃ turnsToo afterToo, left.Reached turnsToo afterToo ∧
      turnsToo.map (·.event) = turns.map (·.event) ∧ afterToo.muted = after.muted := by
  induction reached with
  | start => exact ⟨[], left, .start, rfl, same⟩
  | turn _ stepped ih =>
      obtain ⟨turnsToo, beforeToo, reachedToo, events, level⟩ := ih
      obtain ⟨afterToo, steppedToo, levelToo⟩ := step_replayed level stepped
      exact ⟨_, afterToo, reachedToo.turn steppedToo, by simp [events], levelToo⟩

theorem replays_of_muted (same : left.muted = right.muted) : left.Replays right := by
  rintro started turns scenario (⟨rfl, rfl, rfl⟩ | ⟨starts, reached⟩)
  · exact ⟨left, [], left, .inl ⟨rfl, rfl, rfl⟩, rfl, same⟩
  · have startsToo := left.start_muted
    rw [same, right.start_muted, starts] at startsToo
    cases started' : left.start.outcome with
    | error fault =>
        rw [started'] at startsToo
        cases startsToo
    | ok begun =>
        obtain ⟨result, startedToo⟩ := begun
        rw [started'] at startsToo
        have level := Except.ok.inj startsToo
        simp only [Prod.mk.injEq] at level
        obtain ⟨rfl, level⟩ := level
        obtain ⟨turnsToo, scenarioToo, reachedToo, events, levelToo⟩ := reached.replayed level.symm
        exact ⟨startedToo, turnsToo, scenarioToo, .inr ⟨started', reachedToo⟩, events, levelToo⟩

theorem run_of_muted (same : left.muted = right.muted) :
    left.run.outcome.map (fun reached => (reached.1, reached.2.muted)) =
      right.run.outcome.map fun reached => (reached.1, reached.2.muted) := by
  have starts : left.start.outcome.map (fun reached => (reached.1, reached.2.muted)) =
      right.start.outcome.map fun reached => (reached.1, reached.2.muted) := by
    rw [← left.start_muted, ← right.start_muted, same]
  refine Run.outcome_bind_map_congr starts ?_
  rintro ⟨result, leftStarted⟩ ⟨resultToo, rightStarted⟩ level
  simp only [Prod.mk.injEq] at level
  obtain ⟨rfl, level⟩ := level
  cases result with
  | error rejection =>
      exact congrArg (fun scenario => Except.ok (Except.error rejection, scenario)) level
  | ok =>
      obtain ⟨simulation, begun⟩ := leftStarted
      obtain ⟨_, begunToo⟩ := rightStarted
      obtain rfl := simulation_eq_of_muted level
      have runs := Orchestrator.muted_shadows.runFor (largest + 1) simulation
      have ran := runs begun
      rw [orchestrator_muted_eq level, ← runs begunToo] at ran
      refine Run.outcome_bind_map_congr ran ?_
      rintro ⟨count, simulation, orchestrator⟩ ⟨_, _, orchestratorToo⟩ level
      simp only [Prod.mk.injEq] at level
      obtain ⟨rfl, rfl, level⟩ := level
      change Except.ok (orchestrator.muted.snapshot?, Scenario.mk simulation orchestrator.muted) = _
      rw [level]
      rfl

end Scenario

/-! A scenario is built alike wherever its figures are to go. -/

namespace Orchestrator

theorem register_muted (devices : List Device) (sensors : List Sensor) (actuators : List Actuator)
    (orchestrator : Orchestrator) :
    orchestrator.muted.register devices sensors actuators =
      (fun reached : Except Rejection Unit × Orchestrator => (reached.1, reached.2.muted)) <$>
        orchestrator.register devices sensors actuators := by
  unfold register
  rw [show orchestrator.muted.devices = orchestrator.devices from rfl]
  obtain ⟨result, entered⟩ := enterDevices devices orchestrator.devices
  cases result with
  | error rejection => rfl
  | ok =>
      simp only [map_bind, map_pure]
      rfl

theorem submit_muted (application : Application) (placement : Placement) (delay : Nat)
    (orchestrator : Orchestrator) :
    orchestrator.muted.submit application placement delay =
      (fun reached : Except Rejection Unit × Orchestrator => (reached.1, reached.2.muted)) <$>
        orchestrator.submit application placement delay := by
  unfold submit
  rw [show orchestrator.muted.admits application placement =
    orchestrator.admits application placement from rfl]
  cases orchestrator.admits application placement with
  | error rejection => simp only [map_pure]
  | ok =>
      simp only [map_bind, map_pure]
      rfl

theorem applyWires_muted (wires : List Wire) (orchestrator : Orchestrator) :
    wires.foldl applyWire orchestrator.muted = (wires.foldl applyWire orchestrator).muted := by
  induction wires generalizing orchestrator with
  | nil => rfl
  | cons wire rest ih =>
      rw [List.foldl_cons, List.foldl_cons, ← ih]
      cases wire <;> rfl

end Orchestrator

namespace Blueprint

def muted (blueprint : Blueprint) : Blueprint := { blueprint with exporter := .keeping }

theorem install_muted (blueprint : Blueprint) (mapped : MappedApplication)
    (orchestrator : Orchestrator) :
    (blueprint.muted.install mapped orchestrator.muted).outcome =
      (blueprint.install mapped orchestrator).outcome.map (·.map Orchestrator.muted) := by
  unfold install
  rw [show orchestrator.muted.devices = orchestrator.devices from rfl]
  cases mapped.mapping.resolve orchestrator.devices with
  | error rejection => rfl
  | ok placement =>
      dsimp only
      rw [Run.outcome_bind, Run.outcome_bind,
        show blueprint.muted.actuatorLinks = blueprint.actuatorLinks from rfl,
        show blueprint.muted.relays = blueprint.relays from rfl]
      cases (wiring orchestrator.devices placement blueprint.actuatorLinks
          (blueprint.relays.map (·.id))).outcome with
      | error fault => rfl
      | ok wires =>
          dsimp only
          rw [Run.outcome_bind, Run.outcome_bind, Run.outcome_lift, Run.outcome_lift,
            Orchestrator.submit_muted, Logged.value_map]
          generalize (orchestrator.submit mapped.application placement mapped.delay).value = reached
          obtain ⟨result, submitted⟩ := reached
          cases result with
          | error rejection => rfl
          | ok =>
              exact congrArg (fun wired => Except.ok (Except.ok wired))
                (Orchestrator.applyWires_muted wires submitted)

theorem build_muted (blueprint : Blueprint) :
    blueprint.muted.build.outcome = blueprint.build.outcome.map (·.map Scenario.muted) := by
  have registers :=
    (Orchestrator.initial blueprint.config blueprint.exporter).register_muted
      (blueprint.devices ++ blueprint.relays.map Device.relay) blueprint.sensors blueprint.actuators
  unfold build
  rw [show blueprint.muted.config = blueprint.config from rfl]
  split
  · rfl
  · dsimp only
    rw [Run.outcome_bind, Run.outcome_bind, Run.outcome_lift, Run.outcome_lift,
      show (Orchestrator.initial blueprint.config blueprint.muted.exporter).register
          (blueprint.muted.devices ++ blueprint.muted.relays.map Device.relay)
          blueprint.muted.sensors blueprint.muted.actuators = _ from registers, Logged.value_map]
    generalize ((Orchestrator.initial blueprint.config blueprint.exporter).register
      (blueprint.devices ++ blueprint.relays.map Device.relay) blueprint.sensors
      blueprint.actuators).value = reached
    obtain ⟨result, registered⟩ := reached
    cases result with
    | error rejection => rfl
    | ok =>
        dsimp only
        rw [show blueprint.muted.mapped = blueprint.mapped from rfl]
        cases blueprint.mapped with
        | none => rfl
        | some mapped =>
            dsimp only
            rw [Run.outcome_bind, Run.outcome_bind, install_muted]
            cases (blueprint.install mapped registered).outcome with
            | error fault => rfl
            | ok installed => cases installed <;> rfl

end Blueprint
end FogNetwork
