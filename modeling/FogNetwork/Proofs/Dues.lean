import FogNetwork.Proofs.Extension
import FogNetwork.Proofs.Timekeeping
import FogNetwork.Proofs.Trips
import Mathlib.Algebra.BigOperators.Group.Finset.Basic

/-! What modules send: each one as many tuples as its executions call for, and together with the
sensors as many as identifiers were issued. -/

namespace FogNetwork

namespace Application

variable (application : Application) (name : String)

def subscriptionsOf : List Subscription := (application.module? name).elim [] (·.subscriptions)

/-- The tuples that one execution of a module sends: one along each edge to another module, and
along each edge to an actuator one for every subscription to tuples of that type. -/
def fanout : Nat :=
  (application.edgesFrom name).countP (·.kind == .module) +
    ((application.actuatorEdges name).map fun edge =>
      (application.subscriptionsOf name).countP (·.tupleType == edge.tupleType)).sum

def copies (edge : Edge) : Nat :=
  match edge.kind with
  | .sensor => 0
  | .module => 1
  | .actuator => (application.subscriptionsOf name).countP (·.tupleType == edge.tupleType)

theorem sum_copies :
    ((application.edgesFrom name).map (application.copies name)).sum =
      application.fanout name := by
  unfold fanout actuatorEdges
  induction application.edgesFrom name with
  | nil => rfl
  | cons edge rest ih =>
      rw [List.map_cons, List.sum_cons, ih]
      cases kind : edge.kind with
      | sensor => simp [copies, kind]
      | «module» =>
          rw [List.countP_cons_of_pos (by simp [kind]), List.filter_cons_of_neg (by simp [kind]),
            copies, kind]
          dsimp only
          omega
      | actuator =>
          rw [List.countP_cons_of_neg (by simp [kind]), List.filter_cons_of_pos (by simp [kind]),
            List.map_cons, List.sum_cons, copies, kind]
          exact Nat.add_left_comm ..

end Application

namespace Usage

variable {application : Application} {usage after : Usage} {name : String} {owed : Nat}

/-- Every module has sent what its executions call for, but that one still owes some of it. -/
structure Owes (application : Application) (name : String) (owed : Nat) (usage : Usage) :
    Prop where
  sent : ∀ wanted, (usage.tally wanted).sent + (if wanted = name then owed else 0) =
    (usage.tally wanted).processed * application.fanout wanted
  known : ∀ wanted, (usage.tally wanted).processed ≠ 0 → application.hasModule wanted = true

structure Settled (application : Application) (usage : Usage) : Prop where
  sent : ∀ name, (usage.tally name).sent =
    (usage.tally name).processed * application.fanout name
  known : ∀ name, (usage.tally name).processed ≠ 0 → application.hasModule name = true

def sent (usage : Usage) : Nat := usage.modules.total (·.sent)

theorem settled_initial (application : Application) : Usage.initial.Settled application :=
  ⟨fun _ => (Nat.zero_mul _).symm, fun _ processed => absurd rfl processed⟩

theorem Owes.settled (owes : usage.Owes application name 0) : usage.Settled application :=
  ⟨fun wanted => by simpa using owes.sent wanted, owes.known⟩

theorem Owes.of_same (owes : usage.Owes application name owed)
    (same : ∀ wanted, (after.tally wanted).sent = (usage.tally wanted).sent ∧
      (after.tally wanted).processed = (usage.tally wanted).processed) :
    after.Owes application name owed := by
  constructor
  · intro wanted
    rw [(same wanted).1, (same wanted).2]
    exact owes.sent wanted
  · intro wanted processed
    rw [(same wanted).2] at processed
    exact owes.known wanted processed

theorem Settled.owes (settled : usage.Settled application) (name : String) :
    usage.Owes application name 0 :=
  ⟨fun wanted => by simpa using settled.sent wanted, settled.known⟩

theorem Owes.countReceived (owes : usage.Owes application name owed) (receiver : String) :
    (usage.countReceived receiver).Owes application name owed := by
  refine owes.of_same fun wanted => ?_
  rw [Usage.countReceived, tally_changeModule]
  split
  next same => simp [same]
  · simp

theorem modules_of_transfer {size : Nat} (paid : usage.transfer? size = some after) :
    after.modules = usage.modules := by
  simp only [transfer?, Option.map_eq_some_iff] at paid
  obtain ⟨_, _, rfl⟩ := paid
  rfl

theorem Owes.transfer {size : Nat} (owes : usage.Owes application name owed)
    (paid : usage.transfer? size = some after) : after.Owes application name owed := by
  have same : after.tally = usage.tally := by
    funext wanted
    rw [tally, tally, modules_of_transfer paid]
  exact owes.of_same fun wanted => by simp [same]

theorem Owes.changeModule {change : Tally → Tally} {left : Nat}
    (owes : usage.Owes application name owed) (sends runs : Nat)
    (sent : ∀ tally, (change tally).sent = tally.sent + sends)
    (processed : ∀ tally, (change tally).processed = tally.processed + runs)
    (balance : sends + left = owed + runs * application.fanout name)
    (known : runs ≠ 0 → application.hasModule name = true) :
    (usage.changeModule name change).Owes application name left := by
  constructor
  · intro wanted
    have due := owes.sent wanted
    rw [tally_changeModule]
    by_cases same : wanted = name
    · subst same
      simp only [↓reduceIte, sent, processed, Nat.add_mul] at due ⊢
      omega
    · simp only [same, ↓reduceIte] at due ⊢
      exact due
  · intro wanted
    rw [tally_changeModule]
    split
    next same =>
      intro ran
      rw [processed] at ran
      rw [same]
      by_cases idle : runs = 0
      · exact owes.known name (by omega)
      · exact known idle
    · exact owes.known wanted

theorem Owes.countSent (owes : usage.Owes application name (owed + 1)) :
    (usage.countSent name).Owes application name owed :=
  owes.changeModule 1 0 (fun _ => rfl) (fun _ => rfl) (by omega) nofun

theorem Settled.countProcessed (settled : usage.Settled application)
    (known : application.hasModule name = true) :
    (usage.countProcessed name).Owes application name (application.fanout name) :=
  (settled.owes name).changeModule 0 1 (fun _ => rfl) (fun _ => rfl) (by omega) fun _ => known

theorem sent_countReceived (usage : Usage) (name : String) :
    (usage.countReceived name).sent = usage.sent :=
  usage.total_changeModule name Tally.sent 0 rfl fun _ => rfl

theorem sent_countProcessed (usage : Usage) (name : String) :
    (usage.countProcessed name).sent = usage.sent :=
  usage.total_changeModule name Tally.sent 0 rfl fun _ => rfl

theorem sent_countSent (usage : Usage) (name : String) :
    (usage.countSent name).sent = usage.sent + 1 :=
  usage.total_changeModule name Tally.sent 1 rfl fun _ => rfl

theorem sent_of_transfer {size : Nat} (paid : usage.transfer? size = some after) :
    after.sent = usage.sent := by
  rw [sent, sent, modules_of_transfer paid]

end Usage

namespace Relay

variable {application : Application} {relay next : Relay} {before after : Context}
variable {tuple parent : Tuple} {edge : Edge} {name : String} {owed : Nat}

theorem accept_owes (running : before.halted = false)
    (owes : before.usage.Owes application name owed)
    (ended : (relay.accept tuple).Ends before next after) :
    after.usage.Owes application name owed := by
  rcases accept_cases running ended with ⟨_, _, rfl⟩ |
    ⟨_, ⟨_, _, _, _, paid, _, enters, _⟩ | ⟨_, _, rfl⟩⟩
  · exact owes.countReceived _
  · rw [enters.usage]
    exact owes.transfer paid
  · exact owes

theorem deliver_owes {actuator : ActuatorId} {done : Unit} (running : before.halted = false)
    (owes : before.usage.Owes application parent.destination (owed + 1))
    (ended : (relay.deliver parent edge actuator).Ends before done after) :
    after.usage.Owes application parent.destination owed := by
  obtain ⟨_, _, paid, _, enters⟩ := deliver_ends running ended
  rw [enters.usage]
  exact owes.countSent.transfer paid

theorem targets_length (runs : relay.Runs (some application)) (hosts : relay.hosts name = true)
    (tupleType : String) :
    (relay.targets name tupleType).length =
      (application.subscriptionsOf name).countP (·.tupleType == tupleType) := by
  obtain ⟨spec, hosted⟩ := Option.isSome_iff_exists.mp hosts
  obtain ⟨_, _, ⟨⟩, own⟩ := runs.hosted name spec hosted
  rw [targets, hosted, Application.subscriptionsOf, own, Option.elim_some, List.length_map,
    List.countP_eq_length_filter]

theorem emitAlong_owes (running : before.halted = false) (runs : relay.Runs (some application))
    (hosts : relay.hosts parent.destination = true)
    (owes : before.usage.Owes application parent.destination
      (application.copies parent.destination edge + owed))
    (ended : (relay.emitAlong parent edge).Ends before next after) :
    after.usage.Owes application parent.destination owed := by
  unfold emitAlong at ended
  split at ended
  next kind =>
    obtain ⟨rfl, rfl⟩ := Act.ends_pure_iff.mp ended
    rwa [Application.copies, kind, Nat.zero_add] at owes
  next kind =>
    rw [Application.copies, kind, Nat.add_comm] at owes
    simp only [Act.ends_bind_iff, Act.ends_withTimings_iff, Act.ends_changeUsage_iff] at ended
    obtain ⟨_, _, ⟨rfl, rfl⟩, _, _, rfl, accepted⟩ := ended
    exact accept_owes (by exact running) owes.countSent accepted
  next kind =>
    rw [Application.copies, kind, ← targets_length runs hosts] at owes
    simp only [Act.ends_bind_iff, Act.ends_pure_iff] at ended
    obtain ⟨_, _, delivered, rfl, rfl⟩ := ended
    -- What is owed along the way is a delivery to each target that is left.
    have paid := (Act.forM_keeps (motive := fun targets between => between.halted = false ∧
      between.usage.Owes application parent.destination (targets.length + owed))
      ?_ ⟨running, owes⟩ delivered).2
    · rwa [List.length_nil, Nat.zero_add] at paid
    intro actuator rest between later _ ⟨still, owes⟩ delivered
    rw [List.length_cons, Nat.add_right_comm] at owes
    exact ⟨(deliver_deliveries still delivered).2, deliver_owes still owes delivered⟩

theorem hosts_of_setup (same : next.setup = relay.setup) : next.hosts = relay.hosts := by
  have alike : next.setup.hosts = relay.setup.hosts := by rw [same]
  exact alike

theorem execute_settles (running : before.halted = false) (runs : relay.Runs (some application))
    (hosts : relay.hosts tuple.destination = true) (settled : before.usage.Settled application)
    (ended : (relay.execute tuple).Ends before next after) :
    after.usage.Settled application := by
  obtain ⟨spec, hosted⟩ := Option.isSome_iff_exists.mp hosts
  obtain ⟨knows, _, ⟨⟩, own⟩ := runs.hosted _ spec hosted
  obtain ⟨timings, working, setup, emitted⟩ := execute_ends knows ended
  have began : (before.usage.countProcessed tuple.destination).Owes application
      tuple.destination (application.fanout tuple.destination) :=
    settled.countProcessed (Option.isSome_of_eq_some own)
  rw [← application.sum_copies] at began
  -- What is owed along the way is what the edges that are left call for.
  have paid := emissions_keep (motive := fun edges between =>
      between.usage.Owes application tuple.destination
        (edges.map (application.copies tuple.destination)).sum)
    (by exact running) ((application_of_setup setup).trans knows) (fun _ member => member) ?_
    began emitted
  · exact Usage.Owes.settled paid
  intro edge rest between later emitter emitted still same owes emitted
  have kept := same.trans setup
  refine emitAlong_owes still (runs.of_setup kept) ?_ owes emitted
  rw [hosts_of_setup kept]
  exact hosts

theorem Serving.hosts {begun context : Context} {working : Relay} {rest : List Tuple}
    (serving : Serving relay begun (tuple :: rest) context working)
    (serves : Device.Serves (.relay relay)) : working.hosts tuple.destination = true := by
  obtain ⟨done, _, deeds⟩ := serving
  exact deeds.serves (fun other queued => serves other (by simpa using queued)) tuple (by simp)

theorem manage_settles (running : before.halted = false) (runs : relay.Runs (some application))
    (serves : Device.Serves (.relay relay)) (settled : before.usage.Settled application)
    (ended : relay.manage.Ends before next after) : after.usage.Settled application := by
  obtain ⟨between, first, begins, unspent, served⟩ := manage_serves running ended
  refine (Act.foldlM_keeps (motive := fun rest context working =>
    Serving relay before rest context working ∧ context.usage.Settled application)
    ?_ ⟨begins, by rwa [unspent]⟩ served).2
  rintro tuple rest context working later next ⟨serving, settled⟩ executed
  refine ⟨serving.step running executed, ?_⟩
  have hosts := serving.hosts serves
  obtain ⟨done, _, deeds⟩ := serving
  obtain ⟨halted, setup⟩ := deeds.keeps
  exact execute_settles (halted.trans running) (runs.of_setup setup) hosts settled executed

end Relay

theorem Device.react_settles {application : Application} {begun reacted : Context}
    {device next : Device} {event : DeviceEvent} (running : begun.halted = false)
    (runs : ∀ relay, device = .relay relay → relay.Runs (some application))
    (serves : device.Serves) (settled : begun.usage.Settled application)
    (reacts : (device.react event).Ends begun next reacted) :
    reacted.usage.Settled application := by
  cases Device.react_reaction running reacts with
  | recorder | active | received | launch => exact settled
  | manage =>
      obtain ⟨_, managed, _⟩ := Act.ends_map_iff.mp reacts
      exact Relay.manage_settles running (runs _ rfl) serves settled managed
  | @arrival relay _ tuple =>
      obtain ⟨_, accepted, _⟩ := Act.ends_map_iff.mp reacts
      exact (Relay.accept_owes running (settled.owes tuple.destination) accepted).settled

namespace Relay

variable {before after : Bench}

theorem Deed.issues (deed : Deed before after) :
    before.context.timings.nextTuple + after.context.usage.sent =
      after.context.timings.nextTuple + before.context.usage.sent := by
  cases deed with
  | queue => exact congrArg _ (Usage.sent_countReceived _ _)
  | derive =>
      dsimp only
      rw [Usage.sent_countSent]
      exact (Nat.succ_add_eq_add_succ _ _).symm
  | forward _ _ _ paid _ sent =>
      rw [sent.timings, sent.usage, Usage.sent_of_transfer paid]
  | deliver _ _ _ _ _ _ paid _ sent =>
      rw [sent.timings, sent.usage, Usage.sent_of_transfer paid]
  | execute =>
      dsimp only
      rw [Usage.sent_countProcessed, (Timings.endExecution_keeps _ _ _ _).1]
  | @pass tuple application _ _ =>
      obtain ⟨loops, changed⟩ := before.context.timings.passModule_changesLoops
        tuple.destination tuple.root before.context.now application.loops
      dsimp only
      rw [changed]
  | rearm _ _ asked => rw [asked.timings, asked.usage]
  | park | take | charge => rfl

theorem Deeds.issues (deeds : Deeds before after) :
    before.context.timings.nextTuple + after.context.usage.sent =
      after.context.timings.nextTuple + before.context.usage.sent := by
  induction deeds with
  | refl => rfl
  | tail _ deed ih =>
      have last := deed.issues
      omega

end Relay

namespace Reaction

variable {application : Application} {orchestrator next : Orchestrator} {begun reacted : Context}
variable {payload : Payload}

theorem settles (running : begun.halted = false)
    (reaction : Reaction orchestrator begun payload next reacted)
    (runs : ∀ id relay, orchestrator.devices.get? id = some (.relay relay) →
      relay.Runs (some application))
    (serves : orchestrator.devices.All Device.Serves)
    (settled : begun.usage.Settled application) : reacted.usage.Settled application := by
  cases reaction with
  | launch asks | control asks => rwa [asks.usage_eq]
  | finished | unknownDevice | silent | unknownActuator => exact settled
  | stop halts => rcases halts with rfl | rfl <;> exact settled
  | @device id event target changed _ known reacts =>
      refine Device.react_settles running ?_ (serves id target known) settled reacts
      rintro relay rfl
      exact runs id relay known
  | actuator _ reacts =>
      obtain ⟨_, rfl⟩ := Actuator.receive_ends reacts
      exact settled
  | sensor _ _ _ reacts =>
      rcases Sensor.transmit_ends running reacts with
        ⟨_, _, rfl⟩ | ⟨_, _, _, _, _, emits, _⟩
      · exact settled
      · rw [emits.arms.usage, emits.sends.usage]
        exact ((settled.owes "").transfer emits.paid).settled

theorem issues (running : begun.halted = false)
    (reaction : Reaction orchestrator begun payload next reacted) :
    begun.timings.nextTuple + (next.sent + reacted.usage.sent) =
      reacted.timings.nextTuple + (orchestrator.sent + begun.usage.sent) := by
  cases reaction with
  | launch asks => rw [asks.timings_eq, asks.usage_eq]
  | control asks =>
      rw [asks.timings_eq, asks.usage_eq]
      rfl
  | finished | unknownDevice | silent | unknownActuator => rfl
  | stop halts => rcases halts with rfl | rfl <;> rfl
  | device _ reacts =>
      have issues : begun.timings.nextTuple + reacted.usage.sent =
          reacted.timings.nextTuple + begun.usage.sent := by
        cases Device.react_reaction running reacts with
        | recorder | active | received | launch => rfl
        | manage deeds | arrival deeds => exact deeds.issues
      rw [Nat.add_left_comm, issues, Nat.add_left_comm]
      rfl
  | actuator _ reacts =>
      obtain ⟨loops, rfl⟩ := Actuator.receive_changesLoops reacts
      rfl
  | @sensor id sensor changed application reacted known _ _ reacts =>
      obtain ⟨others, before, after⟩ := SortedMap.total_of_get?_eq_some known (·.sent)
      have total : (orchestrator.sensors.insert id changed).total (·.sent) =
        changed.sent + others := after changed
      rw [Orchestrator.sent, Orchestrator.sent, before, total]
      rcases Sensor.transmit_ends running reacts with
        ⟨_, rfl, rfl⟩ | ⟨_, _, _, _, _, emits, rfl⟩
      · rfl
      · rw [emits.timings, emits.arms.usage, emits.sends.usage,
          Usage.sent_of_transfer emits.paid, Timings.nextTuple_enterLoops]
        simp only [Timings.issue]
        omega

end Reaction

theorem Usage.Settled.sent_eq_sum {application : Application} {usage : Usage}
    (settled : usage.Settled application) :
    usage.sent = ∑ name ∈ application.moduleNames.toFinset, (usage.tally name).sent := by
  have listed : usage.sent = ∑ name ∈ usage.modules.keys.toFinset, (usage.tally name).sent := by
    rw [Usage.sent, SortedMap.total_eq_keys, List.sum_toFinset _ usage.modules.keys_nodup]
    congr 1
    apply List.map_congr_left
    intro name _
    rw [Usage.tally, SortedMap.getD]
    cases usage.modules.get? name with
    | none => rfl
    | some tally => rfl
  rw [listed]
  refine Finset.sum_congr_of_eq_on_inter ?_ ?_ fun _ _ _ => rfl
  · intro name _ unknown
    have idle : (usage.tally name).processed = 0 := by
      by_contra processed
      obtain ⟨spec, found⟩ := Option.isSome_iff_exists.mp (settled.known name processed)
      obtain ⟨own, listed⟩ : spec.name = name ∧ spec ∈ application.modules :=
        ⟨by simpa using List.find?_some found, List.mem_of_find?_eq_some found⟩
      exact unknown (List.mem_toFinset.mpr (own ▸ List.mem_map_of_mem listed))
    rw [settled.sent name, idle, Nat.zero_mul]
  · intro name _ unlisted
    have absent : usage.modules.get? name = none := by
      rw [Option.eq_none_iff_forall_not_mem]
      exact fun tally found =>
        unlisted (List.mem_toFinset.mpr (SortedMap.mem_keys_iff.mpr ⟨tally, found⟩))
    rw [Usage.tally, SortedMap.getD, absent]
    rfl

namespace Scenario

variable {application : Application} {started scenario : Scenario} {turns : List Turn}

theorem Reached.issues (reached : started.Reached turns scenario) :
    started.simulation.context.timings.nextTuple +
        (scenario.orchestrator.sent + scenario.simulation.context.usage.sent) =
      scenario.simulation.context.timings.nextTuple +
        (started.orchestrator.sent + started.simulation.context.usage.sent) := by
  refine (reached.always (motive := fun scenario =>
    started.simulation.context.timings.nextTuple +
        (scenario.orchestrator.sent + scenario.simulation.context.usage.sent) =
      scenario.simulation.context.timings.nextTuple +
        (started.orchestrator.sent + started.simulation.context.usage.sent)) rfl ?_).2
  intro before event after begun reacted so_far dispatches
  have last := dispatches.reaction.issues dispatches.begun_running
  rw [dispatches.begun_timings, dispatches.begun_usage, ← dispatches.after_timings,
    ← dispatches.after_usage] at last
  omega

theorem Reached.settled (reached : started.Reached turns scenario)
    (orderly : started.Orderly application)
    (settled : started.simulation.context.usage.Settled application) :
    scenario.simulation.context.usage.Settled application := by
  refine (reached.always (motive := fun scenario => scenario.Orderly application ∧
    scenario.simulation.context.usage.Settled application) ⟨orderly, settled⟩ ?_).2.2
  intro before event after begun reacted ⟨orderly, settled⟩ dispatches
  refine ⟨orderly.turn dispatches, ?_⟩
  rw [← dispatches.begun_usage] at settled
  rw [dispatches.after_usage]
  exact dispatches.reaction.settles dispatches.begun_running orderly.briefed.relays
    orderly.serves settled

/-- In every state of a run, identifiers were issued for what the sensors and the modules have
sent, and each module has sent what its executions call for. -/
theorem emissions_accounted {orchestrator : Orchestrator}
    (unused : orchestrator.devices.All Device.Unused)
    (unsent : orchestrator.sensors.All (·.sent = 0))
    (begun : (ofOrchestrator orchestrator).Begun started turns scenario) :
    let context := scenario.simulation.context
    context.timings.nextTuple = 1 + (scenario.orchestrator.sent + context.usage.sent) ∧
      ∀ application, scenario.orchestrator.application? = some application →
        (∀ name, (context.usage.tally name).sent =
          (context.usage.tally name).processed * application.fanout name) ∧
        context.usage.sent =
          ∑ name ∈ application.moduleNames.toFinset, (context.usage.tally name).sent := by
  obtain ⟨reached, asks, time, same⟩ := begun.cases
  constructor
  · have nothing : started.orchestrator.sent = 0 := by
      rw [same]
      exact SortedMap.total_eq_zero unsent
    have issues := reached.issues
    rw [asks.timings_eq, asks.usage_eq, nothing] at issues
    exact issues.symm
  · intro application holds
    have held : orchestrator.application? = some application := by
      rw [← holds, Orchestrator.application?, Orchestrator.application?, reached.submission_eq.1,
        same]
    have settled := reached.settled (orderly_of_asks unused held asks same) (by
      rw [asks.usage_eq]
      exact Usage.settled_initial application)
    exact ⟨settled.sent, settled.sent_eq_sum⟩

end Scenario

namespace Demo

theorem blueprint_sending : ∃ network built scenario application,
    blueprint ⟨50, 400⟩ .keeping = .ok network ∧ network.build.outcome = .ok (.ok built) ∧
      (Scenario.Call.performAll [.runSteps 180] built).outcome = .ok scenario ∧
      scenario.orchestrator.application? = some application ∧
      scenario.simulation.context.timings.nextTuple = 104 ∧ scenario.orchestrator.sent = 48 ∧
      (scenario.simulation.context.usage.tally "filter").processed = 46 ∧
      application.fanout "filter" = 1 ∧ application.fanout "aggregate" = 1 := by
  have sending : ((blueprint ⟨50, 400⟩ .keeping).toOption.bind
      (·.after? [.runSteps 180])).any (fun scenario =>
        scenario.orchestrator.application?.any (fun application =>
          application.fanout "filter" == 1 && application.fanout "aggregate" == 1) &&
          scenario.simulation.context.timings.nextTuple == 104 &&
          scenario.orchestrator.sent == 48 &&
          (scenario.simulation.context.usage.tally "filter").processed == 46) = true := by
    decide +kernel
  cases made : blueprint ⟨50, 400⟩ .keeping with
  | error rejection =>
      rw [made] at sending
      cases sending
  | ok network =>
      rw [made] at sending
      obtain ⟨scenario, left, sending⟩ := (Option.any_eq_true _ _).mp sending
      obtain ⟨built, builds, performed⟩ := Blueprint.after?_eq_some left
      simp only [Bool.and_eq_true, beq_iff_eq] at sending
      obtain ⟨⟨⟨held, issued⟩, sent⟩, processed⟩ := sending
      obtain ⟨application, holds, fanouts⟩ := (Option.any_eq_true _ _).mp held
      simp only [Bool.and_eq_true, beq_iff_eq] at fanouts
      exact ⟨network, built, scenario, application, rfl, builds, performed, holds, issued, sent,
        processed, fanouts⟩

end Demo

theorem Scenario.emissions_accounted_demo : ∃ (network : Blueprint) (built started : Scenario)
    (turns : List Turn) (scenario : Scenario) (application : Application),
    Demo.blueprint ⟨50, 400⟩ .keeping = .ok network ∧
      network.build.outcome = .ok (.ok built) ∧
      built.orchestrator.devices.All Device.Unused ∧
      built.orchestrator.sensors.All (·.sent = 0) ∧ built.Begun started turns scenario ∧
      scenario.orchestrator.application? = some application ∧
      scenario.simulation.context.timings.nextTuple = 104 ∧ scenario.orchestrator.sent = 48 ∧
      scenario.simulation.context.usage.sent = 55 ∧
      (scenario.simulation.context.usage.tally "filter").processed = 46 ∧
      (scenario.simulation.context.usage.tally "filter").sent = 46 ∧
      ∑ name ∈ application.moduleNames.toFinset,
        (scenario.simulation.context.usage.tally name).sent = 55 := by
  obtain ⟨network, built, scenario, application, made, builds, performed, holds, issued, sent,
    processed, fanout, _⟩ := Demo.blueprint_sending
  obtain ⟨started, turns, begun⟩ := Blueprint.begun_of_calls builds performed
  have unused := (Demo.blueprint_unused made).of_build builds
  have unsent := (Blueprint.silent_of_build (Demo.blueprint_fresh made).2 builds).unsent
  have here := begun
  rw [← Blueprint.build_eq builds] at here
  obtain ⟨all, modules⟩ := emissions_accounted unused unsent here
  obtain ⟨each, sum⟩ := modules application holds
  have filter := each "filter"
  rw [processed, fanout] at filter
  rw [issued, sent] at all
  have rest : scenario.simulation.context.usage.sent = 55 := by omega
  exact ⟨network, built, started, turns, scenario, application, made, builds, unused, unsent,
    begun, holds, issued, sent, rest, processed, filter, sum.symm.trans rest⟩

end FogNetwork
