import FogNetwork.Orchestrator.Dispatch
import FogNetwork.Proofs.Deeds
import FogNetwork.Proofs.Entries

/-! What reactions ask for: which events, after which delays, and how a request can fail. -/

namespace FogNetwork

/-- From one context to another by entering events that `fits` allows, told by the delay after
which they are due. -/
structure Context.Gains (fits : Nat → Payload → Prop) (before after : Context) : Prop where
  now : after.now = before.now
  halted : after.halted = before.halted
  pending : ∃ entered, after.agenda.pending.Perm (before.agenda.pending ++ entered) ∧
    ∀ event ∈ entered, ∃ delay, fits delay event.payload ∧
      event.time.ticks = before.now.ticks + delay

namespace Context.Gains

variable {fits : Nat → Payload → Prop} {before middle after : Context}

theorem unchanged (agenda : after.agenda = before.agenda) (now : after.now = before.now)
    (halted : after.halted = before.halted) : before.Gains fits after :=
  ⟨now, halted, [], by simp [agenda], by simp⟩

theorem of_enters {event : Event} {delay : Nat} (enters : before.Enters event after)
    (own : fits delay event.payload) (due : event.time.ticks = before.now.ticks + delay) :
    before.Gains fits after := by
  refine ⟨enters.now, enters.halted, [event],
    enters.pending.trans (List.perm_append_singleton ..).symm, ?_⟩
  intro other member
  obtain rfl := List.mem_singleton.mp member
  exact ⟨delay, own, due⟩

theorem trans (left : before.Gains fits middle) (right : middle.Gains fits after) :
    before.Gains fits after := by
  obtain ⟨early, first, asked⟩ := left.pending
  obtain ⟨late, second, askedLater⟩ := right.pending
  refine ⟨right.now.trans left.now, right.halted.trans left.halted, early ++ late, ?_, ?_⟩
  · rw [← List.append_assoc]
    exact second.trans (first.append_right late)
  · intro event member
    rcases List.mem_append.mp member with member | member
    · exact asked event member
    · rw [← left.now]
      exact askedLater event member

theorem mono {more : Nat → Payload → Prop} (wider : ∀ delay payload, fits delay payload →
    more delay payload) (gains : before.Gains fits after) : before.Gains more after := by
  obtain ⟨entered, pending, asked⟩ := gains.pending
  refine ⟨gains.now, gains.halted, entered, pending, ?_⟩
  intro event member
  obtain ⟨delay, own, due⟩ := asked event member
  exact ⟨delay, wider delay event.payload own, due⟩

theorem mem_pending (gains : before.Gains fits after) {event : Event}
    (member : event ∈ after.agenda.pending) :
    event ∈ before.agenda.pending ∨ ∃ delay, fits delay event.payload ∧
      event.time.ticks = before.now.ticks + delay := by
  obtain ⟨entered, pending, asked⟩ := gains.pending
  rcases List.mem_append.mp (pending.subset member) with old | new
  · exact .inl old
  · exact .inr (asked event new)

theorem still_pending (gains : before.Gains fits after) {event : Event}
    (member : event ∈ before.agenda.pending) : event ∈ after.agenda.pending := by
  obtain ⟨entered, pending, _⟩ := gains.pending
  exact pending.symm.subset (List.mem_append_left entered member)

theorem countP_eq (gains : before.Gains fits after) {counts : Payload → Bool}
    (apart : ∀ delay payload, fits delay payload → counts payload = false) :
    after.agenda.pending.countP (counts ·.payload) =
      before.agenda.pending.countP (counts ·.payload) := by
  obtain ⟨entered, pending, asked⟩ := gains.pending
  have none : entered.countP (counts ·.payload) = 0 := by
    rw [List.countP_eq_zero]
    intro event member
    obtain ⟨delay, own, _⟩ := asked event member
    simp [apart delay event.payload own]
  rw [pending.countP_eq, List.countP_append, none, Nat.add_zero]

end Context.Gains

/-- The acts at the time `now` that are put together from what a context offers, short of reading
all of it and of ending the run. They ask for nothing but what `fits` allows and never see an event
identifier. What they return is as `result` says. -/
inductive Act.Modest (now : Time) :
    {α : Type} → (Nat → Payload → Prop) → Act α → (α → Prop) → Prop
  | pure {α : Type} {fits : Nat → Payload → Prop} {value : α} {result : α → Prop}
      (own : result value) : Modest now fits (pure value) result
  | bind {α β : Type} {fits : Nat → Payload → Prop} {first : Act α} {next : α → Act β}
      {middle : α → Prop} {result : β → Prop} (left : Modest now fits first middle)
      (right : ∀ value, middle value → Modest now fits (next value) result) :
      Modest now fits (first >>= next) result
  | mono {α : Type} {fits more : Nat → Payload → Prop} {act : Act α} {result weaker : α → Prop}
      (modest : Modest now fits act result)
      (wider : ∀ delay payload, fits delay payload → more delay payload)
      (weakens : ∀ value, result value → weaker value) : Modest now more act weaker
  | look {fits : Nat → Payload → Prop} : Modest now fits Act.now (· = now)
  | note {fits : Nat → Payload → Prop} (notice : Notice) :
      Modest now fits (Act.note notice) fun _ => True
  | withTimings {α : Type} {fits : Nat → Payload → Prop} (work : Timings → α × Timings) :
      Modest now fits (Act.withTimings work) fun _ => True
  | changeTimings {fits : Nat → Payload → Prop} (change : Timings → Timings) :
      Modest now fits (Act.changeTimings change) fun _ => True
  | changeUsage {fits : Nat → Payload → Prop} (change : Usage → Usage) :
      Modest now fits (Act.changeUsage change) fun _ => True
  | transfer {fits : Nat → Payload → Prop} (size : Nat) :
      Modest now fits (Act.transfer size) fun _ => True
  | reach {fits : Nat → Payload → Prop} {delay : Nat} {payload : Payload}
      (own : fits delay payload) :
      Modest now fits (liftM (Run.orFault (now.after? delay) .unreachableTime))
        fun time => time.ticks = now.ticks + delay
  | scheduleAt {α : Type} {fits : Nat → Payload → Prop} {time : Time} {delay : Nat}
      {payload : Payload} {rest : Act α} {result : α → Prop}
      (due : time.ticks = now.ticks + delay) (own : fits delay payload)
      (goesOn : Modest now fits rest result) :
      Modest now fits (Act.scheduleAt time payload >>= fun _ => rest) result

namespace Act.Modest

variable {α β : Type} {now : Time} {fits : Nat → Payload → Prop} {payload : Payload}
variable {act rest : Act α} {result weaker : α → Prop}

theorem ends (modest : Modest now fits act result) {before after : Context} {value : α}
    (here : before.now = now) (ended : act.Ends before value after) :
    before.Gains fits after ∧ result value := by
  induction modest generalizing before after with
  | pure own =>
      obtain ⟨rfl, rfl⟩ := ends_pure_iff.mp ended
      exact ⟨.unchanged rfl rfl rfl, own⟩
  | bind _ _ first next =>
      obtain ⟨_, _, began, ended⟩ := ends_bind_iff.mp ended
      obtain ⟨gains, own⟩ := first here began
      obtain ⟨more, last⟩ := next _ own (gains.now.trans here) ended
      exact ⟨gains.trans more, last⟩
  | mono _ wider weakens ih =>
      obtain ⟨gains, own⟩ := ih here ended
      exact ⟨gains.mono wider, weakens value own⟩
  | look =>
      obtain ⟨rfl, rfl⟩ := ends_now_iff.mp ended
      exact ⟨.unchanged rfl rfl rfl, here⟩
  | note =>
      obtain rfl := ends_note_iff.mp ended
      exact ⟨.unchanged rfl rfl rfl, trivial⟩
  | withTimings =>
      obtain ⟨_, rfl⟩ := ends_withTimings_iff.mp ended
      exact ⟨.unchanged rfl rfl rfl, trivial⟩
  | changeTimings =>
      obtain rfl := ends_changeTimings_iff.mp ended
      exact ⟨.unchanged rfl rfl rfl, trivial⟩
  | changeUsage =>
      obtain rfl := ends_changeUsage_iff.mp ended
      exact ⟨.unchanged rfl rfl rfl, trivial⟩
  | transfer =>
      obtain ⟨_, _, rfl⟩ := ends_transfer_iff.mp ended
      exact ⟨.unchanged rfl rfl rfl, trivial⟩
  | reach =>
      obtain ⟨found, rfl⟩ := ends_lift_iff.mp ended
      refine ⟨.unchanged rfl rfl rfl, ?_⟩
      exact (Time.after?_eq_some_iff.mp (Run.outcome_orFault_eq_ok_iff.mp found)).2
  | @scheduleAt _ asked _ _ _ _ _ due own _ ih =>
      obtain ⟨_, between, scheduled, ended⟩ := ends_bind_iff.mp ended
      have gains : before.Gains asked between := by
        cases halted : before.halted with
        | true =>
            obtain ⟨_, ⟨_, rfl⟩ | ⟨running, _⟩⟩ := scheduleAt_cases scheduled
            · exact .unchanged rfl rfl rfl
            · rw [halted] at running
              cases running
        | false =>
            rw [← here] at due
            exact .of_enters (scheduleAt_enters halted scheduled) own due
      obtain ⟨more, last⟩ := ih (gains.now.trans here) ended
      exact ⟨gains.trans more, last⟩

theorem fails (modest : Modest now fits act result) {before : Context} {fault : Fault}
    (here : before.now = now) (failed : (act.run before).outcome = .error fault) :
    fault = .overflow ∨ fault = .unreachableTime ∧
      ∃ delay payload, fits delay payload ∧ largest < now.ticks + delay := by
  induction modest generalizing before with
  | pure => cases failed
  | bind left _ first next =>
      rw [StateT.run_bind, Run.outcome_bind_eq_error_iff] at failed
      rcases failed with early | ⟨⟨value, between⟩, ended, late⟩
      · exact first here early
      · obtain ⟨gains, own⟩ := left.ends here ended
        exact next value own (gains.now.trans here) late
  | mono _ wider _ ih =>
      rcases ih here failed with large | ⟨late, delay, payload, own, beyond⟩
      · exact .inl large
      · exact .inr ⟨late, delay, payload, wider delay payload own, beyond⟩
  | look => cases failed
  | note => cases failed
  | withTimings => cases failed
  | changeTimings => cases failed
  | changeUsage => cases failed
  | transfer size =>
      simp only [Act.transfer, StateT.run_bind, StateT.run_get, pure_bind] at failed
      cases paid : before.usage.transfer? size with
      | none =>
          rw [paid] at failed
          cases failed
          exact .inl rfl
      | some usage =>
          rw [paid] at failed
          cases failed
  | @reach _ delay payload own =>
      rw [show (liftM (Run.orFault (now.after? delay) .unreachableTime) : Act Time).run before =
        Run.orFault (now.after? delay) .unreachableTime >>= fun time => Pure.pure (time, before)
        from rfl, Run.outcome_bind_eq_error_iff] at failed
      rcases failed with early | ⟨_, _, late⟩
      · obtain ⟨unreached, rfl⟩ := Run.outcome_orFault_eq_error_iff.mp early
        refine .inr ⟨rfl, delay, payload, own, ?_⟩
        exact sum?_eq_none_iff.mp (Option.map_eq_none_iff.mp unreached)
      · cases late
  | scheduleAt due own goesOn ih =>
      rw [StateT.run_bind, Run.outcome_bind_eq_error_iff] at failed
      rcases failed with early | ⟨⟨id, between⟩, ended, late⟩
      · rw [scheduleAt_outcome, here, if_neg (by omega)] at early
        split at early
        · cases early
        · split at early
          · cases early
          · cases early
            exact .inl rfl
      · have still : between.now = now := by
          obtain ⟨_, ⟨_, rfl⟩ | ⟨_, _, _, rfl⟩⟩ := scheduleAt_cases ended
          · exact here
          · exact here
        exact ih still late

theorem returns (modest : Modest now fits act result)
    (weakens : ∀ value, result value → weaker value) : Modest now fits act weaker :=
  modest.mono (fun _ _ own => own) weakens

theorem change {change : α → β} {result : β → Prop}
    (modest : Modest now fits act fun value => result (change value)) :
    Modest now fits (change <$> act) result := by
  rw [map_eq_pure_bind]
  exact modest.bind fun _ own => .pure own

theorem endExecution (tuple : Tuple) : Modest now fits (Act.endExecution tuple) fun _ => True := by
  refine look.bind fun _ _ => (withTimings _).bind fun taken _ => ?_
  split
  · exact (note _).bind fun _ _ => .pure trivial
  · exact .pure trivial

theorem scheduleAfter {delay : Nat} (own : fits delay payload)
    (goesOn : Modest now fits rest result) :
    Modest now fits (Act.scheduleAfter delay payload >>= fun _ => rest) result := by
  rw [Act.scheduleAfter, bind_assoc]
  refine look.bind ?_
  rintro now rfl
  rw [bind_assoc]
  exact (reach own).bind fun time due => .scheduleAt due own goesOn

theorem scheduleNow (own : fits 0 payload) (goesOn : Modest now fits rest result) :
    Modest now fits (Act.scheduleNow payload >>= fun _ => rest) result := by
  rw [Act.scheduleNow, bind_assoc]
  refine look.bind ?_
  rintro now rfl
  exact .scheduleAt rfl own goesOn

theorem send {device : DeviceId} {latency : Nat} {tuple : Tuple}
    (own : fits latency (.device device (.tupleArrival tuple)))
    (goesOn : Modest now fits rest result) :
    Modest now fits (Act.send device latency tuple >>= fun _ => rest) result := by
  rw [Act.send, bind_assoc]
  exact (transfer _).bind fun _ _ => scheduleAfter own goesOn

theorem sendToActuator {actuator : ActuatorId} {latency : Nat} {tuple : Tuple}
    (own : fits latency (.delivery actuator tuple)) (goesOn : Modest now fits rest result) :
    Modest now fits (Act.sendToActuator actuator latency tuple >>= fun _ => rest) result := by
  rw [Act.sendToActuator, bind_assoc]
  exact (transfer _).bind fun _ _ => scheduleAfter own goesOn

theorem forM {ι : Type} {body : ι → Act PUnit} {items : List ι}
    (each : ∀ item ∈ items, Modest now fits (body item) fun _ => True) :
    Modest now fits (items.forM body) fun _ => True := by
  induction items with
  | nil => exact .pure trivial
  | cons item rest ih =>
      rw [List.forM_eq_forM, List.forM_cons]
      refine (each item (by simp)).bind fun _ _ => ih ?_
      exact fun other member => each other (by simp [member])

theorem foldlM {ι σ : Type} {body : σ → ι → Act σ} {kept : σ → Prop} {items : List ι} {state : σ}
    (begun : kept state)
    (each : ∀ state, kept state → ∀ item ∈ items, Modest now fits (body state item) kept) :
    Modest now fits (items.foldlM body state) kept := by
  induction items generalizing state with
  | nil => exact .pure begun
  | cons item rest ih =>
      rw [List.foldlM_cons]
      refine (each state begun item (by simp)).bind fun next own => ih own ?_
      exact fun state own other member => each state own other (by simp [member])

end Act.Modest

/-! What the entities ask for is meant for entities, and comes after one of their own delays. -/

def Payload.Within (allowed : Nat → Prop) (delay : Nat) (payload : Payload) : Prop :=
  allowed delay ∧ payload.recipient ≠ .orchestrator

def Payload.Carries (allowed : Nat → Prop) (delay : Nat) (payload : Payload) : Prop :=
  allowed delay ∧
    match payload with
    | .device _ (.tupleArrival _) | .delivery _ _ => True
    | _ => False

theorem Payload.Carries.within {allowed : Nat → Prop} {delay : Nat} {payload : Payload}
    (carries : payload.Carries allowed delay) : payload.Within allowed delay := by
  refine ⟨carries.1, ?_⟩
  have tuple := carries.2
  cases payload with
  | device => exact nofun
  | delivery => exact nofun
  | _ => cases tuple

section Entities

variable {allowed : Nat → Prop} {now : Time}

structure Relay.Within (allowed : Nat → Prop) (relay : Relay) : Prop where
  interval : allowed relay.interval
  routes : ∀ name route, relay.routes.get? name = some route → allowed route.latency
  actuators : ∀ actuator, allowed (relay.actuators.getD actuator 0)

def Device.Within (allowed : Nat → Prop) : Device → Prop
  | .relay device => device.Within allowed
  | .recorder _ => True

structure Sensor.Within (allowed : Nat → Prop) (sensor : Sensor) : Prop where
  latency : allowed sensor.latency
  interval : allowed sensor.interval

namespace Relay

variable {relay next : Relay}

theorem Within.of_setup (within : relay.Within allowed) (same : next.setup = relay.setup) :
    next.Within allowed := by
  have own : next.setup.Within allowed := by
    rw [same]
    exact ⟨within.interval, within.routes, within.actuators⟩
  exact ⟨own.interval, own.routes, own.actuators⟩

def standing (relay : Relay) : Relay :=
  { relay with north := [], south := [], energy := 0, executed := 0 }

theorem setup_of_standing (same : next.standing = relay.standing) : next.setup = relay.setup := by
  have setup := congrArg Relay.setup same
  exact setup

theorem Within.of_standing (within : relay.Within allowed)
    (same : next.standing = relay.standing) : next.Within allowed :=
  within.of_setup (setup_of_standing same)

theorem accept_modest (within : relay.Within allowed) (tuple : Tuple) :
    Act.Modest now (Payload.Carries allowed) (relay.accept tuple) (·.standing = relay.standing) := by
  unfold accept
  split
  · exact Act.Modest.look.bind fun _ _ => (Act.Modest.changeUsage _).bind fun _ _ =>
      (Act.Modest.changeTimings _).bind fun _ _ => .pure rfl
  · split
    next route routed =>
      have fits : Payload.Carries allowed route.latency
          (.device route.device (.tupleArrival tuple)) := ⟨within.routes _ route routed, trivial⟩
      exact (Act.Modest.note _).bind fun _ _ => Act.Modest.send fits (.pure rfl)
    · exact (Act.Modest.note _).bind fun _ _ => .pure rfl

theorem deliver_modest (within : relay.Within allowed) (parent : Tuple) (edge : Edge)
    (actuator : ActuatorId) :
    Act.Modest now (Payload.Carries allowed) (relay.deliver parent edge actuator)
      fun _ => True := by
  refine (Act.Modest.withTimings _).bind fun id _ => (Act.Modest.changeUsage _).bind fun _ _ => ?_
  have fits : Payload.Carries allowed (relay.actuators.getD actuator 0)
      (.delivery actuator (Tuple.derived id parent edge)) := ⟨within.actuators actuator, trivial⟩
  exact Act.Modest.sendToActuator fits (.pure trivial)

theorem emitAlong_modest (within : relay.Within allowed) (parent : Tuple) (edge : Edge) :
    Act.Modest now (Payload.Carries allowed) (relay.emitAlong parent edge)
      (·.standing = relay.standing) := by
  unfold emitAlong
  split
  · exact .pure rfl
  · exact (Act.Modest.withTimings _).bind fun _ _ => (Act.Modest.changeUsage _).bind fun _ _ =>
      accept_modest within _
  · exact (Act.Modest.forM fun actuator _ => deliver_modest within parent edge actuator).bind
      fun _ _ => .pure rfl

theorem execute_modest (within : relay.Within allowed) (tuple : Tuple) :
    Act.Modest now (Payload.Carries allowed) (relay.execute tuple) (·.standing = relay.standing) := by
  refine (Act.Modest.endExecution tuple).bind fun _ _ => (Act.Modest.changeUsage _).bind
    fun _ _ => ?_
  dsimp only
  split
  · exact (Act.Modest.note _).bind fun _ _ => .pure rfl
  · refine Act.Modest.look.bind fun _ _ => (Act.Modest.changeTimings _).bind fun _ _ =>
      Act.Modest.foldlM rfl ?_
    intro working same edge _
    exact (emitAlong_modest (within.of_standing same) tuple edge).returns fun _ kept => kept.trans same

theorem serve_modest (within : relay.Within allowed) :
    Act.Modest now (Payload.Carries allowed) relay.serve (·.standing = relay.standing) := by
  refine Act.Modest.foldlM rfl ?_
  intro working kept tuple _
  exact (execute_modest (within.of_standing kept) tuple).returns fun _ again => again.trans kept

theorem rearm_modest (relay : Relay) :
    Act.Modest now (fun delay payload =>
        delay = relay.interval ∧ payload = .device relay.id .manageResources)
      relay.rearm (·.setup = relay.setup) := by
  refine Act.Modest.look.bind fun _ _ => ?_
  split
  · exact Act.Modest.scheduleAfter ⟨rfl, rfl⟩ (.pure rfl)
  · exact .pure rfl

theorem manage_course {before after : Context} (ended : relay.manage.Ends before next after) :
    ∃ armed between, relay.rearm.Ends before armed between ∧
      between.Gains (Payload.Carries fun _ => True) after ∧ next.nextTick = armed.nextTick ∧
      next.setup = armed.setup := by
  simp only [manage, Act.ends_bind_iff, Act.ends_now_iff] at ended
  obtain ⟨armed, _, rearmed, _, between, ⟨rfl, rfl⟩, served⟩ := ended
  have any : (armed.chargeIdle between.now).Within fun _ => True :=
    ⟨trivial, fun _ _ _ => trivial, fun _ => trivial⟩
  obtain ⟨gains, same⟩ := (serve_modest any).ends rfl served
  have tick := congrArg Relay.nextTick same
  have setup : next.setup = (armed.chargeIdle between.now).setup := setup_of_standing same
  exact ⟨armed, between, rearmed, gains, tick, setup⟩

theorem manage_modest (within : relay.Within allowed) :
    Act.Modest now (fun delay payload => payload.Carries allowed delay ∨
        (delay = relay.interval ∧ payload = .device relay.id .manageResources))
      relay.manage (·.setup = relay.setup) := by
  refine (relay.rearm_modest.mono (fun _ _ own => .inr own) fun _ own => own).bind fun armed same =>
    Act.Modest.look.bind fun now _ => ?_
  have charged : (armed.chargeIdle now).Within allowed := within.of_setup same
  exact (serve_modest charged).mono (fun _ _ own => .inl own) fun _ served =>
    (setup_of_standing served).trans same

end Relay

theorem Device.react_modest {device : Device} (within : device.Within allowed)
    (event : DeviceEvent) :
    Act.Modest now (Payload.Within allowed) (device.react event) (·.Within allowed) := by
  cases device with
  | recorder recorder =>
      refine .change ?_
      exact Act.Modest.look.bind fun _ _ => .pure trivial
  | relay relay =>
      refine .change ?_
      cases event with
      | applicationActive application | applicationReceived application =>
          exact .pure ⟨within.interval, within.routes, within.actuators⟩
      | launchModule spec =>
          exact (Act.Modest.note _).bind fun _ _ =>
            .pure ⟨within.interval, within.routes, within.actuators⟩
      | manageResources =>
          refine (Relay.manage_modest within).mono ?_ fun _ same => within.of_setup same
          rintro _ _ (carries | ⟨rfl, rfl⟩)
          · exact carries.within
          · exact ⟨within.interval, nofun⟩
      | tupleArrival tuple =>
          exact (Relay.accept_modest within tuple).mono (fun _ _ own => own.within)
            fun _ same => within.of_standing same

theorem Sensor.arm_modest (sensor : Sensor) :
    Act.Modest now (fun delay payload =>
        delay = sensor.interval ∧ payload = .transmit sensor.id) sensor.arm fun _ => True :=
  Act.Modest.scheduleAfter ⟨rfl, rfl⟩ (.pure trivial)

theorem Sensor.transmit_modest (sensor : Sensor) (application : Application) :
    Act.Modest now (fun delay payload => payload.Carries (· = sensor.latency) delay ∨
        (delay = sensor.interval ∧ payload = .transmit sensor.id))
      (sensor.transmit application)
      (fun next => ∃ sent, next = { sensor with sent := sent }) := by
  unfold transmit
  split
  · exact (Act.Modest.note _).bind fun _ _ => .pure ⟨_, rfl⟩
  · refine Act.Modest.look.bind fun _ _ => (Act.Modest.withTimings _).bind fun id _ =>
      (Act.Modest.changeTimings _).bind fun _ _ => ?_
    refine Act.Modest.send (.inl ⟨rfl, trivial⟩) ?_
    exact (sensor.arm_modest.mono (fun _ _ own => .inr own) fun _ own => own).bind fun _ _ =>
      .pure ⟨_, rfl⟩

theorem Actuator.receive_modest (application : Option Application) (tuple : Tuple)
    (actuator : Actuator) :
    Act.Modest now (Payload.Within allowed) (actuator.receive application tuple) fun _ => True :=
  (Act.Modest.note _).bind fun _ _ => Act.Modest.look.bind fun _ _ =>
    (Act.Modest.changeTimings _).bind fun _ _ => .pure trivial

namespace Orchestrator

structure Within (allowed : Nat → Prop) (orchestrator : Orchestrator) : Prop where
  devices : orchestrator.devices.All (Device.Within allowed)
  sensors : orchestrator.sensors.All (Sensor.Within allowed)
  control : allowed orchestrator.config.controlInterval
  zero : allowed 0

variable {orchestrator : Orchestrator}

theorem launchModule_modest (zero : allowed 0) (application : Application) (device : DeviceId)
    (name : String) :
    Act.Modest now (Payload.Within allowed) (launchModule application device name)
      fun _ => True := by
  unfold launchModule
  split
  · exact .pure trivial
  next spec _ =>
    have told : Payload.Within allowed 0 (.device device (.applicationReceived application)) :=
      ⟨zero, nofun⟩
    have launched : Payload.Within allowed 0 (.device device (.launchModule spec)) :=
      ⟨zero, nofun⟩
    exact Act.Modest.scheduleNow told (Act.Modest.scheduleNow launched (.pure trivial))

theorem activate_modest (within : orchestrator.Within allowed) :
    Act.Modest now (Payload.Within allowed) orchestrator.activate fun _ => True := by
  unfold activate
  split
  · exact .pure trivial
  next held _ =>
    refine (Act.Modest.forM fun device _ => ?_).bind fun _ _ =>
      (Act.Modest.forM fun entry _ => Act.Modest.forM fun name _ =>
        launchModule_modest within.zero held.application entry.1 name).bind fun _ _ =>
      (Act.Modest.forM fun sensor member => ?_).bind fun _ _ =>
      Act.Modest.look.bind fun _ _ => Act.Modest.note _
    · have told : Payload.Within allowed 0
          (.device device (.applicationActive held.application)) := ⟨within.zero, nofun⟩
      exact Act.Modest.scheduleNow told (.pure trivial)
    · have own := within.sensors.mem_values (List.mem_filter.mp member).1
      refine sensor.arm_modest.mono ?_ fun _ done => done
      rintro _ _ ⟨rfl, rfl⟩
      exact ⟨own.interval, nofun⟩

theorem launchDue_modest (within : orchestrator.Within allowed) (application : String) :
    Act.Modest now (Payload.Within allowed) (orchestrator.launchDue application)
      fun _ => True := by
  unfold launchDue
  split
  · exact activate_modest within
  · exact Act.Modest.note _

theorem deliver_modest (within : orchestrator.Within allowed) (device : DeviceId)
    (event : DeviceEvent) :
    Act.Modest now (Payload.Within allowed) (orchestrator.deliver device event)
      (·.Within allowed) := by
  unfold deliver
  split
  · exact (Act.Modest.note _).bind fun _ _ => .pure within
  next target known =>
    refine (Device.react_modest (within.devices device target known) event).bind fun next own => ?_
    exact .pure ⟨within.devices.insert own, within.sensors, within.control, within.zero⟩

theorem transmit_modest (within : orchestrator.Within allowed) (id : SensorId) :
    Act.Modest now (Payload.Within allowed) (orchestrator.transmit id) (·.Within allowed) := by
  unfold transmit
  split
  · exact (Act.Modest.note _).bind fun _ _ => .pure within
  next sensor known =>
    split
    next application _ =>
      split
      · have own := within.sensors id sensor known
        refine ((sensor.transmit_modest application).mono ?_ fun _ same => same).bind ?_
        · rintro _ _ (⟨rfl, entity⟩ | ⟨rfl, rfl⟩)
          · exact Payload.Carries.within ⟨own.latency, entity⟩
          · refine ⟨own.interval, ?_⟩
            rintro ⟨⟩
        · rintro _ ⟨sent, rfl⟩
          have still : Sensor.Within allowed { sensor with sent := sent } :=
            ⟨own.latency, own.interval⟩
          exact .pure ⟨within.devices, within.sensors.insert still, within.control, within.zero⟩
      · exact (Act.Modest.note _).bind fun _ _ => .pure within
    · exact (Act.Modest.note _).bind fun _ _ => .pure within

theorem actuate_modest (within : orchestrator.Within allowed) (id : ActuatorId) (tuple : Tuple) :
    Act.Modest now (Payload.Within allowed) (orchestrator.actuate id tuple)
      (·.Within allowed) := by
  unfold actuate
  split
  · exact (Act.Modest.note _).bind fun _ _ => .pure within
  next actuator _ =>
    refine (Actuator.receive_modest _ tuple actuator).bind fun next _ => ?_
    exact .pure ⟨within.devices, within.sensors, within.control, within.zero⟩

theorem control_modest (orchestrator : Orchestrator) :
    Act.Modest now (fun delay payload =>
        delay = orchestrator.config.controlInterval ∧ payload = .controlTick)
      orchestrator.control
      (· = { orchestrator with controlTicks := orchestrator.controlTicks + 1 }) := by
  refine Act.Modest.look.bind ?_
  rintro now rfl
  refine (Act.Modest.note _).bind fun _ _ => ?_
  dsimp only
  split
  · exact (Act.Modest.note _).bind fun _ _ => .pure rfl
  next time reached =>
    have due := (Time.after?_eq_some_iff.mp reached).2
    exact .scheduleAt due ⟨rfl, rfl⟩ (.pure rfl)

theorem handle_modest_of_tick (orchestrator : Orchestrator) {event : Event}
    (ticks : event.payload = .controlTick) :
    Act.Modest now (fun delay payload =>
        delay = orchestrator.config.controlInterval ∧ payload = .controlTick)
      (orchestrator.handle event)
      (· = { orchestrator with controlTicks := orchestrator.controlTicks + 1 }) := by
  refine Act.Modest.look.bind fun _ _ => (Act.Modest.note _).bind fun _ _ => ?_
  rw [ticks]
  exact orchestrator.control_modest

theorem handle_modest (within : orchestrator.Within allowed) {event : Event}
    (running : event.payload ≠ .stop) (quiet : event.payload ≠ .controlTick) :
    Act.Modest now (Payload.Within allowed) (orchestrator.handle event) (·.Within allowed) := by
  refine Act.Modest.look.bind fun _ _ => (Act.Modest.note _).bind fun _ _ => ?_
  split
  · exact (launchDue_modest within _).bind fun _ _ => .pure within
  next ticks => exact absurd ticks quiet
  · exact (Act.Modest.note _).bind fun _ _ => .pure within
  next stops => exact absurd stops running
  · exact deliver_modest within _ _
  · exact transmit_modest within _
  · exact actuate_modest within _ _

end Orchestrator
end Entities
end FogNetwork
