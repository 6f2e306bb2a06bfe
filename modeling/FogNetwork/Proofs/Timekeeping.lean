import FogNetwork.Proofs.Conversations
import FogNetwork.Proofs.Loops

/-! The time keeper against its history: what it answers and what it holds is what the requests
made of it since the last reset come to. -/

namespace FogNetwork

section

variable {ε α : Type}

/-- What `look` finds in a history since the last item at which it is `cut`. -/
def recent (cut : ε → Bool) (look : ε → Option α) (history : List ε) : List α :=
  (history.reverse.takeWhile fun item => !cut item).reverse.filterMap look

theorem recent_concat (cut : ε → Bool) (look : ε → Option α) (history : List ε) (item : ε) :
    recent cut look (history ++ [item]) =
      if cut item then [] else recent cut look history ++ (look item).toList := by
  unfold recent
  rw [List.reverse_append, List.reverse_singleton, List.singleton_append, List.takeWhile_cons]
  cases cut item with
  | true => rfl
  | false => cases found : look item <;> simp [found]

theorem recent_concat_of_cut {cut : ε → Bool} {item : ε} (cuts : cut item = true)
    (look : ε → Option α) (history : List ε) : recent cut look (history ++ [item]) = [] := by
  simp [recent_concat, cuts]

theorem recent_concat_of_found {cut : ε → Bool} {look : ε → Option α} {item : ε}
    {found : Option α} (goes_on : cut item = false) (finds : look item = found)
    (history : List ε) :
    recent cut look (history ++ [item]) = recent cut look history ++ found.toList := by
  simp [recent_concat, goes_on, finds]

theorem recent_concat_of_seen {cut : ε → Bool} {look : ε → Option α} {item : ε} {value : α}
    (goes_on : cut item = false) (seen : look item = some value) (history : List ε) :
    recent cut look (history ++ [item]) = recent cut look history ++ [value] :=
  recent_concat_of_found goes_on seen history

theorem recent_concat_of_unseen {cut : ε → Bool} {look : ε → Option α} {item : ε}
    (goes_on : cut item = false) (unseen : look item = none) (history : List ε) :
    recent cut look (history ++ [item]) = recent cut look history :=
  (recent_concat_of_found goes_on unseen history).trans (List.append_nil _)

end

namespace Average

def ofSamples? : List Float → Option Average
  | [] => none
  | first :: rest => some (rest.foldl push (ofSample first))

theorem ofSamples?_concat (samples : List Float) (sample : Float) :
    ofSamples? (samples ++ [sample]) = some (extend (ofSamples? samples) sample) := by
  cases samples with
  | nil => rfl
  | cons first rest => simp [ofSamples?, extend]

end Average

theorem LoopTiming.onTime_record (timing : LoopTiming) (latency : Float)
    (deadline : Option Float) :
    (timing.record latency deadline).onTime =
      timing.onTime + if deadline.any (latency ≤ ·) then 1 else 0 := by
  unfold record
  dsimp only
  split
  · rfl
  · rfl

namespace Timings

inductive Request where
  | reset
  | issue
  | start (tuple : Nat) (now : Time)
  | finish (tuple : Nat) (tupleType : String) (now : Time)
  | record (loop : LoopId) (latency : Float) (deadline : Option Float)
  | enter (loop : LoopId) (tuple : Nat) (now : Time)
  | complete (loop : LoopId) (tuple : Nat) (now : Time) (deadline : Option Float)

inductive Reply where
  | done
  | issued (tuple : Nat)
  | measured (elapsed? : Option Float)

namespace Request

def execution? : Request → Option Nat
  | .start tuple _ | .finish tuple _ _ => some tuple
  | _ => none

def tupleType? : Request → Option String
  | .finish _ tupleType _ => some tupleType
  | _ => none

def trip? : Request → Option (LoopId × Nat)
  | .enter loop tuple _ | .complete loop tuple _ _ => some (loop, tuple)
  | _ => none

def timed? : Request → Option LoopId
  | .record loop _ _ | .complete loop _ _ _ => some loop
  | _ => none

end Request

def answer (request : Request) (timings : Timings) : Reply × Timings :=
  match request with
  | .reset => (.done, .initial)
  | .issue => (.issued timings.issue.1, timings.issue.2)
  | .start tuple now => (.done, timings.beginExecution tuple now)
  | .finish tuple tupleType now =>
      let ended := timings.endExecution tuple tupleType now
      (.measured ended.1, ended.2)
  | .record loop latency deadline => (.done, timings.recordLatency loop latency deadline)
  | .enter loop tuple now => (.done, timings.enterLoop loop tuple now)
  | .complete loop tuple now deadline =>
      let completed := timings.completeLoop loop tuple now deadline
      (.measured completed.1, completed.2)

structure Sample where
  latency : Float
  deadline : Option Float

def Sample.isPunctual (sample : Sample) : Bool := sample.deadline.any (sample.latency ≤ ·)

abbrev History := List (Exchange Request Reply)

namespace History

def isReset (exchange : Exchange Request Reply) : Bool :=
  match exchange.request with
  | .reset => true
  | _ => false

def issued (history : History) : List Nat :=
  recent isReset (fun exchange =>
    match exchange.request, exchange.reply with
    | .issue, .issued tuple => some tuple
    | _, _ => none) history

/-- The starts of a tuple's execution since it last ended. -/
def starts (tuple : Nat) (history : History) : List Time :=
  recent
    (fun exchange =>
      match exchange.request with
      | .finish other _ _ => other = tuple
      | _ => isReset exchange)
    (fun exchange =>
      match exchange.request with
      | .start other now => if other = tuple then some now else none
      | _ => none) history

/-- The times at which a tuple was said to enter a loop since it last completed it. -/
def entries (loop : LoopId) (tuple : Nat) (history : History) : List Time :=
  recent
    (fun exchange =>
      match exchange.request with
      | .complete otherLoop other _ _ => (otherLoop, other) = (loop, tuple)
      | _ => isReset exchange)
    (fun exchange =>
      match exchange.request with
      | .enter otherLoop other now =>
          if (otherLoop, other) = (loop, tuple) then some now else none
      | _ => none) history

def executions (tupleType : String) (history : History) : List Float :=
  recent isReset (fun exchange =>
    match exchange.request, exchange.reply with
    | .finish _ other _, .measured taken? => if other = tupleType then taken? else none
    | _, _ => none) history

/-- The latencies of a loop, those reported and those measured. -/
def latencies (loop : LoopId) (history : History) : List Sample :=
  recent isReset (fun exchange =>
    match exchange.request, exchange.reply with
    | .record other latency deadline, _ =>
        if other = loop then some ⟨latency, deadline⟩ else none
    | .complete other _ _ deadline, .measured latency? =>
        if other = loop then latency?.map (⟨·, deadline⟩) else none
    | _, _ => none) history

variable {request : Request} {reply : Reply} {history : History} {tuple : Nat} {loop : LoopId}
variable {tupleType : String}

theorem issued_issue (tuple : Nat) (history : History) :
    History.issued (history ++ [⟨.issue, .issued tuple⟩]) = History.issued history ++ [tuple] := by
  refine recent_concat_of_seen ?_ ?_ history
  · rfl
  · rfl

theorem starts_start (tuple : Nat) (now : Time) (reply : Reply) (history : History) :
    starts tuple (history ++ [⟨.start tuple now, reply⟩]) = starts tuple history ++ [now] := by
  refine recent_concat_of_seen ?_ ?_ history
  · rfl
  · exact if_pos rfl

theorem starts_finish (tuple : Nat) (tupleType : String) (now : Time) (reply : Reply)
    (history : History) : starts tuple (history ++ [⟨.finish tuple tupleType now, reply⟩]) = [] := by
  refine recent_concat_of_cut ?_ _ history
  exact decide_eq_true rfl

theorem entries_enter (loop : LoopId) (tuple : Nat) (now : Time) (reply : Reply)
    (history : History) :
    entries loop tuple (history ++ [⟨.enter loop tuple now, reply⟩]) =
      entries loop tuple history ++ [now] := by
  refine recent_concat_of_seen ?_ ?_ history
  · rfl
  · exact if_pos rfl

theorem entries_complete (loop : LoopId) (tuple : Nat) (now : Time) (deadline : Option Float)
    (reply : Reply) (history : History) :
    entries loop tuple (history ++ [⟨.complete loop tuple now deadline, reply⟩]) = [] := by
  refine recent_concat_of_cut ?_ _ history
  exact decide_eq_true rfl

theorem executions_finish (tuple : Nat) (tupleType : String) (now : Time) (taken? : Option Float)
    (history : History) :
    executions tupleType (history ++ [⟨.finish tuple tupleType now, .measured taken?⟩]) =
      executions tupleType history ++ taken?.toList := by
  refine recent_concat_of_found ?_ ?_ history
  · rfl
  · exact if_pos rfl

theorem latencies_record (loop : LoopId) (latency : Float) (deadline : Option Float)
    (reply : Reply) (history : History) :
    latencies loop (history ++ [⟨.record loop latency deadline, reply⟩]) =
      latencies loop history ++ [⟨latency, deadline⟩] := by
  refine recent_concat_of_seen ?_ ?_ history
  · rfl
  · exact if_pos rfl

theorem latencies_complete (loop : LoopId) (tuple : Nat) (now : Time) (deadline : Option Float)
    (latency? : Option Float) (history : History) :
    latencies loop (history ++ [⟨.complete loop tuple now deadline, .measured latency?⟩]) =
      latencies loop history ++ (latency?.map (⟨·, deadline⟩)).toList := by
  refine recent_concat_of_found ?_ ?_ history
  · rfl
  · exact if_pos rfl

theorem issued_of_other (keeps : request ≠ .reset) (other : request ≠ .issue) :
    issued (history ++ [⟨request, reply⟩]) = issued history := by
  cases request with
  | reset => exact absurd rfl keeps
  | issue => exact absurd rfl other
  | start | finish | record | enter | complete => exact recent_concat_of_unseen rfl rfl history

theorem starts_of_other (keeps : request ≠ .reset) (other : request.execution? ≠ some tuple) :
    starts tuple (history ++ [⟨request, reply⟩]) = starts tuple history := by
  cases request with
  | reset => exact absurd rfl keeps
  | start started now =>
      have apart : started ≠ tuple := fun same => other (congrArg some same)
      refine recent_concat_of_unseen rfl ?_ history
      exact if_neg apart
  | finish ended tupleType now =>
      have apart : ended ≠ tuple := fun same => other (congrArg some same)
      refine recent_concat_of_unseen ?_ rfl history
      exact decide_eq_false apart
  | issue | record | enter | complete => exact recent_concat_of_unseen rfl rfl history

theorem entries_of_other (keeps : request ≠ .reset) (other : request.trip? ≠ some (loop, tuple)) :
    entries loop tuple (history ++ [⟨request, reply⟩]) = entries loop tuple history := by
  cases request with
  | reset => exact absurd rfl keeps
  | enter entered started now =>
      have apart : (entered, started) ≠ (loop, tuple) := fun same => other (congrArg some same)
      refine recent_concat_of_unseen rfl ?_ history
      exact if_neg apart
  | complete completed ended now deadline =>
      have apart : (completed, ended) ≠ (loop, tuple) := fun same => other (congrArg some same)
      refine recent_concat_of_unseen ?_ rfl history
      exact decide_eq_false apart
  | issue | start | finish | record => exact recent_concat_of_unseen rfl rfl history

theorem executions_of_other (keeps : request ≠ .reset)
    (other : request.tupleType? ≠ some tupleType) :
    executions tupleType (history ++ [⟨request, reply⟩]) = executions tupleType history := by
  cases request with
  | reset => exact absurd rfl keeps
  | finish tuple ended now =>
      have apart : ended ≠ tupleType := fun same => other (congrArg some same)
      refine recent_concat_of_unseen rfl ?_ history
      cases reply <;> simp [apart]
  | issue | start | record | enter | complete => exact recent_concat_of_unseen rfl rfl history

theorem latencies_of_other (keeps : request ≠ .reset) (other : request.timed? ≠ some loop) :
    latencies loop (history ++ [⟨request, reply⟩]) = latencies loop history := by
  cases request with
  | reset => exact absurd rfl keeps
  | record told latency deadline =>
      have apart : told ≠ loop := fun same => other (congrArg some same)
      refine recent_concat_of_unseen rfl ?_ history
      exact if_neg apart
  | complete completed tuple now deadline =>
      have apart : completed ≠ loop := fun same => other (congrArg some same)
      refine recent_concat_of_unseen rfl ?_ history
      cases reply <;> simp [apart]
  | issue | start | finish | enter => exact recent_concat_of_unseen rfl rfl history

end History

section

variable {request : Request} {timings : Timings} {tuple : Nat} {loop : LoopId}
variable {tupleType : String}

theorem endExecution_fst (timings : Timings) (tuple : Nat) (tupleType : String) (now : Time) :
    (timings.endExecution tuple tupleType now).1 =
      (timings.started.get? tuple).map (·.elapsed now) := by
  unfold endExecution
  cases timings.started.get? tuple with
  | none => rfl
  | some start => rfl

theorem started_endExecution (timings : Timings) (tuple wanted : Nat) (tupleType : String)
    (now : Time) :
    (timings.endExecution tuple tupleType now).2.started.get? wanted =
      if wanted = tuple then none else timings.started.get? wanted := by
  unfold endExecution
  cases known : timings.started.get? tuple with
  | none =>
      dsimp only
      split
      next same => rw [same, known]
      · rfl
  | some start => exact SortedMap.get?_erase ..

theorem typeAverage?_endExecution (timings : Timings) (tuple : Nat) (tupleType wanted : String)
    (now : Time) :
    (timings.endExecution tuple tupleType now).2.typeAverage? wanted =
      if wanted = tupleType then
        match (timings.endExecution tuple tupleType now).1 with
        | none => timings.typeAverage? wanted
        | some taken => some (Average.extend (timings.typeAverage? wanted) taken)
      else timings.typeAverage? wanted := by
  unfold endExecution
  cases timings.started.get? tuple with
  | none => exact (ite_self _).symm
  | some start =>
      refine (SortedMap.get?_insert ..).trans ?_
      split
      next same => rw [same]; rfl
      · rfl

theorem endExecution_keeps (timings : Timings) (tuple : Nat) (tupleType : String) (now : Time) :
    (timings.endExecution tuple tupleType now).2.nextTuple = timings.nextTuple ∧
      (timings.endExecution tuple tupleType now).2.loopTiming = timings.loopTiming := by
  unfold endExecution
  cases timings.started.get? tuple with
  | none => exact ⟨rfl, rfl⟩
  | some start => exact ⟨rfl, rfl⟩

theorem completeLoop_fst (timings : Timings) (loop : LoopId) (tuple : Nat) (now : Time)
    (deadline : Option Float) :
    (timings.completeLoop loop tuple now deadline).1 =
      ((timings.loopTiming loop).members.get? tuple).map (·.elapsed now) := by
  rw [completeLoop, show timings.loops.getD loop .initial = timings.loopTiming loop from rfl]
  cases (timings.loopTiming loop).members.get? tuple with
  | none => rfl
  | some entered => rfl

theorem loopTiming_completeLoop (timings : Timings) (loop wanted : LoopId) (tuple : Nat)
    (now : Time) (deadline : Option Float) :
    (timings.completeLoop loop tuple now deadline).2.loopTiming wanted =
      if wanted = loop then
        match (timings.completeLoop loop tuple now deadline).1 with
        | none => timings.loopTiming wanted
        | some latency =>
            { timings.loopTiming wanted with
              members := (timings.loopTiming wanted).members.erase tuple }.record latency deadline
      else timings.loopTiming wanted := by
  unfold completeLoop
  cases (timings.loops.getD loop .initial).members.get? tuple with
  | none => exact (ite_self _).symm
  | some entered =>
      refine (loopTiming_changeLoop ..).trans ?_
      split
      next same => rw [same]
      · rfl

theorem nextTuple_answer_of_other (keeps : request ≠ .reset) (other : request ≠ .issue) :
    (answer request timings).2.nextTuple = timings.nextTuple := by
  cases request with
  | reset => exact absurd rfl keeps
  | issue => exact absurd rfl other
  | start | record | enter => rfl
  | finish tuple tupleType now => exact (timings.endExecution_keeps tuple tupleType now).1
  | complete loop tuple now deadline =>
      obtain ⟨loops, changed⟩ := timings.completeLoop_changesLoops loop tuple now deadline
      rw [answer, changed]

theorem started_answer_of_other (keeps : request ≠ .reset)
    (other : request.execution? ≠ some tuple) :
    (answer request timings).2.started.get? tuple = timings.started.get? tuple := by
  cases request with
  | reset => exact absurd rfl keeps
  | issue | record | enter => rfl
  | start started now =>
      exact SortedMap.get?_insert_of_ne _ _ fun same => other (congrArg some same.symm)
  | finish ended tupleType now =>
      refine (started_endExecution ..).trans (if_neg ?_)
      exact fun same => other (congrArg some same.symm)
  | complete loop tuple now deadline =>
      obtain ⟨loops, changed⟩ := timings.completeLoop_changesLoops loop tuple now deadline
      rw [answer, changed]

theorem typeAverage?_answer_of_other (keeps : request ≠ .reset)
    (other : request.tupleType? ≠ some tupleType) :
    (answer request timings).2.typeAverage? tupleType = timings.typeAverage? tupleType := by
  cases request with
  | reset => exact absurd rfl keeps
  | issue | start | record | enter => rfl
  | finish tuple ended now =>
      refine (typeAverage?_endExecution ..).trans (if_neg ?_)
      exact fun same => other (congrArg some same.symm)
  | complete loop tuple now deadline =>
      obtain ⟨loops, changed⟩ := timings.completeLoop_changesLoops loop tuple now deadline
      rw [answer, changed]
      rfl

theorem entered_answer_of_other (keeps : request ≠ .reset)
    (other : request.trip? ≠ some (loop, tuple)) :
    ((answer request timings).2.loopTiming loop).members.get? tuple =
      (timings.loopTiming loop).members.get? tuple := by
  cases request with
  | reset => exact absurd rfl keeps
  | issue | start => rfl
  | finish ended tupleType now =>
      rw [answer, (timings.endExecution_keeps ended tupleType now).2]
  | record told latency deadline =>
      rw [answer, recordLatency, loopTiming_changeLoop]
      split
      next same => rw [same]; rfl
      · rfl
  | enter entered started now =>
      rw [answer, loopTiming_enterLoop]
      split
      next same =>
        subst same
        have apart : tuple ≠ started := fun same => other (same ▸ rfl)
        unfold LoopTiming.enter
        split
        · rfl
        · exact SortedMap.get?_insert_of_ne _ _ apart
      · rfl
  | complete completed ended now deadline =>
      rw [answer, loopTiming_completeLoop]
      split
      next same =>
        subst same
        have apart : tuple ≠ ended := fun same => other (same ▸ rfl)
        split
        · rfl
        · exact (SortedMap.get?_erase ..).trans (if_neg apart)
      · rfl

theorem timed_answer_of_other (keeps : request ≠ .reset) (other : request.timed? ≠ some loop) :
    ((answer request timings).2.loopTiming loop).latency = (timings.loopTiming loop).latency ∧
      ((answer request timings).2.loopTiming loop).onTime = (timings.loopTiming loop).onTime := by
  cases request with
  | reset => exact absurd rfl keeps
  | issue | start => exact ⟨rfl, rfl⟩
  | finish ended tupleType now =>
      rw [answer, (timings.endExecution_keeps ended tupleType now).2]
      exact ⟨rfl, rfl⟩
  | record told latency deadline =>
      have apart : loop ≠ told := fun same => other (same ▸ rfl)
      rw [answer, recordLatency, loopTiming_changeLoop, if_neg apart]
      exact ⟨rfl, rfl⟩
  | enter entered started now =>
      rw [answer, loopTiming_enterLoop]
      split
      next same =>
        subst same
        unfold LoopTiming.enter
        split
        · exact ⟨rfl, rfl⟩
        · exact ⟨rfl, rfl⟩
      · exact ⟨rfl, rfl⟩
  | complete completed tuple now deadline =>
      have apart : loop ≠ completed := fun same => other (same ▸ rfl)
      rw [answer, loopTiming_completeLoop, if_neg apart]
      exact ⟨rfl, rfl⟩

end

structure Recalls (history : History) (timings : Timings) : Prop where
  nextTuple : timings.nextTuple = (History.issued history).length + 1
  issued : History.issued history = List.range' 1 (History.issued history).length
  started : ∀ tuple, timings.started.get? tuple = (History.starts tuple history).getLast?
  entered : ∀ loop tuple,
    (timings.loopTiming loop).members.get? tuple = (History.entries loop tuple history).head?
  tupleTypes : ∀ tupleType,
    timings.typeAverage? tupleType = Average.ofSamples? (History.executions tupleType history)
  latency : ∀ loop, (timings.loopTiming loop).latency =
    Average.ofSamples? ((History.latencies loop history).map (·.latency))
  onTime : ∀ loop, (timings.loopTiming loop).onTime =
    (History.latencies loop history).countP (·.isPunctual)

theorem Recalls.initial : Recalls [] .initial :=
  ⟨rfl, rfl, fun _ => rfl, fun _ _ => rfl, fun _ => rfl, fun _ => rfl, fun _ => rfl⟩

theorem Recalls.reset (history : History) : Recalls (history ++ [⟨.reset, .done⟩]) .initial := by
  have none {α : Type} {cut : Exchange Request Reply → Bool}
      {look : Exchange Request Reply → Option α} (cuts : cut ⟨.reset, .done⟩ = true) :
      recent cut look (history ++ [⟨.reset, .done⟩]) = [] := recent_concat_of_cut cuts look history
  constructor
  · rw [History.issued, none rfl]
    rfl
  · rw [History.issued, none rfl]
    rfl
  · intro tuple
    rw [History.starts, none rfl]
    rfl
  · intro loop tuple
    rw [History.entries, none rfl]
    rfl
  · intro tupleType
    rw [History.executions, none rfl]
    rfl
  · intro loop
    rw [History.latencies, none rfl]
    rfl
  · intro loop
    rw [History.latencies, none rfl]
    rfl

namespace Recalls

variable {history : History} {timings : Timings} {request : Request}

theorem nextTuple_next (recalls : Recalls history timings) (keeps : request ≠ .reset) :
    (answer request timings).2.nextTuple = (History.issued
      (history ++ [⟨request, (answer request timings).1⟩])).length + 1 := by
  by_cases issues : request = .issue
  · subst issues
    rw [answer, History.issued_issue, List.length_append, List.length_singleton,
      ← recalls.nextTuple]
    rfl
  · rw [nextTuple_answer_of_other keeps issues, History.issued_of_other keeps issues]
    exact recalls.nextTuple

theorem issued_next (recalls : Recalls history timings) (keeps : request ≠ .reset) :
    History.issued (history ++ [⟨request, (answer request timings).1⟩]) =
      List.range' 1 (History.issued
        (history ++ [⟨request, (answer request timings).1⟩])).length := by
  by_cases issues : request = .issue
  · subst issues
    rw [answer, History.issued_issue, List.length_append, List.length_singleton,
      List.range'_1_concat, ← recalls.issued, Nat.add_comm 1, ← recalls.nextTuple]
    rfl
  · rw [History.issued_of_other keeps issues]
    exact recalls.issued

theorem started_next (recalls : Recalls history timings) (keeps : request ≠ .reset)
    (tuple : Nat) :
    (answer request timings).2.started.get? tuple = (History.starts tuple
      (history ++ [⟨request, (answer request timings).1⟩])).getLast? := by
  by_cases own : request.execution? = some tuple
  · cases request with
    | start other now =>
        cases own
        rw [answer, History.starts_start, List.getLast?_concat]
        exact SortedMap.get?_insert_self ..
    | finish other tupleType now =>
        cases own
        rw [answer, History.starts_finish]
        exact (started_endExecution ..).trans (if_pos rfl)
    | reset | issue | record | enter | complete => cases own
  · rw [started_answer_of_other keeps own, History.starts_of_other keeps own]
    exact recalls.started tuple

theorem entered_next (recalls : Recalls history timings) (keeps : request ≠ .reset)
    (loop : LoopId) (tuple : Nat) :
    ((answer request timings).2.loopTiming loop).members.get? tuple = (History.entries loop tuple
      (history ++ [⟨request, (answer request timings).1⟩])).head? := by
  have known := recalls.entered loop tuple
  by_cases own : request.trip? = some (loop, tuple)
  · cases request with
    | enter otherLoop other now =>
        cases own
        rw [answer, loopTiming_enterLoop, if_pos rfl, History.entries_enter, List.head?_append,
          ← known]
        cases inside : (timings.loopTiming loop).members.get? tuple with
        | none =>
            rw [LoopTiming.enter_of_fresh inside]
            exact SortedMap.get?_insert_self ..
        | some entered =>
            have contained : (timings.loopTiming loop).members.contains tuple = true := by
              simp [SortedMap.contains, inside]
            rw [LoopTiming.enter, if_pos contained, inside]
            rfl
    | complete otherLoop other now deadline =>
        cases own
        rw [answer, loopTiming_completeLoop, if_pos rfl, completeLoop_fst, History.entries_complete]
        cases inside : (timings.loopTiming loop).members.get? tuple with
        | none => exact inside
        | some entered => exact (SortedMap.get?_erase ..).trans (if_pos rfl)
    | reset | issue | start | finish | record => cases own
  · rw [entered_answer_of_other keeps own, History.entries_of_other keeps own]
    exact known

theorem tupleTypes_next (recalls : Recalls history timings) (keeps : request ≠ .reset)
    (tupleType : String) :
    (answer request timings).2.typeAverage? tupleType = Average.ofSamples?
      (History.executions tupleType (history ++ [⟨request, (answer request timings).1⟩])) := by
  have known := recalls.tupleTypes tupleType
  by_cases own : request.tupleType? = some tupleType
  · cases request with
    | finish tuple other now =>
        cases own
        rw [answer, typeAverage?_endExecution, if_pos rfl, History.executions_finish]
        cases (timings.endExecution tuple tupleType now).1 with
        | none => simpa using known
        | some elapsed => rw [Option.toList_some, Average.ofSamples?_concat, ← known]
    | reset | issue | start | record | enter | complete => cases own
  · rw [typeAverage?_answer_of_other keeps own, History.executions_of_other keeps own]
    exact known

theorem latency_next (recalls : Recalls history timings) (keeps : request ≠ .reset)
    (loop : LoopId) :
    ((answer request timings).2.loopTiming loop).latency = Average.ofSamples?
      ((History.latencies loop (history ++ [⟨request, (answer request timings).1⟩])).map
        (·.latency)) := by
  have known := recalls.latency loop
  by_cases own : request.timed? = some loop
  · cases request with
    | record other latency deadline =>
        cases own
        rw [answer, recordLatency, loopTiming_changeLoop, if_pos rfl, History.latencies_record,
          List.map_append, List.map_singleton, Average.ofSamples?_concat, ← known]
        rfl
    | complete other tuple now deadline =>
        cases own
        rw [answer, loopTiming_completeLoop, if_pos rfl, History.latencies_complete]
        cases (timings.completeLoop loop tuple now deadline).1 with
        | none => simpa using known
        | some latency =>
            rw [Option.map_some, Option.toList_some, List.map_append, List.map_singleton,
              Average.ofSamples?_concat, ← known]
            rfl
    | reset | issue | start | finish | enter => cases own
  · rw [(timed_answer_of_other keeps own).1, History.latencies_of_other keeps own]
    exact known

theorem onTime_next (recalls : Recalls history timings) (keeps : request ≠ .reset)
    (loop : LoopId) :
    ((answer request timings).2.loopTiming loop).onTime =
      (History.latencies loop (history ++ [⟨request, (answer request timings).1⟩])).countP
        (·.isPunctual) := by
  have known := recalls.onTime loop
  have counted (sample : Sample) :
      ([sample] : List Sample).countP (·.isPunctual) = if sample.isPunctual then 1 else 0 :=
    List.countP_singleton
  by_cases own : request.timed? = some loop
  · cases request with
    | record other latency deadline =>
        cases own
        rw [answer, recordLatency, loopTiming_changeLoop, if_pos rfl, History.latencies_record,
          List.countP_append, ← known, counted]
        exact LoopTiming.onTime_record ..
    | complete other tuple now deadline =>
        cases own
        rw [answer, loopTiming_completeLoop, if_pos rfl, History.latencies_complete]
        cases (timings.completeLoop loop tuple now deadline).1 with
        | none => simpa using known
        | some latency =>
            rw [Option.map_some, Option.toList_some, List.countP_append, ← known, counted]
            exact LoopTiming.onTime_record ..
    | reset | issue | start | finish | enter => cases own
  · rw [(timed_answer_of_other keeps own).2, History.latencies_of_other keeps own]
    exact known

theorem next (recalls : Recalls history timings) (request : Request) :
    Recalls (history ++ [⟨request, (answer request timings).1⟩]) (answer request timings).2 := by
  by_cases keeps : request = .reset
  · subst keeps
    exact .reset history
  · exact ⟨recalls.nextTuple_next keeps, recalls.issued_next keeps, recalls.started_next keeps,
      recalls.entered_next keeps, recalls.tupleTypes_next keeps, recalls.latency_next keeps,
      recalls.onTime_next keeps⟩

end Recalls

theorem converse?_recalls (requests : List Request) :
    ∃ history timings,
      converse? (fun request timings => some (answer request timings)) requests .initial =
        some (history, timings) ∧
      history.map (·.request) = requests ∧ Recalls history timings := by
  refine converse?_keeps _ (motive := fun _ history timings => Recalls history timings) ?_ .initial
  intro request rest history timings recalls
  exact ⟨_, _, rfl, recalls.next request⟩

theorem loopAverage?_eq (timings : Timings) (loop : LoopId) :
    timings.loopAverage? loop = (timings.loopTiming loop).latency := by
  rw [loopAverage?, loopTiming, loopTiming?]
  cases timings.loops.get? loop with
  | none => rfl
  | some timing => rfl

/-- Tuples are numbered from one. An execution is measured from its latest start, a trip around a
loop from its earliest entry, and neither twice. The averages are those of the samples in order,
and nothing but a reset touches what concerns other tuples, types or loops. -/
theorem answers_from_history (requests : List Request) :
    ∃ history timings,
      converse? (fun request timings => some (answer request timings)) requests .initial =
        some (history, timings) ∧
      history.map (·.request) = requests ∧
      (History.issued history = List.range' 1 (History.issued history).length ∧
        timings.issue.1 = (History.issued history).length + 1) ∧
      (∀ tuple tupleType now, (timings.endExecution tuple tupleType now).1 =
        (History.starts tuple history).getLast?.map (·.elapsed now)) ∧
      (∀ loop tuple now deadline, (timings.completeLoop loop tuple now deadline).1 =
        (History.entries loop tuple history).head?.map (·.elapsed now)) ∧
      (∀ tupleType, timings.typeAverage? tupleType =
        Average.ofSamples? (History.executions tupleType history)) ∧
      (∀ loop, timings.loopAverage? loop =
          Average.ofSamples? ((History.latencies loop history).map (·.latency)) ∧
        (timings.loopTiming loop).onTime =
          (History.latencies loop history).countP (·.isPunctual)) ∧
      (∀ request, request ≠ .reset →
        let after := (answer request timings).2
        (request ≠ .issue → after.issue.1 = timings.issue.1) ∧
        (∀ tuple, request.execution? ≠ some tuple → ∀ tupleType now,
          (after.endExecution tuple tupleType now).1 =
            (timings.endExecution tuple tupleType now).1) ∧
        (∀ loop tuple, request.trip? ≠ some (loop, tuple) → ∀ now deadline,
          (after.completeLoop loop tuple now deadline).1 =
            (timings.completeLoop loop tuple now deadline).1) ∧
        (∀ tupleType, request.tupleType? ≠ some tupleType →
          after.typeAverage? tupleType = timings.typeAverage? tupleType) ∧
        (∀ loop, request.timed? ≠ some loop →
          after.loopAverage? loop = timings.loopAverage? loop ∧
            (after.loopTiming loop).onTime = (timings.loopTiming loop).onTime)) := by
  obtain ⟨history, timings, answered, asked, recalls⟩ := converse?_recalls requests
  refine ⟨history, timings, answered, asked, ⟨recalls.issued, recalls.nextTuple⟩, ?_, ?_,
    recalls.tupleTypes, ?_, ?_⟩
  · intro tuple tupleType now
    rw [endExecution_fst, recalls.started]
  · intro loop tuple now deadline
    rw [completeLoop_fst, recalls.entered]
  · intro loop
    rw [loopAverage?_eq]
    exact ⟨recalls.latency loop, recalls.onTime loop⟩
  · intro request keeps
    refine ⟨nextTuple_answer_of_other keeps, ?_, ?_,
      fun _ => typeAverage?_answer_of_other keeps, ?_⟩
    · intro tuple other tupleType now
      rw [endExecution_fst, endExecution_fst, started_answer_of_other keeps other]
    · intro loop tuple other now deadline
      rw [completeLoop_fst, completeLoop_fst, entered_answer_of_other keeps other]
    · intro loop other
      rw [loopAverage?_eq, loopAverage?_eq]
      exact timed_answer_of_other keeps other

end Timings
end FogNetwork
