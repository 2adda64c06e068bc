import CacheSteward.Proofs.Failures
import Mathlib.Control.Monad.Basic

namespace CacheSteward

/-! What a reconciliation reports of its steps.

When a step fails, the fault that leaves and the audit trail name that step and the steps before it.
These are the steps that were called for and then shown; behind the failed one nothing was called
for.  When all steps are done, a failure of the reading behind them says nothing about steps.
-/

variable {τ ω : Type}

namespace Fault

variable {fault : Fault} {instanceId : Value}

/-- The details say which step failed, which steps stay applied, and that none was taken back. -/
structure Reports (fault : Fault) (step : Step) (completed : List Step) : Prop where
  known : fault.isKnown = true
  failed : fault.detail? "step" = some (.text step.kind.word)
  completed : fault.detail? "completed_steps" =
    some (.list (completed.map fun done => .text done.kind.word))
  kept : fault.detail? "rolled_back" = some (.flag false)

def reportNames : List String := ["step", "completed_steps", "rolled_back"]

/-- The details say nothing about steps. -/
def Stepless (fault : Fault) : Prop := ∀ name ∈ reportNames, fault.detail? name = none

theorem lookup_putDetail_self (name : String) (v : Value) (details : List (String × Value)) :
    (putDetail name v details).lookup name = some v := by
  induction details with
  | nil => simp [putDetail]
  | cons detail rest ih =>
      obtain ⟨k, w⟩ := detail
      by_cases same : k = name
      · subst same
        simp [putDetail]
      · have different : (name == k) = false := by simpa using fun equal => same equal.symm
        simp only [putDetail, same, if_false, List.lookup_cons, different, ih]

/-- Whatever a fault says already, the report of a step is added to it. -/
theorem reports_stepReport (about : FaultKind) (message : String)
    (details : List (String × Value)) (cause : Option Fault) (step : Step)
    (completed : List Step) :
    (Fault.known about message (Service.stepReport step completed details) cause).Reports step
      completed := by
  refine ⟨rfl, ?_, ?_, lookup_putDetail_self _ _ _⟩
  · refine (lookup_putDetail_of_ne (by decide) _ _).trans ?_
    refine (lookup_putDetail_of_ne (by decide) _ _).trans ?_
    exact lookup_putDetail_self _ _ _
  · refine (lookup_putDetail_of_ne (by decide) _ _).trans ?_
    exact lookup_putDetail_self _ _ _

theorem stepless_of_raw (raw : fault.isKnown = false) : fault.Stepless :=
  fun name _ => detail?_of_raw raw name

theorem stepless_of_names {names : List String} (apart : ∀ name ∈ reportNames, name ∉ names)
    (unnamed : ∀ {name : String}, name ∉ names → fault.detail? name = none) : fault.Stepless :=
  fun name member => unnamed (apart name member)

end Fault

/-! ### A sample -/

namespace Sample

def renamed : Step := ⟨.rename, "scs-1", [("instance_name", .text "after")]⟩

def resized : Step := ⟨.resizeNodeType, "scs-1", [("node_type", .text "large")]⟩

/-- The name changes, and then the resize fails. -/
def halfway : Session Rat (List (Except Fault Value)) where
  world := [.ok .null, .ok (runningDetail "after" "small"), .error (.plain .value [])]

end Sample

variable [Timescale τ]

namespace Service

variable {service : Service τ ω} {budget : Budget τ} {step : Step}
  {exchanges : List (Exchange τ)}

/-- How a reconciliation ends that has steps to run on a free instance, and what the audit trail
says behind its start. -/
inductive Reported (service : Service τ ω) (handle : InstanceHandle) :
    List Step → List (Exchange τ) → List LogRecord → Except Halt Reconciled → Prop where
  /-- The steps before the failed one are applied, and behind it nothing is called for. -/
  | failed {done rest : List Step} {step : Step} {earlier last : List (Exchange τ)}
      {clientToken : String} {fault : Fault} (applied : Applied done earlier)
      (unapplied : Block clientToken step last false) (reports : fault.Reports step done) :
      Reported service handle (done ++ step :: rest) (earlier ++ last)
        (successes done ++ [(failureEntry step fault).record]) (.error (.fault fault))
  /-- A wait is cut short at the horizon. -/
  | cut {done rest : List Step} {step : Step} {earlier last : List (Exchange τ)}
      {clientToken : String} (applied : Applied done earlier)
      (unapplied : Block clientToken step last false) (far : service.horizon ≤ last.length) :
      Reported service handle (done ++ step :: rest) (earlier ++ last) (successes done)
        (.error .unfinished)
  | read {steps : List Step} {exchanges reads : List (Exchange τ)} {last : Exchange τ}
      {detail : Value} {updated : InstanceHandle} (applied : Applied steps exchanges)
      (called : ∀ read ∈ reads, read.call = .getInstanceDetail (.text handle.instanceId))
      (atEnd : reads.getLast? = some last) (answered : last.outcome = .ok detail)
      (decoded : InstanceHandle.ofDetail (.text handle.instanceId) detail = .ok updated) :
      Reported service handle steps (exchanges ++ reads)
        (successes steps ++ [(finishEntry handle.instanceId updated).record])
        (.ok (.updated updated))
  /-- The fault is that of the reading behind the last step. -/
  | unread {steps : List Step} {exchanges reads : List (Exchange τ)}
      {seen : Except Halt (Option InstanceHandle)} {fault : Fault}
      (applied : Applied steps exchanges)
      (reading : service.Reading (.text handle.instanceId) reads seen)
      (fails : existing (.text handle.instanceId) .read seen = .error (.fault fault))
      (stepless : fault.Stepless) :
      Reported service handle steps (exchanges ++ reads) (successes steps)
        (.error (.fault fault))

theorem Stops.reported {handle : InstanceHandle} {steps : List Step} {trail : List LogRecord}
    {halt : Halt} (usable : budget.Usable)
    (stops : service.Stops budget [] steps exchanges trail halt)
    (ordinary : ∀ exchange ∈ exchanges, exchange.Ordinary) :
    service.Reported handle steps exchanges trail (.error halt) := by
  obtain ⟨settled, kept⟩ := usable.settled
  cases stops with
  | @behind done rest step earlier last reason applied run =>
      obtain ⟨_, _, block, _⟩ := run.announces kept
      cases reason with
      | unfinished =>
          have cut : service.Reported handle (done ++ step :: rest) (earlier ++ last)
              (successes done) (.error .unfinished) := .cut applied block run.horizon_le
          rw [← List.append_nil (successes done)] at cut
          exact cut
      | fault fault =>
          have known : fault.isKnown = true := by
            rcases run.arises kept fun exchange member =>
              ordinary exchange (List.mem_append_right _ member) with arises | fails
            · exact arises.isKnown
            · exact absurd fails (usable.not_fails fault)
          cases fault with
          | known about message details cause =>
              exact .failed applied block (Fault.reports_stepReport about message details cause _ _)
          | _ => cases known

variable [LawfulTimescale τ]

theorem Reading.stepless {instanceId : Value} {kind : OperationKind} {fault : Fault}
    {seen : Except Halt (Option InstanceHandle)}
    (reading : service.Reading instanceId exchanges seen)
    (failed : existing instanceId kind seen = .error (.fault fault))
    (ordinary : ∀ exchange ∈ exchanges, exchange.Ordinary) : fault.Stepless := by
  rcases reading.fails failed ordinary with
    arises | unaccepted | ⟨budget, _, fails⟩ | ⟨_, _, _, _, _, unknown⟩
  · exact Fault.stepless_of_names (by decide) arises.detail?_eq_none
  · exact Fault.stepless_of_names (by decide) (Budget.detail?_of_make_eq_error unaccepted)
  · exact Fault.stepless_of_raw (raw_of_fails fails)
  · exact Fault.stepless_of_names (by decide) (Detail.detail?_of_clusterType_eq_error unknown)

theorem Updating.reported {handle : InstanceHandle} {steps : List Step} {trail : List LogRecord}
    {result : Except Halt Reconciled} (usable : budget.Usable)
    (updating : service.Updating handle.instanceId steps budget exchanges trail result)
    (ordinary : ∀ exchange ∈ exchanges, exchange.Ordinary) :
    service.Reported handle steps exchanges trail result := by
  cases updating with
  | stopped run => exact run.stops.reported usable ordinary
  | finished run reading =>
      obtain ⟨applied, rfl⟩ := run.applies
      have ordinaryReads := fun exchange member =>
        ordinary exchange (List.mem_append_right _ member)
      cases ended : existing (.text handle.instanceId) .read _ with
      | ok updated =>
          obtain ⟨called, last, detail, atEnd, answered, decoded⟩ := reading.found_last ended
          exact .read applied called atEnd (congrArg Prod.snd answered) decoded
      | error halt =>
          cases halt with
          | unfinished => exact absurd ended reading.ne_unfinished
          | fault fault =>
              have unread := Reported.unread applied reading ended
                (reading.stepless ended ordinaryReads)
              rw [← List.append_nil (successes steps)] at unread
              exact unread

/-- A reconciliation that has steps to run reports exactly the steps that it applied: in the fault
of the one that fails, and in the audit trail.  A failure behind the last of them says nothing about
steps. -/
theorem reconcile_reports (solitary : service.surroundings.Solitary) {handle : InstanceHandle}
    {spec : DesiredSpec} {timeout : Option τ} {steps : List Step} {before : Session τ ω}
    (plan : Plan.steps handle spec = .ok steps) (changes : steps ≠ [])
    (accepted : Budget.make (timeout.getD service.timeouts.update) service.timeouts.interval =
      .ok budget)
    (usable : budget.Usable)
    (free : before.inFlight.find? (.text handle.instanceId) = none) :
    ∃ added exchanges trail,
      (service.reconcile handle spec timeout before).2.events = before.events ++ added ∧
      callsOf added = exchanges.map Exchange.call ∧
      answersOf added = exchanges.map Exchange.answer ∧
      auditsOf added = (startEntry handle.instanceId steps).record :: trail ∧
      ((∀ exchange ∈ exchanges, exchange.Ordinary) → service.Reported handle steps exchanges trail
        (service.reconcile handle spec timeout before).1) := by
  obtain ⟨added, exchanges, _, extended, told, reconciling⟩ :=
    reconcile_tells solitary.encloses solitary.keeps handle spec timeout before
  obtain ⟨trail, rfl, updating⟩ := reconciling.updating plan changes accepted free
  exact ⟨added, exchanges, trail, extended, told.flat.1, told.flat.2, told.trail,
    updating.reported usable⟩

/-- The rename is done when the resize fails. -/
theorem reconcile_reports_halfway :
    ∃ added exchanges trail,
      (Sample.scripted.reconcile Sample.pair Sample.grown none Sample.halfway).2.events = added ∧
      callsOf added = exchanges.map Exchange.call ∧
      answersOf added = exchanges.map Exchange.answer ∧
      auditsOf added = (startEntry "scs-1" [Sample.renamed, Sample.resized]).record :: trail ∧
      Sample.scripted.Reported Sample.pair [Sample.renamed, Sample.resized] exchanges trail
        (Sample.scripted.reconcile Sample.pair Sample.grown none Sample.halfway).1 := by
  have plan : Plan.steps Sample.pair Sample.grown = .ok [Sample.renamed, Sample.resized] := rfl
  have accepted : Budget.make ((none : Option Rat).getD Sample.scripted.timeouts.update)
      Sample.scripted.timeouts.interval = .ok ⟨1800, 10⟩ := rfl
  have free : Sample.halfway.inFlight.find? (.text Sample.pair.instanceId) = none := rfl
  obtain ⟨added, exchanges, trail, extended, called, answered, noted, reported⟩ :=
    reconcile_reports Sample.scripted_solitary plan (List.cons_ne_nil _ _) accepted
      (Budget.usable_exact _) free
  have added_eq := extended.trans (List.nil_append added)
  refine ⟨added, exchanges, trail, added_eq, called, answered, noted, reported ?_⟩
  have answers : answersOf
        (Sample.scripted.reconcile Sample.pair Sample.grown none Sample.halfway).2.events =
      [(.updateInstanceName (.text "scs-1") (.text "after") "0", .ok .null),
        (.getInstanceDetail (.text "scs-1"), .ok (Sample.runningDetail "after" "small")),
        (.resizeNodeType (.text "scs-1") (.text "large"), .error (.plain .value []))] := by
    decide +kernel
  intro exchange member
  have listed : exchange.answer ∈ exchanges.map Exchange.answer := List.mem_map_of_mem member
  rw [← answered, ← added_eq, answers] at listed
  rcases List.mem_cons.mp listed with renamed | listed
  · exact .of_accepted renamed (fun _ => RemoteCall.noConfusion)
  rcases List.mem_cons.mp listed with shown | listed
  · exact .of_shown shown
  · exact .of_failed (List.mem_singleton.mp listed) rfl

end Service

end CacheSteward
