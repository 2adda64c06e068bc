import CacheSteward.Proofs.Exclusion
import CacheSteward.Proofs.Location

namespace CacheSteward

/-! Where the failures of operations say that they happened.

Once an operation has reached the control plane, its failures name the instance and the operation,
apart from a few that arise without either: a cluster type that is unknown, a budget that turns out
not to be usable, and a new instance that cannot be held.
-/

variable {τ ω : Type}

/-- What a control plane gives by itself: its failures are not known faults, and its details are
mappings. -/
def Exchange.Ordinary (exchange : Exchange τ) : Prop :=
  (∀ fault, exchange.outcome = .error fault → fault.isKnown = false) ∧
    ∀ instanceId detail, exchange.call = .getInstanceDetail instanceId →
      exchange.outcome = .ok detail → ∃ es, detail = .mapping es

namespace Exchange.Ordinary

variable {exchange : Exchange τ} {call : RemoteCall}

theorem of_failed {raw : Fault} (answer : exchange.answer = (call, .error raw))
    (foreign : raw.isKnown = false) : exchange.Ordinary := by
  obtain ⟨_, _, _⟩ := exchange
  cases answer
  constructor
  · intro fault same
    cases same
    exact foreign
  · intro instanceId detail called same
    cases same

theorem of_shown {instanceId : Value} {es : List (Value × Value)}
    (answer : exchange.answer = (.getInstanceDetail instanceId, .ok (.mapping es))) :
    exchange.Ordinary := by
  obtain ⟨_, _, _⟩ := exchange
  cases answer
  constructor
  · intro fault same
    cases same
  · intro instanceId detail called same
    cases same
    exact ⟨es, rfl⟩

theorem of_accepted {value : Value} (answer : exchange.answer = (call, .ok value))
    (changes : ∀ instanceId, call ≠ .getInstanceDetail instanceId) : exchange.Ordinary := by
  obtain ⟨_, _, _⟩ := exchange
  cases answer
  constructor
  · intro fault same
    cases same
  · intro instanceId detail called same
    exact absurd called (changes instanceId)

end Exchange.Ordinary

variable [Timescale τ]

theorem Action.Ends.arises {action : Action τ} {outcome : Except Fault Value} {fault : Fault}
    (ended : action.Ends outcome (.error (.fault fault)))
    (raw : ∀ fault, outcome = .error fault → fault.isKnown = false) :
    fault.Arises action.instanceId ∨ action.budget.Fails fault := by
  cases outcome with
  | ok value => cases ended
  | error reason =>
      simp only [Ends, judge] at ended
      cases resolved : (reason.disposition action.kind).resolve action.kind with
      | success =>
          rw [resolved] at ended
          cases ended
      | retry =>
          rw [resolved] at ended
          rcases ended with ⟨_, fails, same⟩ | ⟨elapsed, same⟩
          · cases same
            exact .inr fails
          · cases same
            exact .inl (Fault.arises_operationTimeout action.kind _ _ _ _ _)
      | fail =>
          rw [resolved] at ended
          cases ended
          exact .inl (Fault.arises_recast (raw reason rfl) _ action.kind)

omit [Timescale τ] in
theorem Wait.arises_of_judge_eq_failed {wait : Wait τ} {poll : Exchange τ} {fault : Fault}
    (judged : wait.judge poll.outcome = .failed fault) (ordinary : poll.Ordinary)
    (called : poll.call = .getInstanceDetail wait.instanceId) :
    fault.Arises wait.instanceId := by
  cases answered : poll.outcome with
  | error reason =>
      rw [answered] at judged
      simp only [judge, judgeFailure] at judged
      split at judged
      · cases judged
      · split at judged
        · cases judged
        · cases judged
          exact Fault.arises_recast (ordinary.1 reason answered) _ wait.kind
  | ok detail =>
      obtain ⟨es, rfl⟩ := ordinary.2 _ detail called answered
      rw [answered] at judged
      simp only [judge, judgeDetail, Detail.get] at judged
      split at judged
      · rename_i reason failed
        cases judged
        exact InstanceStatus.arises_of_parse_eq_error failed
      · simp only [judgeStatus] at judged
        split at judged
        · split at judged
          · cases judged
          · cases judged
        · split at judged
          · cases judged
            exact Fault.arises_unexpectedState _ wait.kind
          · cases judged

/-- A wait fails only with faults that say where. -/
theorem Wait.Polls.arises {wait : Wait τ} {horizon : Nat} {polls : List (Exchange τ)}
    {fault : Fault} (polled : wait.Polls horizon polls (.error (.fault fault)))
    (ordinary : ∀ poll ∈ polls, poll.Ordinary) : fault.Arises wait.instanceId := by
  rcases polled.decided with ⟨cut, _⟩ | ⟨last, atEnd, ended⟩
  · cases cut
  · have member := List.mem_of_getLast? atEnd
    have exhausted : ∀ elapsed last, (wait.exhausted elapsed last).Arises wait.instanceId :=
      fun elapsed last => Fault.arises_operationTimeout wait.kind _ _ _ _ _
    unfold Wait.Ends at ended
    cases judged : wait.judge last.outcome with
    | reached status | gone =>
        rw [judged] at ended
        cases ended
    | failed reason =>
        rw [judged] at ended
        cases ended
        exact arises_of_judge_eq_failed judged (ordinary last member) (polled.reads last member)
    | stale status | passing status | transient reason =>
        rw [judged] at ended
        obtain ⟨elapsed, seen, same⟩ := ended
        cases same
        exact exhausted elapsed seen

omit [Timescale τ] in
theorem Attempts.raw {call : RemoteCall} {kind : OperationKind} {exchanges : List (Exchange τ)}
    {outcome : Except Fault Value} (tried : Attempts call kind exchanges outcome)
    (ordinary : ∀ exchange ∈ exchanges, exchange.Ordinary) :
    ∀ fault, outcome = .error fault → fault.isKnown = false :=
  tried.last_raw fun exchange member => (ordinary exchange member).1

theorem Mutation.arises {action : Action τ} {call : RemoteCall}
    {waits : List (Exchange τ) → Except Halt InstanceStatus → Prop}
    {exchanges : List (Exchange τ)} {fault : Fault}
    (mutation : Mutation action call waits exchanges (.error (.fault fault)))
    (ordinary : ∀ exchange ∈ exchanges, exchange.Ordinary)
    (waitArises : ∀ polls, (∀ poll ∈ polls, poll.Ordinary) → waits polls (.error (.fault fault)) →
      fault.Arises action.instanceId) :
    fault.Arises action.instanceId ∨ action.budget.Fails fault := by
  cases mutation with
  | refused tried ended => exact ended.arises (tried.raw ordinary)
  | accepted tried ended waited =>
      refine .inl (waitArises _ (fun poll member => ?_) waited)
      exact ordinary poll (List.mem_append_right _ member)

namespace Service

variable {service : Service τ ω} {budget : Budget τ} {fault : Fault}
  {exchanges : List (Exchange τ)}

theorem StepRun.arises {step : Step} {settled : τ}
    (run : service.StepRun step budget exchanges (.error (.fault fault)))
    (accepted : Timescale.settled budget.timeout = .ok settled)
    (ordinary : ∀ exchange ∈ exchanges, exchange.Ordinary) :
    fault.Arises (.text step.instanceId) ∨ budget.Fails fault := by
  cases run with
  | unsettled failed =>
      rw [accepted] at failed
      cases failed
  | mutated intent shown mutation announced =>
      refine mutation.arises ordinary fun polls ordinaryPolls waited => ?_
      obtain ⟨rest, polled⟩ := waited
      exact polled.arises ordinaryPolls

variable [LawfulTimescale τ]

theorem raw_of_fails (fails : budget.Fails fault) : fault.isKnown = false := by
  rcases fails with attempts | timeout | interval
  · exact LawfulTimescale.attempts_raw attempts
  · exact LawfulTimescale.showable_raw timeout
  · exact LawfulTimescale.showable_raw interval

/-- The report of a failed step keeps the place of its fault, and changes no raw fault. -/
theorem Stops.locates {instanceId : String} {settled : τ} {completed steps : List Step}
    {trail : List LogRecord} (accepted : Timescale.settled budget.timeout = .ok settled)
    (stops : service.Stops budget completed steps exchanges trail (.fault fault))
    (same : ∀ step ∈ steps, step.instanceId = instanceId)
    (ordinary : ∀ exchange ∈ exchanges, exchange.Ordinary)
    (given : (Value.text instanceId).isGiven = true) :
    fault.Locates (.text instanceId) ∨ budget.Fails fault := by
  generalize ended : Halt.fault fault = halt at stops
  cases stops with
  | @behind done rest step earlier last reason applied run =>
      obtain rfl := same step (List.mem_append_right _ List.mem_cons_self)
      cases reason with
      | unfinished => cases ended
      | fault raw =>
          cases ended
          rcases run.arises accepted fun exchange member =>
            ordinary exchange (List.mem_append_right _ member) with arises | fails
          · exact .inl ((arises.locates given).report step (completed ++ done))
          · rw [Fault.mapDetails_of_raw (raw_of_fails fails)]
            exact .inr fails

/-! ### The exceptions -/

/-- Operations that read the state of their instance at the end. -/
def ReadsBack : Operation τ → Prop
  | .delete _ _ => False
  | _ => True

/-- The faults that leave an operation on an instance without saying so. -/
inductive Unlocated (service : Service τ ω) (table : InFlight τ) (operation : Operation τ)
    (instanceId : Value) (exchanges : List (Exchange τ)) : Fault → Prop where
  /-- The budget of a mutation cannot be counted in attempts or shown. -/
  | spent {budget : Budget τ} {fault : Fault}
      (claims : service.Claims operation instanceId budget) (fails : budget.Fails fault) :
      Unlocated service table operation instanceId exchanges fault
  /-- The configured budget of reads is refused. -/
  | unread {fault : Fault} (reads : ReadsBack operation)
      (unaccepted : service.timeouts.budget .read none = .error fault) :
      Unlocated service table operation instanceId exchanges fault
  | unreadable {budget : Budget τ} {fault : Fault} (reads : ReadsBack operation)
      (accepted : service.timeouts.budget .read none = .ok budget) (fails : budget.Fails fault) :
      Unlocated service table operation instanceId exchanges fault
  /-- The detail that was read gives an unknown cluster type. -/
  | misread {last : Exchange τ} {es : List (Value × Value)} {fault : Fault}
      (reads : ReadsBack operation) (atEnd : exchanges.getLast? = some last)
      (called : last.call = .getInstanceDetail instanceId)
      (answered : last.outcome = .ok (.mapping es))
      (unknown : Detail.clusterType es = .error fault) :
      Unlocated service table operation instanceId exchanges fault
  /-- The control plane gave the id of an instance that is held already. -/
  | taken {spec : DesiredSpec} {timeout : Option τ} {held : Held τ}
      (created : operation = .create spec timeout)
      (found : table.find? instanceId = some held) :
      Unlocated service table operation instanceId exchanges (.operationInProgress instanceId
        (held.pending.map fun pending => pending.kind.word))
  /-- The budget of a creation cannot be shown as pending. -/
  | unsettled {spec : DesiredSpec} {timeout : Option τ} {budget : Budget τ} {fault : Fault}
      (created : operation = .create spec timeout)
      (accepted : service.timeouts.budget .create timeout = .ok budget)
      (failed : Timescale.settled budget.timeout = .error fault) :
      Unlocated service table operation instanceId exchanges fault

variable {table : InFlight τ} {operation : Operation τ} {instanceId : Value}

theorem Unlocated.not_locates
    (unlocated : service.Unlocated table operation instanceId exchanges fault) :
    ¬ fault.Locates instanceId := by
  cases unlocated with
  | spent claims fails => exact Fault.not_locates_of_raw (raw_of_fails fails)
  | unread reads unaccepted => exact Budget.not_locates_of_make_eq_error unaccepted
  | unreadable reads accepted fails => exact Fault.not_locates_of_raw (raw_of_fails fails)
  | misread reads atEnd called answered unknown =>
      exact Detail.not_locates_of_clusterType_eq_error unknown
  | taken created found => exact Fault.not_locates_operationInProgress _
  | unsettled created accepted failed =>
      exact Fault.not_locates_of_raw (LawfulTimescale.settled_raw failed)

omit [LawfulTimescale τ] in
/-- Where the failure of a reading comes from. -/
theorem Reading.fails {seen : Except Halt (Option InstanceHandle)} {kind : OperationKind}
    {reads : List (Exchange τ)} (reading : service.Reading instanceId reads seen)
    (failed : existing instanceId kind seen = .error (.fault fault))
    (ordinary : ∀ exchange ∈ reads, exchange.Ordinary) :
    fault.Arises instanceId ∨ service.timeouts.budget .read none = .error fault ∨
      (∃ budget, service.timeouts.budget .read none = .ok budget ∧ budget.Fails fault) ∨
      ∃ last es, reads.getLast? = some last ∧ last.call = .getInstanceDetail instanceId ∧
        last.outcome = .ok (.mapping es) ∧ Detail.clusterType es = .error fault := by
  cases reading with
  | refused unaccepted =>
      cases failed
      exact .inr (.inl unaccepted)
  | failed accepted tried ended =>
      cases failed
      rcases ended.arises (tried.raw ordinary) with arises | fails
      · exact .inl arises
      · exact .inr (.inr (.inl ⟨_, accepted, fails⟩))
  | missing accepted tried ended =>
      cases failed
      exact .inl (Fault.arises_located _ _ kind none)
  | found accepted tried ended there =>
      rw [existing_judged, judged_eq_error_iff] at failed
      obtain ⟨_, read, same⟩ := failed
      cases same
      obtain rfl := Action.answered_of_ends_given ended there
      obtain ⟨last, atEnd, called, answered⟩ := tried.getLast?
      obtain ⟨es, rfl⟩ := (ordinary last (List.mem_of_getLast? atEnd)).2 _ _ called answered
      rcases InstanceHandle.arises_of_ofDetail_eq_error read with arises | unknown
      · exact .inl arises
      · exact .inr (.inr (.inr ⟨last, es, atEnd, called, answered, unknown⟩))

omit [LawfulTimescale τ] in
/-- A reading at the end of an operation says where it failed, apart from the exceptions. -/
theorem Reading.locates {seen : Except Halt (Option InstanceHandle)} {kind : OperationKind}
    {reads : List (Exchange τ)} (reading : service.Reading instanceId reads seen)
    (before : List (Exchange τ))
    (failed : existing instanceId kind seen = .error (.fault fault))
    (ordinary : ∀ exchange ∈ reads, exchange.Ordinary) (given : instanceId.isGiven = true)
    (readsBack : ReadsBack operation) :
    fault.Locates instanceId ∨
      service.Unlocated table operation instanceId (before ++ reads) fault := by
  rcases reading.fails failed ordinary with
    arises | unaccepted | ⟨budget, accepted, fails⟩ | ⟨last, es, atEnd, called, answered, unknown⟩
  · exact .inl (arises.locates given)
  · exact .inr (.unread readsBack unaccepted)
  · exact .inr (.unreadable readsBack accepted fails)
  · refine .inr (.misread readsBack ?_ called answered unknown)
    rw [List.getLast?_append, atEnd]
    rfl

/-! ### Failures of operations -/

/-- The instance of an operation that has reached the control plane.  A creation has an instance
once its request is answered with an id. -/
inductive Concerns : Operation τ → List (Exchange τ) → Value → Prop where
  | read {instanceId : Value} {exchanges : List (Exchange τ)} (called : exchanges ≠ []) :
      Concerns (.read instanceId) exchanges instanceId
  | adopt {instanceId : Value} {exchanges : List (Exchange τ)} (called : exchanges ≠ []) :
      Concerns (.adopt instanceId) exchanges instanceId
  | reconcile {handle : InstanceHandle} {spec : DesiredSpec} {timeout : Option τ}
      {exchanges : List (Exchange τ)} (called : exchanges ≠ []) :
      Concerns (.reconcile handle spec timeout) exchanges (.text handle.instanceId)
  | delete {instanceId : Value} {timeout : Option τ} {exchanges : List (Exchange τ)}
      (called : exchanges ≠ []) : Concerns (.delete instanceId timeout) exchanges instanceId
  | create {spec : DesiredSpec} {timeout : Option τ} {exchanges : List (Exchange τ)}
      {exchange : Exchange τ} {clientToken id : String} (member : exchange ∈ exchanges)
      (called : exchange.call = .createInstance spec.createArgs clientToken)
      (answered : exchange.outcome = .ok (.text id)) :
      Concerns (.create spec timeout) exchanges (.text id)

/-- Every failure of an operation that has reached its instance says so, or is an exception. -/
def FailsLocated (service : Service τ ω) (table : InFlight τ) (operation : Operation τ)
    (exchanges : List (Exchange τ)) (result : Except Halt Unit) : Prop :=
  ∀ instanceId fault, Concerns operation exchanges instanceId → instanceId.isGiven = true →
    (∀ exchange ∈ exchanges, exchange.Ordinary) → result = .error (.fault fault) →
    fault.Locates instanceId ∨ service.Unlocated table operation instanceId exchanges fault

omit [Timescale τ] [LawfulTimescale τ] in
theorem error_of_map {α β : Type} {f : α → β} {result : Except Halt α} {halt : Halt}
    (failed : result.map f = .error halt) : result = .error halt := by
  cases result with
  | ok a => cases failed
  | error reason =>
      cases failed
      rfl

omit [LawfulTimescale τ] in
theorem Reading.failsLocated_read {seen : Except Halt (Option InstanceHandle)}
    (reading : service.Reading instanceId exchanges seen) :
    service.FailsLocated table (.read instanceId) exchanges (seen.map fun _ => ()) := by
  intro _ fault concerns given ordinary failed
  cases concerns
  have seenFailed := error_of_map failed
  subst seenFailed
  have failedToo : existing instanceId .read (.error (.fault fault)) = .error (.fault fault) := rfl
  exact reading.locates [] failedToo ordinary given trivial

omit [LawfulTimescale τ] in
theorem Reading.failsLocated_adopt {seen : Except Halt (Option InstanceHandle)}
    (reading : service.Reading instanceId exchanges seen) :
    service.FailsLocated table (.adopt instanceId) exchanges
      ((existing instanceId .read seen).map fun _ => ()) := by
  intro _ fault concerns given ordinary failed
  cases concerns
  exact reading.locates [] (error_of_map failed) ordinary given trivial

omit [LawfulTimescale τ] in
theorem Deleting.failsLocated {timeout : Option τ} {status : Except Halt InstanceStatus}
    (deleting : service.Deleting table instanceId timeout exchanges status) :
    service.FailsLocated table (.delete instanceId timeout) exchanges
      (status.map fun _ => ()) := by
  intro _ fault concerns given ordinary failed
  cases concerns with
  | delete called =>
      have statusFailed := error_of_map failed
      subst statusFailed
      cases deleting with
      | unaccepted | unclaimed | unsettled => exact absurd rfl called
      | mutated accepted free shown mutation announced =>
          have failure := mutation.arises ordinary fun polls ordinaryPolls waited => by
            obtain ⟨rest, polled⟩ := waited
            exact polled.arises ordinaryPolls
          rcases failure with arises | fails
          · exact .inl (arises.locates given)
          · exact .inr (.spent (.delete accepted) fails)

theorem Reconciling.failsLocated {handle : InstanceHandle} {spec : DesiredSpec}
    {timeout : Option τ} {trail : List LogRecord} {reconciled : Except Halt Reconciled}
    (reconciling : service.Reconciling table handle spec timeout exchanges trail reconciled) :
    service.FailsLocated table (.reconcile handle spec timeout) exchanges
      (reconciled.map fun _ => ()) := by
  intro _ fault concerns given ordinary failed
  cases concerns with
  | reconcile called =>
      have reconciledFailed := error_of_map failed
      cases reconciling with
      | unplanned | unchanged | unaccepted | unclaimed => exact absurd rfl called
      | @claimed steps budget _ _ _ plan changes accepted free updating =>
          cases updating with
          | stopped run =>
              cases reconciledFailed
              cases kept : Timescale.settled budget.timeout with
              | error reason => exact absurd (run.silent kept changes).1 called
              | ok settled =>
                  have same : ∀ step ∈ steps, step.instanceId = handle.instanceId :=
                    fun step member => (Plan.steps_sound plan step member).1
                  rcases run.stops.locates kept same ordinary given with located | fails
                  · exact .inl located
                  · exact .inr (.spent (.reconcile plan changes accepted) fails)
          | finished run reading =>
              refine reading.locates _ (error_of_map reconciledFailed) (fun exchange member => ?_)
                given trivial
              exact ordinary exchange (List.mem_append_right _ member)

omit [LawfulTimescale τ] in
/-- Behind the id of a new instance there are only polls and reads. -/
theorem Obtained.calls {clientToken : String} {created : Except Halt InstanceHandle}
    (obtained : service.Obtained table budget clientToken instanceId exchanges created) :
    ∀ exchange ∈ exchanges, exchange.call = .getInstanceDetail instanceId := by
  intro exchange member
  cases obtained with
  | unclaimed | unsettled => cases member
  | unready free shown waited announced => exact waited.reads exchange member
  | ready free shown waited announced reading =>
      rcases List.mem_append.mp member with poll | read
      · exact waited.reads exchange poll
      · exact reading.calls exchange read

omit [LawfulTimescale τ] in
theorem Obtained.locates {spec : DesiredSpec} {timeout : Option τ} {clientToken id : String}
    {before : List (Exchange τ)}
    (accepted : service.timeouts.budget .create timeout = .ok budget)
    (obtained : service.Obtained table budget clientToken (.text id) exchanges
      (.error (.fault fault)))
    (ordinary : ∀ exchange ∈ exchanges, exchange.Ordinary)
    (given : (Value.text id).isGiven = true) :
    fault.Locates (.text id) ∨
      service.Unlocated table (.create spec timeout) (.text id) (before ++ exchanges) fault := by
  generalize ended : (Except.error (.fault fault) : Except Halt InstanceHandle) = created
    at obtained
  cases obtained with
  | unclaimed unclaimed =>
      cases ended
      cases unclaimed with
      | unkeyed unkeyed => cases unkeyed
      | taken keyed found => exact .inr (.taken rfl found)
  | unsettled free failed =>
      cases ended
      exact .inr (.unsettled rfl accepted failed)
  | unready free shown waited announced =>
      cases ended
      exact .inl ((waited.arises ordinary).locates given)
  | ready free shown waited announced reading =>
      rw [← List.append_assoc]
      refine reading.locates _ ended.symm (fun exchange member => ?_) given trivial
      exact ordinary exchange (List.mem_append_right _ member)

omit [LawfulTimescale τ] in
theorem Creating.failsLocated {spec : DesiredSpec} {timeout : Option τ}
    {created : Except Halt InstanceHandle}
    (creating : service.Creating table spec timeout exchanges created) :
    service.FailsLocated table (.create spec timeout) exchanges (created.map fun _ => ()) := by
  intro _ fault concerns given ordinary failed
  have createdFailed := error_of_map failed
  subst createdFailed
  cases concerns with
  | @create _ _ _ exchange clientToken id member called answered =>
      generalize ended : (Except.error (.fault fault) : Except Halt InstanceHandle) = created
        at creating
      cases creating with
      | unaccepted => cases member
      | refused accepted tried _ => cases tried.answered member answered
      | nameless accepted tried blank =>
          cases tried.answered member answered
          rw [given] at blank
          cases blank
      | obtained accepted tried _ goesOn =>
          subst ended
          rcases List.mem_append.mp member with request | later
          · cases tried.answered request answered
            refine goesOn.locates accepted (fun exchange member => ?_) given
            exact ordinary exchange (List.mem_append_right _ member)
          · rw [goesOn.calls exchange later] at called
            cases called

theorem Operating.failsLocated {result : Except Halt Unit}
    (operating : service.Operating table operation exchanges result) :
    service.FailsLocated table operation exchanges result := by
  cases operating with
  | create creating => exact creating.failsLocated
  | read reading => exact reading.failsLocated_read
  | adopt reading => exact reading.failsLocated_adopt
  | reconcile reconciling => exact reconciling.failsLocated
  | delete deleting => exact deleting.failsLocated

/-- A failure of an operation that has reached its instance names the instance and the operation
exactly when it is none of the exceptions. -/
theorem failure_locates_iff (keeps : service.surroundings.Keeps) (operation : Operation τ)
    (before : Session τ ω) :
    ∃ added exchanges audits,
      (service.operate operation before).2.events = before.events ++ added ∧
      Told Undisturbed added exchanges audits ∧
      ∀ instanceId fault, Concerns operation exchanges instanceId → instanceId.isGiven = true →
        (∀ exchange ∈ exchanges, exchange.Ordinary) →
        (service.operate operation before).1 = .error (.fault fault) →
        (fault.Locates instanceId ↔
          ¬ service.Unlocated before.inFlight operation instanceId exchanges fault) := by
  obtain ⟨added, exchanges, audits, extended, told, operating⟩ :=
    operate_tells keeps.encloses keeps operation before
  refine ⟨added, exchanges, audits, extended, told, ?_⟩
  intro instanceId fault concerns given ordinary failed
  constructor
  · exact fun locates unlocated => unlocated.not_locates locates
  · exact (operating.failsLocated instanceId fault concerns given ordinary failed).resolve_right

/-- A read that the control plane fails says where it failed. -/
theorem failure_locates_iff_scripted :
    let before : Session Rat (List (Except Fault Value)) := { world := [.error (.plain .value [])] }
    let operation : Operation Rat := .read (.text "scs-1")
    (∃ fault, (Sample.scripted.operate operation before).1 = .error (.fault fault) ∧
      fault.Locates (.text "scs-1")) ∧
      ∃ added exchanges audits,
        (Sample.scripted.operate operation before).2.events = before.events ++ added ∧
        Told Undisturbed added exchanges audits ∧
        ∀ instanceId fault, Concerns operation exchanges instanceId → instanceId.isGiven = true →
          (∀ exchange ∈ exchanges, exchange.Ordinary) →
          (Sample.scripted.operate operation before).1 = .error (.fault fault) →
          (fault.Locates instanceId ↔
            ¬ Sample.scripted.Unlocated before.inFlight operation instanceId exchanges fault) := by
  intro before operation
  refine ⟨⟨Fault.recast (.plain .value []) .fatal .read (.text "scs-1"), ?_, ?_⟩,
    failure_locates_iff Sample.scripted_solitary.keeps operation before⟩
  · unfold operate read Action.perform Action.tryFrom
    rfl
  · exact (Fault.arises_recast rfl .fatal .read).locates rfl

/-- The only call is answered with a mapping, and the failure does not say where. -/
theorem failure_without_location :
    let before : Session Rat (List (Except Fault Value)) := { world := [.ok Sample.mistypedDetail] }
    let after := Sample.scripted.operate (.read (.text "scs-1")) before
    answersOf after.2.events = [(.getInstanceDetail (.text "scs-1"), .ok Sample.mistypedDetail)] ∧
      ∃ fault, after.1 = .error (.fault fault) ∧ ¬ fault.Locates (.text "scs-1") := by
  intro before after
  refine ⟨?_, .validation ("Unknown cluster type '" ++ (Value.text "sharded").shown ++ "'")
    (some "clusterType") (.text "sharded"), ?_, nofun⟩
  · unfold after operate read Action.perform Action.tryFrom
    rfl
  · unfold after operate read Action.perform Action.tryFrom
    rfl

end Service

end CacheSteward
