import CacheSteward.Proofs.Conduct
import CacheSteward.Proofs.Endings
import CacheSteward.Proofs.Failures
import CacheSteward.Proofs.Recasting

namespace CacheSteward

/-! How the audit trail of an operation is closed.

Creations, deletions and reconciliations open their part of the trail before they do anything else.
A handler notes the known faults that leave the guarded part of an operation, and only known faults
leave it, as long as reads are answered with mappings.  What the handler of a reconciliation guards
is a single step: neither the claim in front of the steps nor the reading behind them.
-/

variable {τ ω : Type}

/-- An answer to a read is a mapping. -/
def Exchange.ShowsMapping (exchange : Exchange τ) : Prop :=
  ∀ instanceId detail, exchange.call = .getInstanceDetail instanceId →
    exchange.outcome = .ok detail → ∃ es, detail = .mapping es

theorem Exchange.showsMapping_of_answer {exchange : Exchange τ}
    (listed : (exchange.answer.2 matches .ok (.mapping _) | .error _) = true) :
    exchange.ShowsMapping := by
  intro instanceId detail _ answered
  rw [answer, answered] at listed
  cases detail with
  | mapping es => exact ⟨es, rfl⟩
  | _ => cases listed

variable [Timescale τ]

/-! ### Only known faults are raised -/

theorem Budget.isKnown_of_make_eq_error {timeout interval : τ} {fault : Fault}
    (refused : Budget.make timeout interval = .error fault) : fault.isKnown = true := by
  obtain ⟨key, given, rfl⟩ := notPositive_of_make_eq_error refused
  rfl

theorem Action.Ends.isKnown {action : Action τ} {outcome : Except Fault Value} {fault : Fault}
    (ended : action.Ends outcome (.error (.fault fault))) (usable : action.budget.Usable) :
    fault.isKnown = true := by
  rcases ended.decided with ⟨ending, decides, same⟩ | ⟨cause, _, ⟨reason, fails, _⟩ |
    ⟨elapsed, same⟩⟩
  · cases decides with
    | answered | counted => cases same
    | failed resolved =>
        cases same
        exact Fault.isKnown_recast _ _ _ _
  · exact absurd fails (usable.not_fails reason)
  · cases same
    rfl

omit [Timescale τ] in
theorem Wait.isKnown_of_judge_eq_failed {wait : Wait τ} {poll : Exchange τ} {fault : Fault}
    (judged : wait.judge poll.outcome = .failed fault) (shows : poll.ShowsMapping)
    (called : poll.call = .getInstanceDetail wait.instanceId) : fault.isKnown = true := by
  cases answered : poll.outcome with
  | error reason =>
      rw [answered] at judged
      simp only [judge, judgeFailure] at judged
      split at judged
      · cases judged
      · split at judged
        · cases judged
        · cases judged
          exact Fault.isKnown_recast _ _ _ _
  | ok detail =>
      obtain ⟨es, rfl⟩ := shows _ detail called answered
      rw [answered] at judged
      simp only [judge, judgeDetail, Detail.get] at judged
      split at judged
      · rename_i reason failed
        cases judged
        exact (InstanceStatus.arises_of_parse_eq_error failed).isKnown
      · simp only [judgeStatus] at judged
        split at judged
        · split at judged
          · cases judged
          · cases judged
        · split at judged
          · cases judged
            rfl
          · cases judged

theorem Wait.Polls.isKnown {wait : Wait τ} {horizon : Nat} {polls : List (Exchange τ)}
    {fault : Fault} (polled : wait.Polls horizon polls (.error (.fault fault)))
    (shows : ∀ poll ∈ polls, poll.ShowsMapping) : fault.isKnown = true := by
  rcases polled.decided with ⟨cut, _⟩ | ⟨last, atEnd, ended⟩
  · cases cut
  · have member := List.mem_of_getLast? atEnd
    unfold Wait.Ends at ended
    cases judged : wait.judge last.outcome with
    | reached status | gone =>
        rw [judged] at ended
        cases ended
    | failed reason =>
        rw [judged] at ended
        cases ended
        exact isKnown_of_judge_eq_failed judged (shows last member) (polled.reads last member)
    | stale status | passing status | transient reason =>
        rw [judged] at ended
        obtain ⟨_, _, same⟩ := ended
        cases same
        rfl

theorem Mutation.isKnown {action : Action τ} {call : RemoteCall} {wait : τ → Wait τ}
    {horizon : Nat} {exchanges : List (Exchange τ)} {fault : Fault}
    (mutation : Mutation action call
      (fun polls result => ∃ rest, (wait rest).Polls horizon polls result) exchanges
      (.error (.fault fault)))
    (usable : action.budget.Usable) (shows : ∀ exchange ∈ exchanges, exchange.ShowsMapping) :
    fault.isKnown = true := by
  cases mutation with
  | refused tried ended => exact ended.isKnown usable
  | accepted tried ended waited =>
      obtain ⟨rest, polled⟩ := waited
      exact polled.isKnown fun poll member => shows poll (List.mem_append_right _ member)

namespace Service

variable {service : Service τ ω} {table : InFlight τ} {budget : Budget τ} {instanceId : Value}
  {exchanges : List (Exchange τ)} {fault : Fault}

theorem Reading.isKnown {seen : Except Halt (Option InstanceHandle)} {kind : OperationKind}
    (reading : service.Reading instanceId exchanges seen)
    (failed : existing instanceId kind seen = .error (.fault fault))
    (usable : ∀ budget, service.timeouts.budget .read none = .ok budget → budget.Usable)
    (shows : ∀ exchange ∈ exchanges, exchange.ShowsMapping) : fault.isKnown = true := by
  cases reading with
  | refused unaccepted =>
      cases failed
      exact Budget.isKnown_of_make_eq_error unaccepted
  | failed accepted tried ended =>
      cases failed
      exact ended.isKnown (usable _ accepted)
  | missing accepted tried ended =>
      cases failed
      rfl
  | found accepted tried ended there =>
      rw [existing_judged, judged_eq_error_iff] at failed
      obtain ⟨_, read, same⟩ := failed
      cases same
      obtain rfl := Action.answered_of_ends_given ended there
      obtain ⟨last, atEnd, called, answered⟩ := tried.getLast?
      obtain ⟨es, rfl⟩ := shows last (List.mem_of_getLast? atEnd) _ _ called answered
      exact InstanceHandle.isKnown_of_ofDetail_eq_error read

theorem StepRun.isKnown {step : Step}
    (run : service.StepRun step budget exchanges (.error (.fault fault)))
    (usable : budget.Usable) (shows : ∀ exchange ∈ exchanges, exchange.ShowsMapping) :
    fault.isKnown = true := by
  cases run with
  | unsettled failed =>
      obtain ⟨settled, kept⟩ := usable.settled
      rw [kept] at failed
      cases failed
  | mutated intent shown mutation announced => exact mutation.isKnown usable shows

/-! ### Opening and closing -/

def closingEvents : List String :=
  ["create_success", "create_failed", "reconcile_success", "reconcile_step_failed",
    "delete_success", "delete_failed"]

omit [Timescale τ] in
/-- Operations that only read leave nothing in the trail. -/
def marks? : Operation τ → Option Marks
  | .create _ _ => some .create
  | .reconcile _ _ _ => some .reconcile
  | .delete _ _ => some .delete
  | .read _ => none
  | .adopt _ => none

/-- The trail is closed once, at its end, and with a success exactly when the operation returns. -/
def Marks.Closed (marks : Marks) (events : List (Option String)) (returned : Bool) : Prop :=
  ∃ earlier, events = earlier ++ [some (if returned then marks.success else marks.failure)] ∧
    ∀ event ∈ closingEvents, some event ∉ earlier

def Unclosed (events : List (Option String)) : Prop :=
  ∀ event ∈ closingEvents, some event ∉ events

/-- The operations whose part of the trail is opened and then left as it is. -/
inductive LeftOpen (service : Service τ ω) (table : InFlight τ) :
    Operation τ → List (Exchange τ) → Prop where
  /-- The instance is held already. -/
  | held {handle : InstanceHandle} {spec : DesiredSpec} {timeout : Option τ} {held : Held τ}
      {exchanges : List (Exchange τ)} (found : table.find? (.text handle.instanceId) = some held) :
      LeftOpen service table (.reconcile handle spec timeout) exchanges
  /-- All steps are applied, and the reading behind them fails. -/
  | unread {handle : InstanceHandle} {spec : DesiredSpec} {timeout : Option τ} {steps : List Step}
      {earlier reads : List (Exchange τ)} {seen : Except Halt (Option InstanceHandle)}
      {fault : Fault} (plan : Plan.steps handle spec = .ok steps) (applied : Applied steps earlier)
      (reading : service.Reading (.text handle.instanceId) reads seen)
      (failed : existing (.text handle.instanceId) .read seen = .error (.fault fault)) :
      LeftOpen service table (.reconcile handle spec timeout) (earlier ++ reads)
  /-- What the control plane gave as the id of the new instance can be no key. -/
  | unkeyed {spec : DesiredSpec} {timeout : Option τ} {exchanges : List (Exchange τ)}
      {exchange : Exchange τ} {clientToken : String} {instanceId : Value}
      (member : exchange ∈ exchanges)
      (called : exchange.call = .createInstance spec.createArgs clientToken)
      (answered : exchange.outcome = .ok instanceId) (given : instanceId.isGiven = true)
      (unkeyed : instanceId.isKey = false) :
      LeftOpen service table (.create spec timeout) exchanges
  | untargeted {instanceId : Value} {timeout : Option τ} {exchanges : List (Exchange τ)}
      (unkeyed : instanceId.isKey = false) :
      LeftOpen service table (.delete instanceId timeout) exchanges

/-- The trail of an operation is closed, unless the operation is one of those that leave it open. -/
structure Closes (service : Service τ ω) (table : InFlight τ) (operation : Operation τ)
    (marks : Marks) (exchanges : List (Exchange τ)) (events : List (Option String))
    (result : Except Halt Unit) : Prop where
  closed_iff : marks.Closed events result.isOk ↔ ¬ service.LeftOpen table operation exchanges
  leftOpen : service.LeftOpen table operation exchanges →
    Unclosed events ∧ ∃ fault, result = .error (.fault fault)

omit [Timescale τ] in
theorem marks_proper {operation : Operation τ} {marks : Marks}
    (marked : marks? operation = some marks) :
    marks.opening ∉ closingEvents ∧ marks.success ∈ closingEvents ∧
      marks.failure ∈ closingEvents := by
  cases operation <;> cases marked <;> decide

omit [Timescale τ] in
theorem Marks.Closed.not_unclosed {operation : Operation τ} {marks : Marks}
    {events : List (Option String)} {returned : Bool} (marked : marks? operation = some marks)
    (closed : marks.Closed events returned) : ¬ Unclosed events := by
  intro unclosed
  obtain ⟨_, success, failure⟩ := marks_proper marked
  obtain ⟨earlier, rfl, _⟩ := closed
  cases returned with
  | true => exact unclosed _ success (List.mem_append_right _ (.head _))
  | false => exact unclosed _ failure (List.mem_append_right _ (.head _))

omit [Timescale τ] in
/-- A record of how the operation ends closes a trail that is not closed yet. -/
theorem Marks.Closed.of_last {marks : Marks} {earlier : List LogRecord} {last : LogRecord}
    {returned : Bool} (unclosed : Unclosed (earlier.map LogRecord.event?))
    (ends : last.event? = some (if returned then marks.success else marks.failure)) :
    marks.Closed ((earlier ++ [last]).map LogRecord.event?) returned :=
  ⟨_, by rw [List.map_append, List.map_singleton, ends], unclosed⟩

theorem Closes.of_unclosed {operation : Operation τ} {marks : Marks}
    {events : List (Option String)} {result : Except Halt Unit}
    (marked : marks? operation = some marks) (unclosed : Unclosed events)
    (leftOpen : service.LeftOpen table operation exchanges)
    (failed : result = .error (.fault fault)) :
    service.Closes table operation marks exchanges events result where
  closed_iff := iff_of_false (fun closed => closed.not_unclosed marked unclosed)
    (fun not => not leftOpen)
  leftOpen _ := ⟨unclosed, fault, failed⟩

theorem Closes.of_closed {operation : Operation τ} {marks : Marks}
    {events : List (Option String)} {result : Except Halt Unit}
    (closed : marks.Closed events result.isOk)
    (closes : ¬ service.LeftOpen table operation exchanges) :
    service.Closes table operation marks exchanges events result where
  closed_iff := iff_of_true closed closes
  leftOpen leftOpen := absurd leftOpen closes

/-- A handler around all that follows the opening closes the trail, unless an unknown fault passes
it. -/
theorem Closes.of_trailed {α : Type} {operation : Operation τ} {marks : Marks}
    {audits : List LogRecord} {result : Except Halt α} {judged : Except Fault (Budget τ)}
    (marked : marks? operation = some marks) (trailed : Trailed judged marks audits result)
    (opened : audits ≠ []) (ended : result ≠ .error .unfinished)
    (raw : ∀ budget, judged = .ok budget → service.LeftOpen table operation exchanges →
      ∃ fault, result = .error (.fault fault) ∧ fault.isKnown = false)
    (known : ¬ service.LeftOpen table operation exchanges →
      ∀ fault, result = .error (.fault fault) → fault.isKnown = true) :
    service.Closes table operation marks exchanges (audits.map LogRecord.event?)
      (result.map fun _ => ()) := by
  cases judged with
  | error reason => exact absurd trailed opened
  | ok budget =>
      have trail : audits.map LogRecord.event? = some marks.opening :: closing marks result :=
        trailed
      have before : ∀ event ∈ closingEvents, some event ∉ [some marks.opening] := by
        intro event closing member
        obtain rfl := Option.some.inj (List.mem_singleton.mp member)
        exact (marks_proper marked).1 closing
      rw [trail]
      by_cases leftOpen : service.LeftOpen table operation exchanges
      · obtain ⟨fault, rfl, foreign⟩ := raw budget rfl leftOpen
        simp only [closing, foreign, Bool.false_eq_true, if_false]
        exact .of_unclosed marked before leftOpen rfl
      · refine .of_closed ⟨[some marks.opening], ?_, before⟩ leftOpen
        cases result with
        | ok a => rfl
        | error halt =>
            cases halt with
            | unfinished => exact absurd rfl ended
            | fault fault =>
                simp only [closing, known leftOpen fault rfl, if_true]
                rfl

/-! ### Deleting -/

/-- Only a claim of what is no key fails with a fault that is not known. -/
theorem Deleting.isKnown {timeout : Option τ}
    (deleting : service.Deleting table instanceId timeout exchanges (.error (.fault fault)))
    (keyed : instanceId.isKey = true)
    (usable : ∀ budget, service.timeouts.budget .delete timeout = .ok budget → budget.Usable)
    (shows : ∀ exchange ∈ exchanges, exchange.ShowsMapping) : fault.isKnown = true := by
  cases deleting with
  | unaccepted unaccepted => exact Budget.isKnown_of_make_eq_error unaccepted
  | unclaimed _ unclaimed =>
      cases unclaimed with
      | unkeyed unkeyed =>
          rw [keyed] at unkeyed
          cases unkeyed
      | taken => rfl
  | unsettled accepted _ failed =>
      obtain ⟨settled, kept⟩ := (usable _ accepted).settled
      rw [kept] at failed
      cases failed
  | mutated accepted _ _ mutation _ => exact mutation.isKnown (usable _ accepted) shows

theorem Deleting.closes {timeout : Option τ} {audits : List LogRecord}
    {status : Except Halt InstanceStatus}
    (deleting : service.Deleting table instanceId timeout exchanges status)
    (trailed : Trailed (service.timeouts.budget .delete timeout) .delete audits status)
    (opened : audits ≠ []) (ended : status ≠ .error .unfinished)
    (usable : ∀ budget, service.timeouts.budget .delete timeout = .ok budget → budget.Usable)
    (shows : ∀ exchange ∈ exchanges, exchange.ShowsMapping) :
    service.Closes table (.delete instanceId timeout) .delete exchanges
      (audits.map LogRecord.event?) (status.map fun _ => ()) := by
  refine .of_trailed rfl trailed opened ended (fun budget accepted leftOpen => ?_)
    fun closes fault failed => ?_
  · cases leftOpen with
    | untargeted unkeyed =>
        cases deleting with
        | unaccepted unaccepted =>
            rw [accepted] at unaccepted
            cases unaccepted
        | unclaimed _ unclaimed => exact ⟨_, rfl, unclaimed.eq_noKey unkeyed ▸ rfl⟩
        | unsettled _ _ _ keyed | mutated _ _ _ _ _ keyed =>
            rw [unkeyed] at keyed
            cases keyed
  · subst failed
    refine deleting.isKnown ?_ usable shows
    cases keyed : instanceId.isKey with
    | true => rfl
    | false => exact absurd (.untargeted keyed) closes

/-! ### Creating -/

theorem Obtained.isKnown {clientToken : String}
    (obtained : service.Obtained table budget clientToken instanceId exchanges
      (.error (.fault fault)))
    (keyed : instanceId.isKey = true) (usable : budget.Usable)
    (usableReads : ∀ budget, service.timeouts.budget .read none = .ok budget → budget.Usable)
    (shows : ∀ exchange ∈ exchanges, exchange.ShowsMapping) : fault.isKnown = true := by
  generalize ended : (Except.error (.fault fault) : Except Halt InstanceHandle) = created
    at obtained
  cases obtained with
  | unclaimed unclaimed =>
      cases ended
      cases unclaimed with
      | unkeyed unkeyed =>
          rw [keyed] at unkeyed
          cases unkeyed
      | taken => rfl
  | unsettled _ failed =>
      obtain ⟨settled, kept⟩ := usable.settled
      rw [kept] at failed
      cases failed
  | unready _ _ waited _ =>
      cases ended
      exact waited.isKnown shows
  | ready _ _ _ _ reading =>
      refine reading.isKnown ended.symm usableReads fun exchange member => ?_
      exact shows exchange (List.mem_append_right _ member)

/-- Only an id that can be no key makes a creation fail with a fault that is not known. -/
theorem Creating.isKnown {spec : DesiredSpec} {timeout : Option τ}
    (creating : service.Creating table spec timeout exchanges (.error (.fault fault)))
    (keyed : ¬ service.LeftOpen table (.create spec timeout) exchanges)
    (usable : ∀ budget, service.timeouts.budget .create timeout = .ok budget → budget.Usable)
    (usableReads : ∀ budget, service.timeouts.budget .read none = .ok budget → budget.Usable)
    (shows : ∀ exchange ∈ exchanges, exchange.ShowsMapping) : fault.isKnown = true := by
  generalize ended : (Except.error (.fault fault) : Except Halt InstanceHandle) = created
    at creating
  cases creating with
  | unaccepted unaccepted =>
      cases ended
      exact Budget.isKnown_of_make_eq_error unaccepted
  | refused accepted _ failed =>
      cases ended
      exact failed.isKnown (usable _ accepted)
  | nameless =>
      cases ended
      rfl
  | obtained accepted tried given goesOn =>
      subst ended
      refine goesOn.isKnown ?_ (usable _ accepted) usableReads fun exchange member => ?_
      · obtain ⟨last, atEnd, called, answered⟩ := tried.getLast?
        refine Bool.of_not_eq_false fun unkeyed => keyed (.unkeyed ?_ called answered given unkeyed)
        exact List.mem_append_left _ (List.mem_of_getLast? atEnd)
      · exact shows exchange (List.mem_append_right _ member)

theorem Creating.closes {spec : DesiredSpec} {timeout : Option τ} {audits : List LogRecord}
    {created : Except Halt InstanceHandle}
    (creating : service.Creating table spec timeout exchanges created)
    (trailed : Trailed (service.timeouts.budget .create timeout) .create audits created)
    (opened : audits ≠ []) (ended : created ≠ .error .unfinished)
    (usable : ∀ budget, service.timeouts.budget .create timeout = .ok budget → budget.Usable)
    (usableReads : ∀ budget, service.timeouts.budget .read none = .ok budget → budget.Usable)
    (shows : ∀ exchange ∈ exchanges, exchange.ShowsMapping) :
    service.Closes table (.create spec timeout) .create exchanges
      (audits.map LogRecord.event?) (created.map fun _ => ()) := by
  refine .of_trailed rfl trailed opened ended (fun budget accepted leftOpen => ?_)
    fun closes fault failed => ?_
  · cases leftOpen with
    | @unkeyed _ _ _ exchange clientToken id member called answered given unkeyed =>
        cases creating with
        | unaccepted => cases member
        | refused _ tried _ => cases tried.answered member answered
        | nameless _ tried blank =>
            cases tried.answered member answered
            rw [given] at blank
            cases blank
        | obtained _ tried _ goesOn =>
            rcases List.mem_append.mp member with request | later
            · cases tried.answered request answered
              cases goesOn with
              | unclaimed unclaimed => exact ⟨_, rfl, unclaimed.eq_noKey unkeyed ▸ rfl⟩
              | unsettled _ _ keyed | unready _ _ _ _ keyed | ready _ _ _ _ _ keyed =>
                  rw [unkeyed] at keyed
                  cases keyed
            · rw [goesOn.calls exchange later] at called
              cases called
  · subst failed
    exact creating.isKnown closes usable usableReads shows

/-! ### Reconciling -/

omit [Timescale τ] in
theorem map_event?_successes (steps : List Step) :
    (successes steps).map LogRecord.event? =
      List.replicate steps.length (some "reconcile_step_success") := by
  induction steps with
  | nil => rfl
  | cons step rest ih => exact congrArg (some "reconcile_step_success" :: ·) ih

omit [Timescale τ] in
/-- The opening and the successes of single steps close nothing. -/
theorem unclosed_successes (instanceId : String) (planned done : List Step) :
    Unclosed (((startEntry instanceId planned).record :: successes done).map
      LogRecord.event?) := by
  intro event closing member
  rw [List.map_cons, map_event?_successes] at member
  rcases List.mem_cons.mp member with opening | success
  · obtain rfl := Option.some.inj opening
    have unclosing : Marks.reconcile.opening ∉ closingEvents := by decide
    exact absurd closing unclosing
  · cases List.eq_of_mem_replicate success
    exact absurd closing (by decide)

/-- A reconciliation that holds its instance is left open only behind its last step. -/
theorem LeftOpen.unread_of_free {handle : InstanceHandle} {spec : DesiredSpec}
    {timeout : Option τ} {steps : List Step}
    (leftOpen : service.LeftOpen table (.reconcile handle spec timeout) exchanges)
    (plan : Plan.steps handle spec = .ok steps)
    (free : table.find? (.text handle.instanceId) = none) :
    ∃ earlier reads seen fault, exchanges = earlier ++ reads ∧ Applied steps earlier ∧
      service.Reading (.text handle.instanceId) reads seen ∧
      existing (.text handle.instanceId) .read seen = .error (.fault fault) := by
  cases leftOpen with
  | held found =>
      rw [free] at found
      cases found
  | unread planned applied reading failed =>
      cases plan.symm.trans planned
      exact ⟨_, _, _, _, rfl, applied, reading, failed⟩

/-- A step that fails closes the reconciliation, and nothing behind it is done. -/
theorem Stops.closes {handle : InstanceHandle} {spec : DesiredSpec} {timeout : Option τ}
    {steps : List Step} {trail : List LogRecord} {halt : Halt}
    (stops : service.Stops budget [] steps exchanges trail halt)
    (plan : Plan.steps handle spec = .ok steps)
    (free : table.find? (.text handle.instanceId) = none) (ended : halt ≠ .unfinished)
    (usable : budget.Usable) (shows : ∀ exchange ∈ exchanges, exchange.ShowsMapping) :
    service.Closes table (.reconcile handle spec timeout) .reconcile exchanges
      (((startEntry handle.instanceId steps).record :: trail).map LogRecord.event?)
      (.error halt) := by
  obtain ⟨settled, kept⟩ := usable.settled
  cases stops with
  | @behind done rest step earlier last reason applied run =>
      obtain ⟨_, _, unapplied, _⟩ := run.announces kept
      refine .of_closed ?_ fun leftOpen => ?_
      · cases reason with
        | unfinished => exact absurd rfl ended
        | fault fault =>
            have known : fault.isKnown = true := run.isKnown usable fun exchange member =>
              shows exchange (List.mem_append_right _ member)
            cases fault with
            | known about message details cause =>
                exact .of_last (unclosed_successes handle.instanceId _ done) rfl
            | _ => cases known
      · obtain ⟨_, _, _, _, same, all, _, _⟩ := leftOpen.unread_of_free plan free
        exact applied.not_stopped unapplied all same

theorem Updating.closes {handle : InstanceHandle} {spec : DesiredSpec} {timeout : Option τ}
    {steps : List Step} {trail : List LogRecord} {result : Except Halt Reconciled}
    (updating : service.Updating handle.instanceId steps budget exchanges trail result)
    (plan : Plan.steps handle spec = .ok steps)
    (free : table.find? (.text handle.instanceId) = none) (ended : result ≠ .error .unfinished)
    (usable : budget.Usable) (shows : ∀ exchange ∈ exchanges, exchange.ShowsMapping) :
    service.Closes table (.reconcile handle spec timeout) .reconcile exchanges
      (((startEntry handle.instanceId steps).record :: trail).map LogRecord.event?)
      (result.map fun _ => ()) := by
  cases updating with
  | stopped run =>
      exact run.stops.closes plan free (fun cut => ended (congrArg Except.error cut)) usable shows
  | finished run reading =>
      obtain ⟨applied, rfl⟩ := run.applies
      have unclosed := unclosed_successes handle.instanceId steps steps
      cases seen : existing (.text handle.instanceId) .read _ with
      | ok updated =>
          refine .of_closed (.of_last unclosed rfl) fun leftOpen => ?_
          obtain ⟨_, _, _, _, same, again, other, failed⟩ := leftOpen.unread_of_free plan free
          obtain ⟨rfl, rfl⟩ := applied.unique again same
          obtain ⟨_, last, detail, atEnd, answered, decoded⟩ := reading.found_last seen
          rw [other.found_of_last atEnd (congrArg Prod.snd answered) decoded .read] at failed
          cases failed
      | error halt =>
          cases halt with
          | unfinished => exact absurd seen reading.ne_unfinished
          | fault fault =>
              refine .of_unclosed rfl ?_ (.unread plan applied reading seen) rfl
              rw [readTrail, List.append_nil]
              exact unclosed

theorem Reconciling.closes {handle : InstanceHandle} {spec : DesiredSpec} {timeout : Option τ}
    {audits : List LogRecord} {result : Except Halt Reconciled}
    (reconciling : service.Reconciling table handle spec timeout exchanges audits result)
    (opened : audits ≠ []) (ended : result ≠ .error .unfinished)
    (usable : ∀ budget, Budget.make (timeout.getD service.timeouts.update)
      service.timeouts.interval = .ok budget → budget.Usable)
    (shows : ∀ exchange ∈ exchanges, exchange.ShowsMapping) :
    service.Closes table (.reconcile handle spec timeout) .reconcile exchanges
      (audits.map LogRecord.event?) (result.map fun _ => ()) := by
  cases reconciling with
  | unplanned | unchanged | unaccepted => exact absurd rfl opened
  | @unclaimed steps _ _ _ _ _ unclaimed =>
      cases unclaimed with
      | unkeyed unkeyed => cases unkeyed
      | taken _ found =>
          exact .of_unclosed rfl (unclosed_successes handle.instanceId steps []) (.held found) rfl
  | claimed plan _ accepted free updating =>
      exact updating.closes plan free ended (usable _ accepted) shows

/-! ### All operations -/

/-- The budgets that an operation works with.  Creating and reconciling end with a read, which has a
budget of its own. -/
inductive Uses (service : Service τ ω) : Operation τ → Budget τ → Prop where
  | create {spec : DesiredSpec} {timeout : Option τ} {budget : Budget τ}
      (accepted : service.timeouts.budget .create timeout = .ok budget) :
      Uses service (.create spec timeout) budget
  | reconcile {handle : InstanceHandle} {spec : DesiredSpec} {timeout : Option τ}
      {budget : Budget τ} (accepted : Budget.make (timeout.getD service.timeouts.update)
        service.timeouts.interval = .ok budget) :
      Uses service (.reconcile handle spec timeout) budget
  | delete {instanceId : Value} {timeout : Option τ} {budget : Budget τ}
      (accepted : service.timeouts.budget .delete timeout = .ok budget) :
      Uses service (.delete instanceId timeout) budget
  | read {operation : Operation τ} {budget : Budget τ}
      (accepted : service.timeouts.budget .read none = .ok budget) :
      Uses service operation budget

theorem operate_closes {inside : Enclosure τ} (encloses : service.surroundings.Encloses inside)
    (keeps : service.surroundings.Keeps) {operation : Operation τ} {marks : Marks}
    (marked : marks? operation = some marks)
    (usable : ∀ budget, service.Uses operation budget → budget.Usable) (before : Session τ ω) :
    (service.operate operation).Tells inside before fun exchanges audits result =>
      (∀ exchange ∈ exchanges, exchange.ShowsMapping) → audits ≠ [] →
        result ≠ .error .unfinished →
        service.Closes before.inFlight operation marks exchanges (audits.map LogRecord.event?)
          result := by
  have finished : ∀ {α : Type} {result : Except Halt α},
      (result.map fun _ => ()) ≠ .error .unfinished → result ≠ .error .unfinished := by
    intro α result ended same
    subst same
    exact ended rfl
  cases operation with
  | create spec timeout =>
      cases marked
      refine .discard ((create_trails encloses keeps spec timeout before).weaken ?_)
      intro _ _ _ told shows opened ended
      exact told.2.closes told.1 opened (finished ended) (fun _ accepted =>
        usable _ (.create accepted)) (fun _ accepted => usable _ (.read accepted)) shows
  | reconcile handle spec timeout =>
      cases marked
      refine .discard ((reconcile_tells encloses keeps handle spec timeout before).weaken ?_)
      intro _ _ _ reconciling shows opened ended
      exact reconciling.closes opened (finished ended) (fun _ accepted =>
        usable _ (.reconcile accepted)) shows
  | delete instanceId timeout =>
      cases marked
      refine .discard ((delete_trails encloses keeps instanceId timeout before).weaken ?_)
      intro _ _ _ told shows opened ended
      exact told.2.closes told.1 opened (finished ended) (fun _ accepted =>
        usable _ (.delete accepted)) shows
  | read | adopt => cases marked

/-- A trail that an operation opens is closed exactly once, at its end, with a success exactly when
the operation returns, unless the operation is one of those that leave it open: then it fails
without a closing event. -/
theorem opened_trail_closes_iff {inside : Enclosure τ}
    (encloses : service.surroundings.Encloses inside) (keeps : service.surroundings.Keeps)
    {operation : Operation τ} {marks : Marks} (marked : marks? operation = some marks)
    (usable : ∀ budget, service.Uses operation budget → budget.Usable) (before : Session τ ω) :
    ∃ added exchanges audits,
      (service.operate operation before).2.events = before.events ++ added ∧
      Told inside added exchanges audits ∧
      ((∀ exchange ∈ exchanges, exchange.ShowsMapping) →
        some marks.opening ∈ audits.map LogRecord.event? →
        (service.operate operation before).1 ≠ .error .unfinished →
        service.Closes before.inFlight operation marks exchanges (audits.map LogRecord.event?)
          (service.operate operation before).1) := by
  obtain ⟨added, exchanges, audits, extended, told, closes⟩ :=
    operate_closes encloses keeps marked usable before
  refine ⟨added, exchanges, audits, extended, told, fun shows opened => closes shows ?_⟩
  intro nothing
  subst nothing
  cases opened

/-- A service with the standard timeouts whose clock stands still. -/
def standard : Service Amount (List (Except Fault Value)) where
  surroundings := .ofAnswers (fun _ => Sample.nextAnswer) (pure (.real 0.0))
    (fun _ answers => answers) toString
  timeouts := .standard
  horizon := 100

theorem standard_solitary : standard.surroundings.Solitary :=
  Surroundings.ofAnswers_solitary (fun _ => Sample.nextAnswer) (pure (.real 0.0))
    (fun _ answers => answers) toString

/-- The release is refused for the state of the instance, which is polled until it is paused. -/
theorem opened_trail_closes_iff_paused :
    let operation : Operation Amount := .delete (.text "scs-1") none
    let after := standard.operate operation { world := Sample.pausing.world }
    ∃ exchanges, answersOf after.2.events = exchanges.map Exchange.answer ∧
      standard.Closes [] operation .delete exchanges
        ((auditsOf after.2.events).map LogRecord.event?) after.1 := by
  intro operation after
  have usable : ∀ budget, standard.Uses (.delete (.text "scs-1") none) budget →
      budget.Usable := by
    intro budget uses
    cases uses with
    | delete accepted | read accepted => exact Budget.usable_standard accepted
  obtain ⟨added, exchanges, audits, extended, told, closes⟩ :=
    opened_trail_closes_iff standard_solitary.encloses standard_solitary.keeps
      (rfl : marks? operation = some .delete) usable { world := Sample.pausing.world }
  have added_eq : after.2.events = added := extended.trans (List.nil_append added)
  have flat : answersOf after.2.events = exchanges.map Exchange.answer :=
    added_eq ▸ told.flat.2
  have shows : ∀ exchange ∈ exchanges, exchange.ShowsMapping := by
    have mappings : ∀ answer ∈ answersOf after.2.events,
        (answer.2 matches .ok (.mapping _) | .error _) = true :=
      List.all_eq_true.mp (by decide +kernel)
    intro exchange member
    exact Exchange.showsMapping_of_answer
      (mappings exchange.answer (flat ▸ List.mem_map_of_mem member))
  have opened : some "delete_start" ∈ (auditsOf after.2.events).map LogRecord.event? := by
    decide +kernel
  have finished : after.1 ≠ .error .unfinished := by decide +kernel
  have trail : auditsOf after.2.events = audits := added_eq ▸ told.trail
  refine ⟨exchanges, flat, ?_⟩
  rw [trail] at opened ⊢
  exact closes shows opened finished

/-- Both steps are applied, and then the instance cannot be read. -/
def unreadable : Session Rat (List (Except Fault Value)) where
  world := [.ok .null, .ok (Sample.runningDetail "after" "small"), .ok .null,
    .ok (Sample.runningDetail "after" "large"), .error (.plain .value [])]

/-- The steps succeed, the reconciliation fails, and its trail does not say so. -/
theorem reconciliation_left_open :
    let after := Sample.scripted.operate (.reconcile Sample.pair Sample.grown none) unreadable
    answersOf after.2.events =
      [(.updateInstanceName (.text "scs-1") (.text "after") "0", .ok .null),
        (.getInstanceDetail (.text "scs-1"), .ok (Sample.runningDetail "after" "small")),
        (.resizeNodeType (.text "scs-1") (.text "large"), .ok .null),
        (.getInstanceDetail (.text "scs-1"), .ok (Sample.runningDetail "after" "large")),
        (.getInstanceDetail (.text "scs-1"), .error (.plain .value []))] ∧
      (auditsOf after.2.events).map LogRecord.event? =
        [some "reconcile_start", some "reconcile_step_success", some "reconcile_step_success"] ∧
      after.1.isOk = false ∧
      ¬ Marks.reconcile.Closed ((auditsOf after.2.events).map LogRecord.event?) after.1.isOk := by
  have answers : answersOf (Sample.scripted.operate (.reconcile Sample.pair Sample.grown none)
        unreadable).2.events =
      [(.updateInstanceName (.text "scs-1") (.text "after") "0", .ok .null),
        (.getInstanceDetail (.text "scs-1"), .ok (Sample.runningDetail "after" "small")),
        (.resizeNodeType (.text "scs-1") (.text "large"), .ok .null),
        (.getInstanceDetail (.text "scs-1"), .ok (Sample.runningDetail "after" "large")),
        (.getInstanceDetail (.text "scs-1"), .error (.plain .value []))] := by
    decide +kernel
  have trail : (auditsOf (Sample.scripted.operate (.reconcile Sample.pair Sample.grown none)
        unreadable).2.events).map LogRecord.event? =
      [some "reconcile_start", some "reconcile_step_success", some "reconcile_step_success"] := by
    decide +kernel
  have failed : (Sample.scripted.operate (.reconcile Sample.pair Sample.grown none)
      unreadable).1.isOk = false := by
    decide +kernel
  refine ⟨answers, trail, failed, fun closed => ?_⟩
  rw [trail, failed] at closed
  obtain ⟨earlier, ends, _⟩ := closed
  have last := congrArg List.getLast? ends
  rw [List.getLast?_append] at last
  exact absurd (Option.some.inj (Option.some.inj last)) (by decide)

end Service

end CacheSteward
