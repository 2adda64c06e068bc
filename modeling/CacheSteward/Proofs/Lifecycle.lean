import CacheSteward.Proofs.Steps

namespace CacheSteward

/-! What creating and deleting an instance ask of the control plane.

A deletion holds its instance from the start.  A creation learns the id of its instance only from
the control plane, and until then there is nothing to hold.
-/

variable {τ ω : Type} {inside : Enclosure τ} [Timescale τ]

namespace Service

variable {service : Service τ ω}

/-! ### The audit trail -/

/-- The events by which an operation opens and closes its part of the audit trail. -/
structure Marks where
  opening : String
  success : String
  failure : String

namespace Marks

def create : Marks := ⟨"create_start", "create_success", "create_failed"⟩

def reconcile : Marks := ⟨"reconcile_start", "reconcile_success", "reconcile_step_failed"⟩

def delete : Marks := ⟨"delete_start", "delete_success", "delete_failed"⟩

end Marks

/-- The events behind the opening.  Only known faults are noticed. -/
def closing {α : Type} (marks : Marks) : Except Halt α → List (Option String)
  | .ok _ => [some marks.success]
  | .error .unfinished => []
  | .error (.fault fault) => if fault.isKnown then [some marks.failure] else []

/-- The trail of an operation: it is opened once the budget is accepted, and then closed as the
result says. -/
def Trailed {α : Type} (judged : Except Fault (Budget τ)) (marks : Marks)
    (audits : List LogRecord) (result : Except Halt α) : Prop :=
  match judged with
  | .error _ => audits = []
  | .ok _ => audits.map LogRecord.event? = some marks.opening :: closing marks result

section Trails

variable {α β : Type} {judged : Except Fault (Budget τ)} {marks : Marks} {budget : Budget τ}

omit [Timescale τ] in
theorem trailed_unaccepted {fault : Fault} {result : Except Halt α}
    (unaccepted : judged = .error fault) : Trailed judged marks [] result := by
  subst unaccepted
  rfl

omit [Timescale τ] in
theorem trailed_accepted {audits : List LogRecord} {result : Except Halt α}
    (accepted : judged = .ok budget)
    (trail : audits.map LogRecord.event? = some marks.opening :: closing marks result) :
    Trailed judged marks audits result := by
  subst accepted
  exact trail

omit [Timescale τ] in
theorem trailed_notices {start : AuditEntry} {entry : Fault → AuditEntry}
    (accepted : judged = .ok budget) (opens : start.event = marks.opening)
    (notes : ∀ fault, (entry fault).event = marks.failure) (halt : Halt) :
    Trailed judged marks (start.record :: Run.notices entry (.error halt : Except Halt α))
      (.error halt : Except Halt β) := by
  refine trailed_accepted accepted ?_
  cases halt with
  | unfinished => simp [Run.notices, closing, opens]
  | fault fault =>
      cases known : fault.isKnown <;> simp [Run.notices, closing, known, opens, notes]

end Trails

/-! ### Deleting -/

/-- What deleting an instance asks for, and its result. -/
inductive Deleting (service : Service τ ω) (table : InFlight τ) (instanceId : Value)
    (timeout : Option τ) : List (Exchange τ) → Except Halt InstanceStatus → Prop where
  | unaccepted {fault : Fault}
      (unaccepted : service.timeouts.budget .delete timeout = .error fault) :
      Deleting service table instanceId timeout [] (.error (.fault fault))
  | unclaimed {budget : Budget τ} {fault : Fault}
      (accepted : service.timeouts.budget .delete timeout = .ok budget)
      (unclaimed : Unclaimed table instanceId fault) :
      Deleting service table instanceId timeout [] (.error (.fault fault))
  | unsettled {budget : Budget τ} {fault : Fault}
      (accepted : service.timeouts.budget .delete timeout = .ok budget)
      (free : table.find? instanceId = none)
      (failed : Timescale.settled budget.timeout = .error fault) (keyed : instanceId.isKey) :
      Deleting service table instanceId timeout [] (.error (.fault fault))
  | mutated {budget : Budget τ} {drawn : Nat} {pending : PendingOperation τ}
      {exchanges : List (Exchange τ)} {result : Except Halt InstanceStatus}
      (accepted : service.timeouts.budget .delete timeout = .ok budget)
      (free : table.find? instanceId = none)
      (shown : pendingOperation .delete instanceId (service.surroundings.token drawn) budget =
        .ok pending)
      (mutation : Mutation (deleteAction instanceId budget (service.surroundings.token drawn))
        (.deleteInstance instanceId (service.surroundings.token drawn))
        (fun polls result =>
          ∃ rest, (goneWait instanceId budget rest).Polls service.horizon polls result)
        exchanges result)
      (announced : Announced instanceId pending exchanges) (keyed : instanceId.isKey) :
      Deleting service table instanceId timeout exchanges result

theorem deleteAndWait_tells (encloses : service.surroundings.Encloses inside)
    (keeps : service.surroundings.Keeps) (instanceId : Value) {timeout : Option τ}
    {budget : Budget τ} (accepted : service.timeouts.budget .delete timeout = .ok budget)
    (drawn : Nat) (before : Session τ ω) :
    (service.deleteAndWait instanceId budget (service.surroundings.token drawn)).Tells inside
      before fun exchanges audits result => audits = [] ∧
        service.Deleting before.inFlight instanceId timeout exchanges result := by
  unfold deleteAndWait
  refine .claiming (fun fault refused => ⟨rfl, .unclaimed accepted refused⟩)
    fun keyed free => ?_
  refine announce_tells (fun fault failed => ⟨rfl, .unsettled accepted free failed keyed⟩)
    fun pending _ held shown found showing => ?_
  refine (mutate_tells_announced encloses keeps _ _
    (fun start session => await_tells encloses start budget (goneWait instanceId budget) session)
    (fun start => await_keeps keeps start budget _) found showing).weaken fun _ _ _ told => ?_
  obtain ⟨rfl, mutation, announced⟩ := told
  exact ⟨rfl, .mutated accepted free shown mutation announced keyed⟩

theorem delete_trails (encloses : service.surroundings.Encloses inside)
    (keeps : service.surroundings.Keeps) (instanceId : Value) (timeout : Option τ)
    (before : Session τ ω) :
    (service.delete instanceId timeout).Tells inside before fun exchanges audits result =>
      Trailed (service.timeouts.budget .delete timeout) .delete audits result ∧
        service.Deleting before.inFlight instanceId timeout exchanges result := by
  unfold delete
  refine .afterExcept (fun fault refused => ⟨trailed_unaccepted refused, .unaccepted refused⟩)
    fun budget accepted => ?_
  refine .afterQuiet (Run.draw_quiet service.surroundings) fun clientToken drawn drew kept => ?_
  obtain rfl : service.surroundings.token before.drawn = clientToken := by
    cases drew
    rfl
  rw [← kept]
  have deleted := fun session =>
    deleteAndWait_tells encloses keeps instanceId accepted before.drawn session
  refine .afterAudit (.bind (.notingOnly (deleted _)) ?_ ?_)
  · intro reason xs _ told
    obtain ⟨rfl, deleting⟩ := told
    refine ⟨trailed_notices accepted ?_ (fun _ => ?_) reason, deleting⟩
    all_goals rfl
  · intro status after xs _ _ told
    obtain ⟨rfl, deleting⟩ := told
    refine .afterAudit (.afterQuiet (Run.log_quiet LogChannel.noConfusion) fun _ _ _ _ => .pure ?_)
    rw [List.append_nil xs]
    exact ⟨trailed_accepted accepted rfl, deleting⟩

theorem delete_tells (encloses : service.surroundings.Encloses inside)
    (keeps : service.surroundings.Keeps) (instanceId : Value) (timeout : Option τ)
    (before : Session τ ω) :
    (service.delete instanceId timeout).Tells inside before fun exchanges _ result =>
      service.Deleting before.inFlight instanceId timeout exchanges result :=
  (delete_trails encloses keeps instanceId timeout before).weaken fun _ _ _ told => told.2

/-! ### Creating -/

/-- What follows on the id of a new instance, and the result. -/
inductive Obtained (service : Service τ ω) (table : InFlight τ) (budget : Budget τ)
    (clientToken : String) (instanceId : Value) :
    List (Exchange τ) → Except Halt InstanceHandle → Prop where
  | unclaimed {fault : Fault} (unclaimed : Unclaimed table instanceId fault) :
      Obtained service table budget clientToken instanceId [] (.error (.fault fault))
  | unsettled {fault : Fault} (free : table.find? instanceId = none)
      (failed : Timescale.settled budget.timeout = .error fault) (keyed : instanceId.isKey) :
      Obtained service table budget clientToken instanceId [] (.error (.fault fault))
  | unready {pending : PendingOperation τ} {rest : τ} {polls : List (Exchange τ)} {halt : Halt}
      (free : table.find? instanceId = none)
      (shown : pendingOperation .create instanceId clientToken budget = .ok pending)
      (waited : (createdWait instanceId budget rest).Polls service.horizon polls (.error halt))
      (announced : Announced instanceId pending polls) (keyed : instanceId.isKey) :
      Obtained service table budget clientToken instanceId polls (.error halt)
  | ready {pending : PendingOperation τ} {rest : τ} {polls reads : List (Exchange τ)}
      {status : InstanceStatus} {seen : Except Halt (Option InstanceHandle)}
      (free : table.find? instanceId = none)
      (shown : pendingOperation .create instanceId clientToken budget = .ok pending)
      (waited : (createdWait instanceId budget rest).Polls service.horizon polls (.ok status))
      (announced : Announced instanceId pending polls)
      (reading : service.Reading instanceId reads seen) (keyed : instanceId.isKey) :
      Obtained service table budget clientToken instanceId (polls ++ reads)
        (existing instanceId .create seen)

/-- What creating an instance asks for, and its result. -/
inductive Creating (service : Service τ ω) (table : InFlight τ) (spec : DesiredSpec)
    (timeout : Option τ) : List (Exchange τ) → Except Halt InstanceHandle → Prop where
  | unaccepted {fault : Fault}
      (unaccepted : service.timeouts.budget .create timeout = .error fault) :
      Creating service table spec timeout [] (.error (.fault fault))
  | refused {budget : Budget τ} {drawn : Nat} {tries : List (Exchange τ)} {raw : Fault}
      {halt : Halt} (accepted : service.timeouts.budget .create timeout = .ok budget)
      (tried : Attempts (.createInstance spec.createArgs (service.surroundings.token drawn))
        .create tries (.error raw))
      (ended : (createAction budget (service.surroundings.token drawn)).Ends (.error raw)
        (.error halt)) :
      Creating service table spec timeout tries (.error halt)
  | nameless {budget : Budget τ} {drawn : Nat} {tries : List (Exchange τ)} {answer : Value}
      (accepted : service.timeouts.budget .create timeout = .ok budget)
      (tried : Attempts (.createInstance spec.createArgs (service.surroundings.token drawn))
        .create tries (.ok answer)) (blank : answer.isGiven = false) :
      Creating service table spec timeout tries (.error (.fault (.remoteOperation
        "Create returned no instance id" (some OperationKind.create.word) .null none)))
  | obtained {budget : Budget τ} {drawn : Nat} {tries exchanges : List (Exchange τ)}
      {instanceId : Value} {result : Except Halt InstanceHandle}
      (accepted : service.timeouts.budget .create timeout = .ok budget)
      (tried : Attempts (.createInstance spec.createArgs (service.surroundings.token drawn))
        .create tries (.ok instanceId)) (given : instanceId.isGiven = true)
      (goesOn : service.Obtained table budget (service.surroundings.token drawn) instanceId
        exchanges result) :
      Creating service table spec timeout (tries ++ exchanges) result

/-- The id has been obtained, and the table is as it was before the request. -/
theorem obtained_tells (encloses : service.surroundings.Encloses inside)
    (keeps : service.surroundings.Keeps) (budget : Budget τ) (clientToken : String) (start : τ)
    (instanceId : Value) (before : Session τ ω) :
    Run.Tells (do
        Run.claiming instanceId do
          announce .create instanceId clientToken budget
          discard (service.await start budget (createdWait instanceId budget))
        return (instanceId, ← service.readExisting instanceId .create)) inside before
      fun exchanges audits result => audits = [] ∧ ∃ ended,
        service.Obtained before.inFlight budget clientToken instanceId exchanges ended ∧
        result = ended.map (instanceId, ·) := by
  have claimed : (Run.claiming instanceId do
      announce .create instanceId clientToken budget
      discard (service.await start budget (createdWait instanceId budget))).Tells inside before
      fun exchanges audits result => audits = [] ∧
        ((∃ halt, service.Obtained before.inFlight budget clientToken instanceId []
            (.error halt) ∧ exchanges = [] ∧ result = .error halt) ∨
        ∃ pending rest ended, before.inFlight.find? instanceId = none ∧ instanceId.isKey ∧
          pendingOperation .create instanceId clientToken budget = .ok pending ∧
          (createdWait instanceId budget rest).Polls service.horizon exchanges ended ∧
          Announced instanceId pending exchanges ∧ result = ended.map fun _ => ⟨⟩) := by
    refine .claiming (fun fault refused => ⟨rfl, .inl ⟨_, .unclaimed refused, rfl, rfl⟩⟩)
      fun keyed free => announce_tells (fun fault failed => ?_)
        fun pending claimed held shown found showing => ?_
    · exact ⟨rfl, .inl ⟨_, .unsettled free failed keyed, rfl, rfl⟩⟩
    · have told := (await_tells encloses start budget (createdWait instanceId budget) claimed)
      refine .discard ((told.showing (await_keeps keeps start budget _) found).weaken
        fun xs _ result polled => ?_)
      obtain ⟨⟨rfl, rest, polled⟩, announced⟩ := polled
      rw [showing] at announced
      exact ⟨rfl, .inr ⟨pending, rest, result, free, keyed, shown, polled, announced, rfl⟩⟩
  refine .bind claimed ?_ ?_
  · intro reason xs _ told
    obtain ⟨rfl, ⟨_, obtained, rfl, same⟩ | ⟨pending, rest, ended, free, keyed, shown, polled,
      announced, same⟩⟩ := told
    · cases same
      exact ⟨rfl, _, obtained, rfl⟩
    · cases ended with
      | ok status => cases same
      | error reason =>
          cases same
          exact ⟨rfl, _, .unready free shown polled announced keyed, rfl⟩
  · intro _ after xs _ _ told
    obtain ⟨rfl, ⟨_, _, _, same⟩ | ⟨pending, rest, ended, free, keyed, shown, polled,
      announced, same⟩⟩ := told
    · cases same
    · cases ended with
      | error reason => cases same
      | ok status =>
          refine .bind (readExisting_tells encloses instanceId .create after) ?_ ?_
          · intro reason ys _ told
            obtain ⟨rfl, seen, reading, same⟩ := told
            exact ⟨rfl, _, .ready free shown polled announced reading keyed, by rw [← same]; rfl⟩
          · intro handle _ ys _ _ told
            obtain ⟨rfl, seen, reading, same⟩ := told
            refine .pure ?_
            rw [List.append_nil ys]
            exact ⟨rfl, _, .ready free shown polled announced reading keyed, by rw [← same]; rfl⟩

theorem createAndWait_tells (encloses : service.surroundings.Encloses inside)
    (keeps : service.surroundings.Keeps) (spec : DesiredSpec) {timeout : Option τ}
    {budget : Budget τ} (accepted : service.timeouts.budget .create timeout = .ok budget)
    (drawn : Nat) (start : τ) (before : Session τ ω) :
    (service.createAndWait spec budget (service.surroundings.token drawn) start).Tells inside
      before fun exchanges audits result => audits = [] ∧ ∃ ended,
        service.Creating before.inFlight spec timeout exchanges ended ∧
        result.map Prod.snd = ended := by
  let action := createAction budget (service.surroundings.token drawn)
  have succeeds : ∀ disposition : Disposition, disposition.resolve action.kind ≠ .success := by
    intro disposition resolved
    rcases Disposition.delete_or_read_of_resolve_eq_success resolved with deleted | read
    · cases deleted
    · cases read
  unfold createAndWait
  refine .bind (action.perform_tells encloses _ before) ?_ ?_
  · intro reason xs _ told
    obtain ⟨rfl, outcome, tried, ended⟩ := told
    obtain ⟨raw, rfl⟩ := Action.failed_of_ends_error ended
    exact ⟨rfl, _, .refused accepted tried ended, rfl⟩
  · intro instanceId after xs _ ran told
    obtain ⟨rfl, outcome, tried, ended⟩ := told
    obtain rfl := Action.answered_of_ends_ok ended succeeds
    have table : after.inFlight = before.inFlight := by
      have keepsTable : (action.perform service.surroundings (Run.remote service.surroundings
          (.createInstance spec.createArgs (service.surroundings.token drawn)))).Keeps none :=
        Action.perform_keeps keeps action _
      have kept := keepsTable before
      rw [ran] at kept
      exact kept.table
    cases given : instanceId.isGiven with
    | false =>
        refine .fail ⟨rfl, _, ?_, rfl⟩
        rw [List.append_nil]
        exact .nameless accepted tried given
    | true =>
        refine (obtained_tells encloses keeps budget _ start instanceId after).weaken
          fun ys _ result told => ?_
        obtain ⟨rfl, ended, obtained, rfl⟩ := told
        rw [table] at obtained
        refine ⟨rfl, ended, .obtained accepted tried given obtained, ?_⟩
        cases ended <;> rfl

theorem create_trails (encloses : service.surroundings.Encloses inside)
    (keeps : service.surroundings.Keeps) (spec : DesiredSpec) (timeout : Option τ)
    (before : Session τ ω) :
    (service.create spec timeout).Tells inside before fun exchanges audits result =>
      Trailed (service.timeouts.budget .create timeout) .create audits result ∧
        service.Creating before.inFlight spec timeout exchanges result := by
  unfold create
  refine .afterExcept (fun fault refused => ⟨trailed_unaccepted refused, .unaccepted refused⟩)
    fun budget accepted => ?_
  refine .afterQuiet (Run.draw_quiet service.surroundings)
    fun clientToken drawn drew drawnSame => ?_
  obtain rfl : service.surroundings.token before.drawn = clientToken := by
    cases drew
    rfl
  rw [← drawnSame]
  refine .afterQuiet (Run.log_quiet LogChannel.noConfusion) fun _ noted _ notedSame => ?_
  rw [← notedSame]
  refine .afterAudit (.afterQuiet (Run.now_quiet service.surroundings)
    fun start timed _ timedSame => ?_)
  have created := createAndWait_tells encloses keeps spec accepted before.drawn start timed
  have table : timed.inFlight = noted.inFlight := timedSame
  rw [table] at created
  refine .bind (.notingOnly created) ?_ ?_
  · intro reason xs _ told
    obtain ⟨rfl, _, creating, rfl⟩ := told
    refine ⟨trailed_notices accepted ?_ (fun _ => ?_) reason, creating⟩
    all_goals rfl
  · intro ended after xs _ _ told
    obtain ⟨rfl, _, creating, rfl⟩ := told
    refine .afterAudit (.afterQuiet (Run.log_quiet LogChannel.noConfusion) fun _ _ _ _ => .pure ?_)
    rw [List.append_nil xs]
    exact ⟨trailed_accepted accepted rfl, creating⟩

theorem create_tells (encloses : service.surroundings.Encloses inside)
    (keeps : service.surroundings.Keeps) (spec : DesiredSpec) (timeout : Option τ)
    (before : Session τ ω) :
    (service.create spec timeout).Tells inside before fun exchanges _ result =>
      service.Creating before.inFlight spec timeout exchanges result :=
  (create_trails encloses keeps spec timeout before).weaken fun _ _ _ told => told.2

end Service

end CacheSteward
