import CacheSteward.Proofs.Keeping

namespace CacheSteward

/-! What the operations of a service ask of the control plane.

A mutation is a group of attempts and, once one of them succeeded, a group of polls.  A
reconciliation is a row of such mutations that goes on only behind a success.
-/

variable {τ ω : Type} {inside : Enclosure τ} [Timescale τ]

/-- Attempts at a mutation and, behind a success, what is asked while waiting for its effect. -/
inductive Mutation (action : Action τ) (call : RemoteCall)
    (waits : List (Exchange τ) → Except Halt InstanceStatus → Prop) :
    List (Exchange τ) → Except Halt InstanceStatus → Prop where
  | refused {tries : List (Exchange τ)} {outcome : Except Fault Value} {halt : Halt}
      (tried : Attempts call action.kind tries outcome)
      (ended : action.Ends outcome (.error halt)) :
      Mutation action call waits tries (.error halt)
  | accepted {tries polls : List (Exchange τ)} {outcome : Except Fault Value} {value : Value}
      {result : Except Halt InstanceStatus}
      (tried : Attempts call action.kind tries outcome)
      (ended : action.Ends outcome (.ok value)) (waited : waits polls result) :
      Mutation action call waits (tries ++ polls) result

/-- Only a wait can be cut short. -/
theorem Mutation.horizon_le {action : Action τ} {call : RemoteCall} {horizon : Nat}
    {waits : List (Exchange τ) → Except Halt InstanceStatus → Prop}
    {exchanges : List (Exchange τ)}
    (mutation : Mutation action call waits exchanges (.error .unfinished))
    (cut : ∀ polls, waits polls (.error .unfinished) → horizon ≤ polls.length) :
    horizon ≤ exchanges.length := by
  cases mutation with
  | refused tried ended => exact absurd ended Action.Ends.ne_unfinished
  | accepted tried ended waited =>
      rw [List.length_append]
      exact Nat.le_add_left_of_le (cut _ waited)

/-- A mutation makes its call. -/
theorem Mutation.called {action : Action τ} {call : RemoteCall}
    {waits : List (Exchange τ) → Except Halt InstanceStatus → Prop}
    {exchanges : List (Exchange τ)} {result : Except Halt InstanceStatus}
    (mutation : Mutation action call waits exchanges result) :
    ∃ exchange ∈ exchanges, exchange.call = call := by
  cases mutation with
  | refused tried ended =>
      obtain ⟨last, atEnd, called, _⟩ := tried.getLast?
      exact ⟨last, List.mem_of_getLast? atEnd, called⟩
  | accepted tried ended waited =>
      obtain ⟨last, atEnd, called, _⟩ := tried.getLast?
      exact ⟨last, List.mem_append_left _ (List.mem_of_getLast? atEnd), called⟩

/-- Beside its call a mutation makes only polls. -/
theorem Mutation.calls {action : Action τ} {call : RemoteCall} {wait : τ → Wait τ} {horizon : Nat}
    {exchanges : List (Exchange τ)} {result : Except Halt InstanceStatus}
    (mutation : Mutation action call
      (fun polls result => ∃ rest, (wait rest).Polls horizon polls result) exchanges result) :
    ∀ exchange ∈ exchanges, exchange.call = call ∨
      ∃ rest, exchange.call = .getInstanceDetail (wait rest).instanceId := by
  intro exchange member
  cases mutation with
  | refused tried ended => exact .inl (tried.calls exchange member)
  | accepted tried ended waited =>
      obtain ⟨rest, polled⟩ := waited
      rcases List.mem_append.mp member with tries | polls
      · exact .inl (tried.calls exchange tries)
      · exact .inr ⟨rest, polled.reads exchange polls⟩

namespace Service

variable {service : Service τ ω}

theorem await_tells (encloses : service.surroundings.Encloses inside) (start : τ)
    (budget : Budget τ) (wait : τ → Wait τ) (before : Session τ ω) :
    (service.await start budget wait).Tells inside before fun exchanges audits result =>
      audits = [] ∧ ∃ rest, (wait rest).Polls service.horizon exchanges result := by
  unfold await remaining
  rw [bind_assoc]
  refine .afterQuiet (Run.elapsed_quiet service.surroundings start) fun elapsed timed _ _ => ?_
  rw [pure_bind]
  refine (Wait.perform_tells encloses service.horizon (wait (budget.remaining elapsed))
    timed).weaken fun xs _ result told => ?_
  obtain ⟨rfl, polled⟩ := told
  exact ⟨rfl, _, polled⟩

theorem mutate_tells (encloses : service.surroundings.Encloses inside) (action : Action τ)
    (call : RemoteCall) {await : τ → Run τ ω InstanceStatus}
    {waits : List (Exchange τ) → Except Halt InstanceStatus → Prop}
    (awaited : ∀ start session, (await start).Tells inside session fun exchanges audits result =>
      audits = [] ∧ waits exchanges result) (before : Session τ ω) :
    (service.mutate action call await).Tells inside before fun exchanges audits result =>
      audits = [] ∧ Mutation action call waits exchanges result := by
  unfold mutate
  refine .afterQuiet (Run.now_quiet service.surroundings) fun start timed _ _ => ?_
  rw [Run.discard_eq, bind_assoc]
  refine .bind (action.perform_tells encloses call timed) ?_ ?_
  · intro halt xs _ told
    obtain ⟨rfl, outcome, tried, ended⟩ := told
    exact ⟨rfl, .refused tried ended⟩
  · intro value done xs _ _ told
    obtain ⟨rfl, outcome, tried, ended⟩ := told
    rw [pure_bind]
    refine (awaited start done).weaken fun ys _ result awaited => ?_
    obtain ⟨rfl, waited⟩ := awaited
    exact ⟨rfl, .accepted tried ended waited⟩

/-! ### Reading -/

/-- The end of a run that only judges. -/
def judged {α : Type} (result : Except Fault α) : Except Halt α := result.mapError .fault

@[simp]
theorem judged_ok {α : Type} (a : α) : judged (.ok a : Except Fault α) = .ok a := rfl

@[simp]
theorem judged_error {α : Type} (fault : Fault) :
    judged (.error fault : Except Fault α) = .error (.fault fault) := rfl

theorem judged_eq_ok_iff {α : Type} {result : Except Fault α} {a : α} :
    judged result = .ok a ↔ result = .ok a := by
  cases result with
  | ok b => simp only [judged_ok, Except.ok.injEq]
  | error fault => exact ⟨nofun, nofun⟩

theorem judged_eq_error_iff {α : Type} {result : Except Fault α} {halt : Halt} :
    judged result = .error halt ↔ ∃ fault, result = .error fault ∧ halt = .fault fault := by
  cases result with
  | ok a => exact ⟨nofun, nofun⟩
  | error reason =>
      rw [judged_error]
      constructor
      · intro same
        cases same
        exact ⟨reason, rfl, rfl⟩
      · intro failed
        obtain ⟨_, same, rfl⟩ := failed
        cases same
        rfl

/-- What reading an instance asks for, and its result. -/
inductive Reading (service : Service τ ω) (instanceId : Value) :
    List (Exchange τ) → Except Halt (Option InstanceHandle) → Prop where
  /-- The configured budget is refused. -/
  | refused {fault : Fault} (unaccepted : service.timeouts.budget .read none = .error fault) :
      Reading service instanceId [] (.error (.fault fault))
  | failed {budget : Budget τ} {tries : List (Exchange τ)} {outcome : Except Fault Value}
      {halt : Halt} (accepted : service.timeouts.budget .read none = .ok budget)
      (tried : Attempts (.getInstanceDetail instanceId) .read tries outcome)
      (ended : (readAction instanceId budget).Ends outcome (.error halt)) :
      Reading service instanceId tries (.error halt)
  | missing {budget : Budget τ} {tries : List (Exchange τ)} {outcome : Except Fault Value}
      (accepted : service.timeouts.budget .read none = .ok budget)
      (tried : Attempts (.getInstanceDetail instanceId) .read tries outcome)
      (ended : (readAction instanceId budget).Ends outcome (.ok .null)) :
      Reading service instanceId tries (.ok none)
  | found {budget : Budget τ} {tries : List (Exchange τ)} {outcome : Except Fault Value}
      {detail : Value} (accepted : service.timeouts.budget .read none = .ok budget)
      (tried : Attempts (.getInstanceDetail instanceId) .read tries outcome)
      (ended : (readAction instanceId budget).Ends outcome (.ok detail))
      (there : detail ≠ .null) :
      Reading service instanceId tries
        (judged ((InstanceHandle.ofDetail instanceId detail).map some))

theorem read_tells (encloses : service.surroundings.Encloses inside) (instanceId : Value)
    (before : Session τ ω) :
    (service.read instanceId).Tells inside before fun exchanges audits result =>
      audits = [] ∧ service.Reading instanceId exchanges result := by
  unfold read
  refine .afterExcept (fun fault refused => ⟨rfl, .refused refused⟩) fun budget accepted => ?_
  refine .bind ((readAction instanceId budget).perform_tells encloses _ before) ?_ ?_
  · intro halt xs _ told
    obtain ⟨rfl, outcome, tried, ended⟩ := told
    exact ⟨rfl, .failed accepted tried ended⟩
  · intro detail done xs _ _ told
    obtain ⟨rfl, outcome, tried, ended⟩ := told
    have read : detail ≠ .null →
        Run.Tells (some <$> Run.ofExcept (InstanceHandle.ofDetail instanceId detail))
          inside done fun ys ss result => [] ++ ss = [] ∧
            service.Reading instanceId (xs ++ ys) result := by
      intro there
      have shown := Reading.found accepted tried ended there
      rw [map_eq_pure_bind]
      refine .afterExcept (fun fault malformed => ?_) fun handle formed => .pure ?_
      · rw [malformed] at shown
        rw [List.append_nil xs]
        exact ⟨rfl, shown⟩
      · rw [formed] at shown
        rw [List.append_nil xs]
        exact ⟨rfl, shown⟩
    cases detail with
    | null =>
        refine .afterQuiet (Run.log_quiet LogChannel.noConfusion) fun _ _ _ _ => .pure ?_
        rw [List.append_nil xs]
        exact ⟨rfl, .missing accepted tried ended⟩
    | _ => exact read nofun

/-- What becomes of a reading where the instance has to exist. -/
def existing (instanceId : Value) (kind : OperationKind) :
    Except Halt (Option InstanceHandle) → Except Halt InstanceHandle
  | .ok (some handle) => .ok handle
  | .ok none => .error (.fault (.instanceNotFound instanceId (some kind.word) none))
  | .error halt => .error halt

theorem existing_judged (instanceId : Value) (kind : OperationKind)
    (result : Except Fault InstanceHandle) :
    existing instanceId kind (judged (result.map some)) = judged result := by
  cases result <;> rfl

/-- A reading that finds the instance ends with the detail that it was read from. -/
theorem Reading.found_last {instanceId : Value} {reads : List (Exchange τ)}
    {seen : Except Halt (Option InstanceHandle)} {handle : InstanceHandle} {kind : OperationKind}
    (reading : service.Reading instanceId reads seen)
    (found : existing instanceId kind seen = .ok handle) :
    (∀ exchange ∈ reads, exchange.call = .getInstanceDetail instanceId) ∧
      ∃ last detail, reads.getLast? = some last ∧
        last.answer = (.getInstanceDetail instanceId, .ok detail) ∧
        InstanceHandle.ofDetail instanceId detail = .ok handle := by
  cases reading with
  | refused _ | failed _ _ _ | missing _ _ _ => cases found
  | @found budget _ outcome detail accepted tried ended there =>
      rw [existing_judged, judged_eq_ok_iff] at found
      obtain rfl := Action.answered_of_ends_given ended there
      obtain ⟨last, atEnd, called, same⟩ := tried.getLast?
      exact ⟨tried.calls, last, detail, atEnd, by rw [Exchange.answer, called, same], found⟩

/-- A reading finds the instance when its last detail can be decoded. -/
theorem Reading.found_of_last {instanceId : Value} {reads : List (Exchange τ)}
    {seen : Except Halt (Option InstanceHandle)} {handle : InstanceHandle} {last : Exchange τ}
    {detail : Value} (reading : service.Reading instanceId reads seen)
    (atEnd : reads.getLast? = some last) (answered : last.outcome = .ok detail)
    (decoded : InstanceHandle.ofDetail instanceId detail = .ok handle) (kind : OperationKind) :
    existing instanceId kind seen = .ok handle := by
  have same : ∀ {outcome : Except Fault Value},
      Attempts (.getInstanceDetail instanceId) .read reads outcome → outcome = .ok detail := by
    intro outcome tried
    obtain ⟨other, atEndToo, _, rfl⟩ := tried.getLast?
    obtain rfl := Option.some.inj (atEnd.symm.trans atEndToo)
    exact answered
  cases reading with
  | refused _ => cases atEnd
  | failed _ tried ended =>
      rw [same tried] at ended
      cases ended
  | missing _ tried ended =>
      rw [same tried] at ended
      cases ended
      cases decoded
  | found _ tried ended _ =>
      rw [same tried] at ended
      cases ended
      rw [existing_judged, decoded, judged_ok]

/-- With a budget there is at least one attempt. -/
theorem Reading.ne_nil {instanceId : Value} {budget : Budget τ} {exchanges : List (Exchange τ)}
    {seen : Except Halt (Option InstanceHandle)}
    (reading : service.Reading instanceId exchanges seen)
    (accepted : service.timeouts.budget .read none = .ok budget) : exchanges ≠ [] := by
  cases reading with
  | refused unaccepted =>
      rw [accepted] at unaccepted
      cases unaccepted
  | failed _ tried _ | missing _ tried _ | found _ tried _ _ => exact tried.ne_nil

theorem Reading.ne_unfinished {instanceId : Value} {kind : OperationKind}
    {exchanges : List (Exchange τ)} {seen : Except Halt (Option InstanceHandle)}
    (reading : service.Reading instanceId exchanges seen) :
    existing instanceId kind seen ≠ .error .unfinished := by
  intro cut
  cases reading with
  | refused unaccepted => cases cut
  | failed accepted tried ended =>
      cases cut
      exact absurd ended Action.Ends.ne_unfinished
  | missing accepted tried ended => cases cut
  | found accepted tried ended there =>
      rw [existing_judged, judged_eq_error_iff] at cut
      obtain ⟨_, _, impossible⟩ := cut
      cases impossible

theorem readExisting_tells (encloses : service.surroundings.Encloses inside) (instanceId : Value)
    (kind : OperationKind) (before : Session τ ω) :
    (service.readExisting instanceId kind).Tells inside before fun exchanges audits result =>
      audits = [] ∧ ∃ seen, service.Reading instanceId exchanges seen ∧
        result = existing instanceId kind seen := by
  unfold readExisting
  refine .bind (read_tells encloses instanceId before) ?_ ?_
  · intro halt xs _ told
    obtain ⟨rfl, reading⟩ := told
    exact ⟨rfl, _, reading, rfl⟩
  · intro seen done xs _ _ told
    obtain ⟨rfl, reading⟩ := told
    cases seen with
    | none =>
        refine .fail ?_
        rw [List.append_nil xs]
        exact ⟨rfl, _, reading, rfl⟩
    | some handle =>
        refine .pure ?_
        rw [List.append_nil xs]
        exact ⟨rfl, _, reading, rfl⟩

/-! ### Announcing -/

/-- Every exchange about an instance finds an operation pending for it. -/
def Announced (instanceId : Value) (pending : PendingOperation τ)
    (exchanges : List (Exchange τ)) : Prop :=
  ∀ exchange ∈ exchanges, exchange.call.Names instanceId → exchange.pending = some pending

theorem Announced.poll_pending {wait : Wait τ} {horizon : Nat} {instanceId : Value}
    {pending : PendingOperation τ} {polls : List (Exchange τ)}
    {result : Except Halt InstanceStatus} (announced : Announced instanceId pending polls)
    (waited : wait.Polls horizon polls result) (names : wait.instanceId = instanceId) :
    ∀ poll ∈ polls, poll.pending = some pending := by
  intro poll member
  apply announced poll member
  rw [waited.reads poll member, names]
  exact ⟨instanceId, rfl, rfl⟩

/-- What is pending for an instance is pending at every call of a mutation of it. -/
theorem Announced.pending_eq {action : Action τ} {call : RemoteCall} {wait : τ → Wait τ}
    {horizon : Nat} {instanceId : Value} {pending : PendingOperation τ}
    {exchanges : List (Exchange τ)} {result : Except Halt InstanceStatus}
    (announced : Announced instanceId pending exchanges)
    (mutation : Mutation action call
      (fun polls result => ∃ rest, (wait rest).Polls horizon polls result) exchanges result)
    (names : call.instanceId? = some instanceId)
    (waits : ∀ rest, (wait rest).instanceId = instanceId) :
    ∀ exchange ∈ exchanges, exchange.pending = some pending := by
  intro exchange member
  apply announced exchange member
  rcases mutation.calls exchange member with called | ⟨rest, called⟩
  · rw [called]
    exact ⟨instanceId, names, rfl⟩
  · rw [called, waits rest]
    exact ⟨instanceId, rfl, rfl⟩

theorem announce_tells {α : Type} {kind : OperationKind} {instanceId : Value}
    {clientToken : String} {budget : Budget τ} {run : Run τ ω α} {before : Session τ ω}
    {whole : List (Exchange τ) → List LogRecord → Except Halt α → Prop}
    (fails : ∀ fault, Timescale.settled budget.timeout = .error fault →
      whole [] [] (.error (.fault fault)))
    (goesOn : ∀ pending after held,
      pendingOperation kind instanceId clientToken budget = .ok pending →
      after.inFlight.find? instanceId = some held → held.pending = some pending →
      run.Tells inside after whole) :
    (announce kind instanceId clientToken budget >>= fun _ => run).Tells inside before whole := by
  unfold announce
  rw [bind_assoc]
  cases accepted : Timescale.settled budget.timeout with
  | error fault =>
      rw [pendingOperation, accepted]
      refine .afterExcept (fun _ same => ?_) nofun
      cases same
      exact fails fault accepted
  | ok settled =>
      have shown : pendingOperation kind instanceId clientToken budget =
          .ok ⟨kind, some instanceId.shown, clientToken, settled⟩ := by
        rw [pendingOperation, accepted]
        rfl
      rw [shown]
      refine .afterExcept nofun fun pending same => .afterSetPending ?_
      cases same
      obtain ⟨held, found, showing⟩ :=
        InFlight.find?_hold_self before.inFlight instanceId (some _)
      exact goesOn _ _ held shown found showing

/-- A mutation is told together with what is pending meanwhile. -/
theorem mutate_tells_announced (encloses : service.surroundings.Encloses inside)
    (keeps : service.surroundings.Keeps) (action : Action τ) (call : RemoteCall)
    {await : τ → Run τ ω InstanceStatus}
    {waits : List (Exchange τ) → Except Halt InstanceStatus → Prop}
    (awaited : ∀ start session, (await start).Tells inside session fun exchanges audits result =>
      audits = [] ∧ waits exchanges result)
    (awaits : ∀ start, (await start).Keeps none) {instanceId : Value} {before : Session τ ω}
    {held : Held τ} {pending : PendingOperation τ}
    (found : before.inFlight.find? instanceId = some held)
    (showing : held.pending = some pending) :
    (service.mutate action call await).Tells inside before fun exchanges audits result =>
      audits = [] ∧ Mutation action call waits exchanges result ∧
        Announced instanceId pending exchanges := by
  have told := mutate_tells encloses action call awaited before
  refine (told.showing (mutate_keeps keeps action call awaits) found).weaken
    fun xs _ result shown => ?_
  obtain ⟨⟨rfl, mutation⟩, announced⟩ := shown
  rw [showing] at announced
  exact ⟨rfl, mutation, announced⟩

/-! ### Updating -/

/-- What one step asks for, and its result. -/
inductive StepRun (service : Service τ ω) (step : Step) (budget : Budget τ) :
    List (Exchange τ) → Except Halt InstanceStatus → Prop where
  /-- The budget cannot be shown as pending. -/
  | unsettled {fault : Fault} (failed : Timescale.settled budget.timeout = .error fault) :
      StepRun service step budget [] (.error (.fault fault))
  | mutated {drawn : Nat} {call : RemoteCall} {check : AppliedCheck}
      {pending : PendingOperation τ} {exchanges : List (Exchange τ)}
      {result : Except Halt InstanceStatus}
      (intent : Step.Intent (service.surroundings.token drawn) step call check)
      (shown : pendingOperation step.kind (.text step.instanceId)
        (service.surroundings.token drawn) budget = .ok pending)
      (mutation : Mutation (stepAction step budget (service.surroundings.token drawn)) call
        (fun polls result =>
          ∃ rest, (appliedWait step check budget rest).Polls service.horizon polls result)
        exchanges result)
      (announced : Announced (.text step.instanceId) pending exchanges) :
      StepRun service step budget exchanges result

theorem awaitApplied_tells (encloses : service.surroundings.Encloses inside)
    {clientToken : String} {step : Step} {call : RemoteCall} {check : AppliedCheck}
    (intent : Step.Intent clientToken step call check) (budget : Budget τ) (start : τ)
    (before : Session τ ω) :
    (service.awaitApplied step start budget).Tells inside before fun exchanges audits result =>
      audits = [] ∧
        ∃ rest, (appliedWait step check budget rest).Polls service.horizon exchanges result := by
  unfold awaitApplied
  rw [intent.appliedCheck]
  exact await_tells encloses start budget (appliedWait step check budget) before

theorem awaitApplied_keeps {own : Option Value} (keeps : service.surroundings.Keeps)
    (step : Step) (budget : Budget τ) (start : τ) :
    (service.awaitApplied step start budget).Keeps own :=
  .bind (.ofExcept _) fun _ => await_keeps keeps start budget _

theorem runStep_tells (encloses : service.surroundings.Encloses inside)
    (keeps : service.surroundings.Keeps) {step : Step} (sound : step.Sound) (budget : Budget τ)
    (before : Session τ ω) :
    (service.runStep step budget).Tells inside before fun exchanges audits result =>
      audits = [] ∧ service.StepRun step budget exchanges result := by
  unfold runStep
  refine .afterQuiet (Run.draw_quiet service.surroundings) fun clientToken _ drew _ => ?_
  obtain rfl : service.surroundings.token before.drawn = clientToken := by
    cases drew
    rfl
  obtain ⟨call, check, intent⟩ := sound (service.surroundings.token before.drawn)
  rw [intent.callOf]
  refine .afterExcept nofun fun _ same => ?_
  cases same
  refine announce_tells (fun fault failed => ⟨rfl, .unsettled failed⟩)
    fun pending _ held shown found showing => ?_
  refine .afterQuiet (Run.log_quiet LogChannel.noConfusion) fun _ noted _ kept => ?_
  refine .followedBy (fun _ => rfl) ?_
  rw [← kept] at found
  refine (mutate_tells_announced encloses keeps _ call
    (fun start session => awaitApplied_tells encloses intent budget start session)
    (fun start => awaitApplied_keeps keeps step budget start) found showing).weaken
    fun xs _ result told => ?_
  obtain ⟨rfl, mutation, announced⟩ := told
  exact ⟨rfl, .mutated intent shown mutation announced⟩

theorem StepRun.horizon_le {step : Step} {budget : Budget τ} {exchanges : List (Exchange τ)}
    (run : service.StepRun step budget exchanges (.error .unfinished)) :
    service.horizon ≤ exchanges.length := by
  cases run with
  | mutated intent shown mutation announced =>
      refine mutation.horizon_le fun polls waited => ?_
      obtain ⟨rest, polled⟩ := waited
      exact polled.horizon_le

/-- A failure of a step as the reconciliation reports it. -/
def reported (step : Step) (completed : List Step) : Halt → Halt
  | .fault fault => .fault (fault.mapDetails (stepReport step completed))
  | .unfinished => .unfinished

/-- How a step ends for the steps around it. -/
def stepEnd (step : Step) (completed : List Step) :
    Except Halt InstanceStatus → Except Halt Unit
  | .ok _ => .ok ()
  | .error halt => .error (reported step completed halt)

def startEntry (instanceId : String) (steps : List Step) : AuditEntry where
  instanceId := .text instanceId
  event := "reconcile_start"
  details := .fields [("steps", .list (steps.map fun step => .text step.describe))]

def successEntry (step : Step) : AuditEntry where
  instanceId := .text step.instanceId
  event := "reconcile_step_success"
  details := .fields [("step", .text step.describe)]

def failureEntry (step : Step) (fault : Fault) : AuditEntry where
  instanceId := .text step.instanceId
  event := "reconcile_step_failed"
  details := .fields [("step", .text step.describe), ("error", .text fault.text)]
  failed := true

def finishEntry (instanceId : String) (updated : InstanceHandle) : AuditEntry where
  instanceId := .text instanceId
  event := "reconcile_success"
  details := .fields [("status", .text updated.status.word)]

/-- What the audit trail says of a failure that leaves a step.  Only known faults are noticed. -/
def noticed (step : Step) : Halt → List LogRecord
  | .fault fault => if fault.isKnown then [(failureEntry step fault).record] else []
  | .unfinished => []

/-- What the audit trail says of a step. -/
def stepTrail (step : Step) (completed : List Step) :
    Except Halt InstanceStatus → List LogRecord
  | .ok _ => [(successEntry step).record]
  | .error halt => noticed step (reported step completed halt)

/-- What becomes of a failure of a step. -/
def reporting (step : Step) (completed : List Step) : Halt → Run τ ω Unit
  | .fault (.known kind message details cause) => do
      let fault := Fault.known kind message (stepReport step completed details) cause
      Run.audit (failureEntry step fault)
      Run.fail fault
  | halt => throw halt

theorem runReported_eq (service : Service τ ω) (step : Step) (budget : Budget τ)
    (completed : List Step) :
    service.runReported step budget completed = (do
      tryCatch (discard (service.runStep step budget)) (reporting step completed)
      Run.audit (successEntry step)) :=
  rfl

omit [Timescale τ] in
theorem reporting_tells (step : Step) (completed : List Step) (halt : Halt)
    (before : Session τ ω) :
    (reporting step completed halt).Tells inside before fun exchanges audits result =>
      exchanges = [] ∧ audits = noticed step (reported step completed halt) ∧
        result = .error (reported step completed halt) := by
  cases halt with
  | unfinished => exact .halt ⟨rfl, rfl, rfl⟩
  | fault fault =>
      cases fault with
      | known kind message details cause => exact .afterAudit (.fail ⟨rfl, rfl, rfl⟩)
      | _ => exact .halt ⟨rfl, rfl, rfl⟩

theorem runReported_tells (encloses : service.surroundings.Encloses inside)
    (keeps : service.surroundings.Keeps) {step : Step} (sound : step.Sound) (budget : Budget τ)
    (completed : List Step) (before : Session τ ω) :
    (service.runReported step budget completed).Tells inside before
      fun exchanges audits result => ∃ ran, service.StepRun step budget exchanges ran ∧
        audits = stepTrail step completed ran ∧ result = stepEnd step completed ran := by
  have ran : (discard (service.runStep step budget)).Tells inside before
      fun exchanges audits result => audits = [] ∧ ∃ ran,
        service.StepRun step budget exchanges ran ∧ result = ran.map fun _ => ⟨⟩ := by
    refine .discard ((runStep_tells encloses keeps sound budget before).weaken
      fun xs _ result told => ?_)
    exact ⟨told.1, result, told.2, rfl⟩
  -- A step that succeeded is noted only behind the handler of its failures.
  have caught : (tryCatch (discard (service.runStep step budget))
      (reporting step completed)).Tells inside before fun exchanges audits result => ∃ ran,
        service.StepRun step budget exchanges ran ∧ result = stepEnd step completed ran ∧
          audits = if result.isOk then [] else stepTrail step completed ran := by
    refine .catching ran ?_ fun halt after xs rs ended => ?_
    · intro _ xs rs ended
      obtain ⟨rfl, ran, run, same⟩ := ended
      cases ran with
      | error halt => cases same
      | ok status => exact ⟨_, run, rfl, rfl⟩
    · obtain ⟨rfl, ran, run, same⟩ := ended
      cases ran with
      | ok status => cases same
      | error halt =>
          cases same
          refine (reporting_tells step completed halt after).weaken fun _ _ _ told => ?_
          obtain ⟨rfl, rfl, rfl⟩ := told
          rw [List.append_nil]
          exact ⟨_, run, rfl, rfl⟩
  rw [runReported_eq]
  refine .bind caught ?_ ?_
  · intro halt xs rs told
    obtain ⟨ran, run, same, rfl⟩ := told
    exact ⟨ran, run, rfl, same⟩
  · intro _ after xs rs _ told
    obtain ⟨ran, run, same, rfl⟩ := told
    cases ran with
    | error halt => cases same
    | ok status =>
        refine .audit ?_
        rw [List.append_nil]
        exact ⟨_, run, rfl, rfl⟩

/-- What a row of steps asks for, what the audit trail says of it, and its result. -/
inductive StepsRun (service : Service τ ω) : List Step → List (Step × Budget τ) →
    List (Exchange τ) → List LogRecord → Except Halt Unit → Prop where
  | finished (completed : List Step) : StepsRun service completed [] [] [] (.ok ())
  | stopped {step : Step} {budget : Budget τ} {completed : List Step}
      {rest : List (Step × Budget τ)} {exchanges : List (Exchange τ)} {halt : Halt}
      (run : service.StepRun step budget exchanges (.error halt)) :
      StepsRun service completed ((step, budget) :: rest) exchanges
        (noticed step (reported step completed halt)) (.error (reported step completed halt))
  | next {step : Step} {budget : Budget τ} {completed : List Step} {rest : List (Step × Budget τ)}
      {exchanges others : List (Exchange τ)} {trail : List LogRecord} {status : InstanceStatus}
      {result : Except Halt Unit} (run : service.StepRun step budget exchanges (.ok status))
      (goesOn : StepsRun service (completed ++ [step]) rest others trail result) :
      StepsRun service completed ((step, budget) :: rest) (exchanges ++ others)
        ((successEntry step).record :: trail) result

theorem runSteps_tells (encloses : service.surroundings.Encloses inside)
    (keeps : service.surroundings.Keeps) {row : List (Step × Budget τ)}
    (sound : ∀ pair ∈ row, pair.1.Sound) (completed : List Step) (before : Session τ ω) :
    (service.runSteps completed row).Tells inside before fun exchanges audits result =>
      service.StepsRun completed row exchanges audits result := by
  induction row generalizing completed before with
  | nil => exact .pure (.finished completed)
  | cons pair rest ih =>
      obtain ⟨step, budget⟩ := pair
      have soundStep : step.Sound := sound (step, budget) List.mem_cons_self
      refine .bind (runReported_tells encloses keeps soundStep budget completed before) ?_ ?_
      · intro halt xs _ ended
        obtain ⟨ended, run, rfl, same⟩ := ended
        cases ended with
        | error halt =>
            cases same
            exact .stopped run
        | ok status => cases same
      · intro _ after xs _ _ ended
        obtain ⟨ended, run, rfl, same⟩ := ended
        cases ended with
        | error halt => cases same
        | ok status =>
            have soundRest : ∀ pair ∈ rest, pair.1.Sound :=
              fun pair member => sound pair (List.mem_cons_of_mem _ member)
            exact (ih soundRest _ after).weaken fun ys _ result goesOn => .next run goesOn

/-- The row is told together with the instance being free, which its claim decides. -/
theorem claimSteps_tells (encloses : service.surroundings.Encloses inside)
    (keeps : service.surroundings.Keeps) (instanceId : String) {row : List (Step × Budget τ)}
    (sound : ∀ pair ∈ row, pair.1.Sound) (before : Session τ ω) :
    (Run.claiming (.text instanceId) (service.runSteps [] row)).Tells inside before
      fun exchanges audits result =>
        (∃ fault, Unclaimed before.inFlight (.text instanceId) fault ∧ exchanges = [] ∧
          audits = [] ∧ result = .error (.fault fault)) ∨
        (before.inFlight.find? (.text instanceId) = none ∧
          service.StepsRun [] row exchanges audits result) := by
  refine .claiming (fun fault unclaimed => .inl ⟨fault, unclaimed, rfl, rfl, rfl⟩) fun _ free => ?_
  exact (runSteps_tells encloses keeps sound [] _).weaken fun _ _ _ run => .inr ⟨free, run⟩

/-- What the audit trail says of the reading at the end of a reconciliation. -/
def readTrail (instanceId : String) : Except Halt InstanceHandle → List LogRecord
  | .ok updated => [(finishEntry instanceId updated).record]
  | .error _ => []

/-- What steps ask for on an instance that they hold, and the reading behind them, with what the
audit trail says of both. -/
inductive Updating (service : Service τ ω) (instanceId : String) (steps : List Step)
    (budget : Budget τ) :
    List (Exchange τ) → List LogRecord → Except Halt Reconciled → Prop where
  | stopped {exchanges : List (Exchange τ)} {trail : List LogRecord} {halt : Halt}
      (run : service.StepsRun [] (steps.map fun step => (step, budget)) exchanges trail
        (.error halt)) :
      Updating service instanceId steps budget exchanges trail (.error halt)
  | finished {exchanges reads : List (Exchange τ)} {trail : List LogRecord}
      {seen : Except Halt (Option InstanceHandle)}
      (run : service.StepsRun [] (steps.map fun step => (step, budget)) exchanges trail (.ok ()))
      (reading : service.Reading (.text instanceId) reads seen) :
      Updating service instanceId steps budget (exchanges ++ reads)
        (trail ++ readTrail instanceId (existing (.text instanceId) .read seen))
        ((existing (.text instanceId) .read seen).map .updated)

/-- What a reconciliation asks for, what the audit trail says of it, and its result. -/
inductive Reconciling (service : Service τ ω) (table : InFlight τ) (handle : InstanceHandle)
    (spec : DesiredSpec) (timeout : Option τ) :
    List (Exchange τ) → List LogRecord → Except Halt Reconciled → Prop where
  | unplanned {fault : Fault} (refused : Plan.steps handle spec = .error fault) :
      Reconciling service table handle spec timeout [] [] (.error (.fault fault))
  | unchanged (plan : Plan.steps handle spec = .ok []) :
      Reconciling service table handle spec timeout [] [] (.ok (.unchanged handle))
  | unaccepted {steps : List Step} {fault : Fault} (plan : Plan.steps handle spec = .ok steps)
      (changes : steps ≠ [])
      (unaccepted : Budget.make (timeout.getD service.timeouts.update)
        service.timeouts.interval = .error fault) :
      Reconciling service table handle spec timeout [] [] (.error (.fault fault))
  | unclaimed {steps : List Step} {budget : Budget τ} {fault : Fault}
      (plan : Plan.steps handle spec = .ok steps) (changes : steps ≠ [])
      (accepted : Budget.make (timeout.getD service.timeouts.update)
        service.timeouts.interval = .ok budget)
      (unclaimed : Unclaimed table (.text handle.instanceId) fault) :
      Reconciling service table handle spec timeout []
        [(startEntry handle.instanceId steps).record] (.error (.fault fault))
  | claimed {steps : List Step} {budget : Budget τ} {exchanges : List (Exchange τ)}
      {trail : List LogRecord} {result : Except Halt Reconciled}
      (plan : Plan.steps handle spec = .ok steps) (changes : steps ≠ [])
      (accepted : Budget.make (timeout.getD service.timeouts.update)
        service.timeouts.interval = .ok budget)
      (free : table.find? (.text handle.instanceId) = none)
      (updating : service.Updating handle.instanceId steps budget exchanges trail result) :
      Reconciling service table handle spec timeout exchanges
        ((startEntry handle.instanceId steps).record :: trail) result

/-- A plan that is let in runs. -/
theorem Reconciling.updating {table : InFlight τ} {handle : InstanceHandle} {spec : DesiredSpec}
    {timeout : Option τ} {steps : List Step} {budget : Budget τ} {exchanges : List (Exchange τ)}
    {audits : List LogRecord} {result : Except Halt Reconciled}
    (reconciling : service.Reconciling table handle spec timeout exchanges audits result)
    (plan : Plan.steps handle spec = .ok steps) (changes : steps ≠ [])
    (accepted : Budget.make (timeout.getD service.timeouts.update) service.timeouts.interval =
      .ok budget)
    (free : table.find? (.text handle.instanceId) = none) :
    ∃ trail, audits = (startEntry handle.instanceId steps).record :: trail ∧
      service.Updating handle.instanceId steps budget exchanges trail result := by
  cases reconciling with
  | unplanned refused =>
      rw [plan] at refused
      cases refused
  | unchanged unchanged =>
      rw [plan] at unchanged
      cases unchanged
      exact absurd rfl changes
  | unaccepted _ _ unaccepted =>
      rw [accepted] at unaccepted
      cases unaccepted
  | unclaimed _ _ _ unclaimed => exact absurd unclaimed (Unclaimed.not_of_free rfl free _)
  | claimed samePlan _ sameBudget _ updating =>
      rw [plan] at samePlan
      rw [accepted] at sameBudget
      cases samePlan
      cases sameBudget
      exact ⟨_, rfl, updating⟩

theorem reconcile_tells (encloses : service.surroundings.Encloses inside)
    (keeps : service.surroundings.Keeps) (handle : InstanceHandle) (spec : DesiredSpec)
    (timeout : Option τ) (before : Session τ ω) :
    (service.reconcile handle spec timeout).Tells inside before fun exchanges audits result =>
      service.Reconciling before.inFlight handle spec timeout exchanges audits result := by
  unfold reconcile
  refine .afterExcept (fun fault refused => .unplanned refused) fun steps plan => ?_
  by_cases changes : steps = []
  · subst changes
    refine .afterQuiet (Run.log_quiet LogChannel.noConfusion) fun _ _ _ _ => ?_
    exact .pure (.unchanged plan)
  · have sound : ∀ step ∈ steps, step.Sound := fun step member =>
      (Plan.steps_sound plan step member).2
    simp only [List.isEmpty_iff, changes, if_false]
    cases accepted : Budget.make (timeout.getD service.timeouts.update)
        service.timeouts.interval with
    | error fault =>
        rw [budgets_error accepted changes sound]
        refine .afterExcept (fun _ same => ?_) nofun
        cases same
        exact .unaccepted plan changes accepted
    | ok budget =>
        rw [budgets_ok accepted sound]
        refine .afterExcept nofun fun _ same => ?_
        cases same
        have rowSound : ∀ pair ∈ steps.map fun step => (step, budget), pair.1.Sound := by
          intro pair member
          obtain ⟨step, listed, rfl⟩ := List.mem_map.mp member
          exact sound step listed
        have claimed := fun session =>
          claimSteps_tells encloses keeps handle.instanceId rowSound session
        refine .afterAudit (.bind (claimed _) (fun reason xs rs told => ?_)
          fun _ after xs rs _ told => ?_)
        · rcases told with ⟨fault, unclaimed, rfl, rfl, same⟩ | ⟨free, run⟩
          · cases same
            exact .unclaimed plan changes accepted unclaimed
          · exact .claimed plan changes accepted free (.stopped run)
        · rcases told with ⟨fault, _, _, _, same⟩ | ⟨free, run⟩
          · cases same
          · refine .bind (readExisting_tells encloses _ .read after) ?_ ?_
            · intro reason ys _ told
              obtain ⟨rfl, seen, reading, same⟩ := told
              have ended := Updating.finished run reading
              rw [← same] at ended
              exact .claimed plan changes accepted free ended
            · intro updated _ ys _ _ told
              obtain ⟨rfl, seen, reading, same⟩ := told
              have ended := Updating.finished run reading
              rw [← same] at ended
              refine .afterAudit (.pure ?_)
              rw [List.append_nil ys]
              exact .claimed plan changes accepted free ended

end Service

/-! ### A sample -/

namespace Sample

def pair : InstanceHandle :=
  ⟨"scs-1", "before", .running, .masterSlave "small", some "small", none, none, none, none, none,
    none, none, none, [], none, [], none, [], none, none⟩

def grown : DesiredSpec :=
  ⟨"after", "large", .masterSlave, 1, .v3_2, 6379, 0, 2, 1, none, [], {}, none, none⟩

/-- The next answer of a script, and an empty one after its end. -/
def nextAnswer : StateM (List (Except Fault Value)) (Except Fault Value) :=
  modifyGet fun answers => (answers.headD (.ok .null), answers.tail)

def scripted : Service Rat (List (Except Fault Value)) where
  surroundings := .ofAnswers (fun _ => nextAnswer) (pure 0) (fun _ answers => answers) toString
  timeouts := ⟨1200, 1800, 1200, 60, 10⟩
  horizon := 100

theorem scripted_solitary : scripted.surroundings.Solitary :=
  Surroundings.ofAnswers_solitary (fun _ => nextAnswer) (pure 0) (fun _ answers => answers) toString

def runningDetail (name nodeType : String) : Value :=
  .fields [("instanceStatus", .text "Running"), ("instanceName", .text name),
    ("nodeType", .text nodeType)]

def mistypedDetail : Value :=
  .fields [("instanceStatus", .text "Running"), ("clusterType", .text "sharded")]

end Sample

end CacheSteward
