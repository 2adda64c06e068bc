import CacheSteward.Proofs.CallOrder
import CacheSteward.Proofs.Exclusion
import CacheSteward.Proofs.Issuing

namespace CacheSteward

/-! That client tokens tell operations apart.

The control plane takes two calls with one token for one request.  So all attempts of an operation
carry the token that it drew, no call of another operation does, and meanwhile the same token is
shown as pending.
-/

variable {τ ω : Type}

/-- A call that carries no token. -/
def Exchange.Bare (exchange : Exchange τ) : Prop := exchange.call.clientToken? = none

/-- At the call an operation is pending under a token. -/
def Exchange.PendingUnder (clientToken : String) (exchange : Exchange τ) : Prop :=
  ∃ pending, exchange.pending = some pending ∧ pending.clientToken = clientToken

section Carrying

variable [Timescale τ]

/-- The calls of an operation under its token.  Those that carry it are attempts at one request, the
polls behind them find the operation pending under it, and no other call carries a token. -/
inductive Carries (horizon : Nat) (clientToken : String) :
    Operation τ → List (Exchange τ) → Prop where
  | bare {operation : Operation τ} {exchanges : List (Exchange τ)}
      (bare : ∀ exchange ∈ exchanges, exchange.Bare) :
      Carries horizon clientToken operation exchanges
  /-- No instance was obtained, or one that is not waited for. -/
  | requested {spec : DesiredSpec} {timeout : Option τ} {tries : List (Exchange τ)}
      {outcome : Except Fault Value}
      (tried : Attempts (.createInstance spec.createArgs clientToken) .create tries outcome) :
      Carries horizon clientToken (.create spec timeout) tries
  | created {spec : DesiredSpec} {timeout : Option τ} {tries polls reads : List (Exchange τ)}
      {instanceId : Value} {budget : Budget τ} {rest : τ} {result : Except Halt InstanceStatus}
      (tried : Attempts (.createInstance spec.createArgs clientToken) .create tries
        (.ok instanceId))
      (waited : (Service.createdWait instanceId budget rest).Polls horizon polls result)
      (pending : ∀ poll ∈ polls, poll.PendingUnder clientToken)
      (details : ∀ read ∈ reads, read.call = .getInstanceDetail instanceId)
      (ready : reads ≠ [] → result.isOk = true) :
      Carries horizon clientToken (.create spec timeout) (tries ++ (polls ++ reads))
  /-- The rename comes first, and what follows it are resizes and reads. -/
  | renamed {handle : InstanceHandle} {spec : DesiredSpec} {timeout : Option τ}
      {exchanges others : List (Exchange τ)} {budget : Budget τ}
      {result : Except Halt InstanceStatus}
      (mutation : Mutation (Service.stepAction (Plan.renameStep handle spec) budget clientToken)
        (.updateInstanceName (.text handle.instanceId) (.text spec.instanceName) clientToken)
        (fun polls result => ∃ rest, (Service.appliedWait (Plan.renameStep handle spec)
          ⟨"instanceName", .text spec.instanceName⟩ budget rest).Polls horizon polls result)
        exchanges result)
      (pending : ∀ exchange ∈ exchanges, exchange.PendingUnder clientToken)
      (bare : ∀ other ∈ others, other.Bare) (goesOn : others ≠ [] → result.isOk = true) :
      Carries horizon clientToken (.reconcile handle spec timeout) (exchanges ++ others)
  | deleted {instanceId : Value} {timeout : Option τ} {exchanges : List (Exchange τ)}
      {budget : Budget τ} {result : Except Halt InstanceStatus}
      (mutation : Mutation (Service.deleteAction instanceId budget clientToken)
        (.deleteInstance instanceId clientToken)
        (fun polls result =>
          ∃ rest, (Service.goneWait instanceId budget rest).Polls horizon polls result)
        exchanges result)
      (pending : ∀ exchange ∈ exchanges, exchange.PendingUnder clientToken) :
      Carries horizon clientToken (.delete instanceId timeout) exchanges

theorem Service.clientToken_of_pendingOperation {kind : OperationKind} {instanceId : Value}
    {clientToken : String} {budget : Budget τ} {pending : PendingOperation τ}
    (shown : pendingOperation kind instanceId clientToken budget = .ok pending) :
    pending.clientToken = clientToken := by
  obtain ⟨timeout, _, rfl⟩ := Fault.ok_of_map shown
  rfl

/-- Around a call without a token there is none. -/
theorem Mutation.bare {action : Action τ} {call : RemoteCall} {wait : τ → Wait τ}
    {horizon : Nat} {exchanges : List (Exchange τ)} {result : Except Halt InstanceStatus}
    (mutation : Mutation action call
      (fun polls result => ∃ rest, (wait rest).Polls horizon polls result) exchanges result)
    (bare : call.clientToken? = none) : ∀ exchange ∈ exchanges, exchange.Bare := by
  intro exchange member
  rw [Exchange.Bare]
  rcases mutation.calls exchange member with called | ⟨_, called⟩
  · rw [called]
    exact bare
  · rw [called]
    rfl

end Carrying

namespace Sample

/-- Numbers can be read back from their digits. -/
theorem toString_injective : Function.Injective (toString : Nat → String) := by
  intro n m same
  have reread := congrArg (fun digits : String => Nat.ofDigitChars 10 digits.toList 0) same
  simpa using reread

/-- A creation loses the connection of its first call, inside of which another instance is to be
deleted, and asks once more.  Then an instance is to be renamed. -/
def interleaved : Conduct Rat (List (Except Fault Value)) :=
  let refuse := fun (session : Session Rat (List (Except Fault Value))) =>
    Conduct.answer (.error (.plain .value [])) session.world
  let lose := fun (session : Session Rat (List (Except Fault Value))) =>
    Conduct.answer (.error (.plain .connection [])) session.world
  .start (.create grown none)
    (fun _ session =>
      if session.drawn = 1 then
        .start (.delete (.text "scs-2") none) (fun _ => refuse) fun _ => lose
      else refuse session)
    fun _ _ => .start (.reconcile pair grown none) (fun _ => refuse) fun _ => refuse

end Sample

namespace Service

variable [Timescale τ] {service : Service τ ω} {table : InFlight τ} {clientToken : String}
  {exchanges : List (Exchange τ)}

/-- No call carries another token. -/
def Signed (clientToken : String) (exchanges : List (Exchange τ)) : Prop :=
  ∀ exchange ∈ exchanges, ∀ carried, exchange.call.clientToken? = some carried →
    carried = clientToken

theorem Reading.bare {instanceId : Value} {seen : Except Halt (Option InstanceHandle)}
    (reading : service.Reading instanceId exchanges seen) :
    ∀ exchange ∈ exchanges, exchange.Bare := by
  intro exchange member
  rw [Exchange.Bare, reading.calls exchange member]
  rfl

/-! ### Creating and deleting -/

theorem Creating.carries {spec : DesiredSpec} {timeout : Option τ}
    {created : Except Halt InstanceHandle}
    (creating : service.Creating table spec timeout exchanges created)
    (signed : Signed clientToken exchanges) :
    Carries service.horizon clientToken (.create spec timeout) exchanges := by
  -- The token of the attempts is the one that is allowed.
  have same : ∀ {drawn : Nat} {tries : List (Exchange τ)} {outcome : Except Fault Value},
      Attempts (.createInstance spec.createArgs (service.surroundings.token drawn)) .create tries
        outcome → Signed clientToken tries → service.surroundings.token drawn = clientToken := by
    intro drawn tries outcome tried signed
    obtain ⟨last, atEnd, called, _⟩ := tried.getLast?
    apply signed last (List.mem_of_getLast? atEnd)
    rw [called]
    rfl
  cases creating with
  | unaccepted unaccepted => exact .bare (List.forall_mem_nil _)
  | refused accepted tried ended =>
      rw [same tried signed] at tried
      exact .requested tried
  | nameless accepted tried blank =>
      rw [same tried signed] at tried
      exact .requested tried
  | @obtained budget drawn tries others instanceId result accepted tried given goesOn =>
      have signedTries : Signed clientToken tries := fun exchange member =>
        signed exchange (List.mem_append_left _ member)
      have token := same tried signedTries
      rw [token] at tried goesOn
      cases goesOn with
      | unclaimed unclaimed =>
          rw [List.append_nil]
          exact .requested tried
      | unsettled free failed =>
          rw [List.append_nil]
          exact .requested tried
      | unready free shown waited announced =>
          rw [← List.append_nil others]
          refine .created tried waited ?_ (List.forall_mem_nil _) (absurd rfl)
          intro poll member
          exact ⟨_, announced.poll_pending waited rfl poll member,
            clientToken_of_pendingOperation shown⟩
      | ready free shown waited announced reading =>
          refine .created tried waited ?_ reading.calls fun _ => rfl
          intro poll member
          exact ⟨_, announced.poll_pending waited rfl poll member,
            clientToken_of_pendingOperation shown⟩

theorem Deleting.carries {instanceId : Value} {timeout : Option τ}
    {status : Except Halt InstanceStatus}
    (deleting : service.Deleting table instanceId timeout exchanges status)
    (signed : Signed clientToken exchanges) :
    Carries service.horizon clientToken (.delete instanceId timeout) exchanges := by
  cases deleting with
  | unaccepted unaccepted => exact .bare (List.forall_mem_nil _)
  | unclaimed accepted unclaimed => exact .bare (List.forall_mem_nil _)
  | unsettled accepted free failed => exact .bare (List.forall_mem_nil _)
  | @mutated budget drawn pending _ _ accepted free shown mutation announced =>
      have token : service.surroundings.token drawn = clientToken := by
        obtain ⟨exchange, member, called⟩ := mutation.called
        apply signed exchange member
        rw [called]
        rfl
      have pendings := announced.pending_eq mutation rfl fun _ => rfl
      rw [token] at mutation shown
      apply Carries.deleted mutation
      intro exchange member
      exact ⟨pending, pendings exchange member, clientToken_of_pendingOperation shown⟩

/-! ### Updating -/

/-- A resize carries no token. -/
theorem StepRun.bare {step : Step} {budget : Budget τ} {result : Except Halt InstanceStatus}
    (run : service.StepRun step budget exchanges result) (resizes : step.kind ≠ .rename) :
    ∀ exchange ∈ exchanges, exchange.Bare := by
  cases run with
  | unsettled failed => exact List.forall_mem_nil _
  | mutated intent shown mutation announced =>
      cases intent with
      | rename instanceId name => exact absurd rfl resizes
      | resizeNodeType instanceId nodeType => exact mutation.bare rfl
      | resizeShardNum instanceId shardNum => exact mutation.bare rfl

theorem StepsRun.bare {completed : List Step} {row : List (Step × Budget τ)}
    {trail : List LogRecord} {result : Except Halt Unit}
    (run : service.StepsRun completed row exchanges trail result)
    (resizes : ∀ pair ∈ row, pair.1.kind ≠ .rename) : ∀ exchange ∈ exchanges, exchange.Bare := by
  induction run with
  | finished completed => exact List.forall_mem_nil _
  | stopped run => exact run.bare (resizes _ List.mem_cons_self)
  | next run goesOn ih =>
      have first := run.bare (resizes _ List.mem_cons_self)
      have rest := ih fun pair member => resizes pair (List.mem_cons_of_mem _ member)
      exact List.forall_mem_append.mpr ⟨first, rest⟩

/-- The rename of a plan, and what follows it without a token. -/
theorem StepRun.carries {handle : InstanceHandle} {spec : DesiredSpec} {timeout : Option τ}
    {budget : Budget τ} {result : Except Halt InstanceStatus} {others : List (Exchange τ)}
    (run : service.StepRun (Plan.renameStep handle spec) budget exchanges result)
    (bare : ∀ other ∈ others, other.Bare) (goesOn : others ≠ [] → result.isOk = true)
    (signed : Signed clientToken (exchanges ++ others)) :
    Carries service.horizon clientToken (.reconcile handle spec timeout)
      (exchanges ++ others) := by
  cases run with
  | unsettled failed => exact .bare bare
  | @mutated drawn call check pending _ _ intent shown mutation announced =>
      cases intent with
      | rename instanceId name =>
          have token : service.surroundings.token drawn = clientToken := by
            obtain ⟨exchange, member, called⟩ := mutation.called
            apply signed exchange (List.mem_append_left _ member)
            rw [called]
            rfl
          have pendings := announced.pending_eq mutation rfl fun _ => rfl
          rw [token] at mutation shown
          apply Carries.renamed mutation _ bare goesOn
          intro exchange member
          exact ⟨pending, pendings exchange member, clientToken_of_pendingOperation shown⟩

/-- The rename comes first, so that nothing behind it carries a token. -/
theorem StepsRun.carries {handle : InstanceHandle} {spec : DesiredSpec} {timeout : Option τ}
    {budget : Budget τ} {rest : List (Step × Budget τ)} {completed : List Step}
    {trail : List LogRecord} {result : Except Halt Unit} {reads : List (Exchange τ)}
    (run : service.StepsRun completed ((Plan.renameStep handle spec, budget) :: rest) exchanges
      trail result)
    (resizes : ∀ pair ∈ rest, pair.1.kind ≠ .rename) (bare : ∀ read ∈ reads, read.Bare)
    (finished : reads ≠ [] → result.isOk = true)
    (signed : Signed clientToken (exchanges ++ reads)) :
    Carries service.horizon clientToken (.reconcile handle spec timeout)
      (exchanges ++ reads) := by
  cases run with
  | stopped run => exact run.carries bare finished signed
  | next run goesOn =>
      rw [List.append_assoc] at signed ⊢
      have others := List.forall_mem_append.mpr ⟨goesOn.bare resizes, bare⟩
      exact run.carries others (fun _ => rfl) signed

theorem Updating.carries {handle : InstanceHandle} {spec : DesiredSpec} {timeout : Option τ}
    {steps : List Step} {budget : Budget τ} {trail : List LogRecord}
    {reconciled : Except Halt Reconciled} (plan : Plan.steps handle spec = .ok steps)
    (updating : service.Updating handle.instanceId steps budget exchanges trail reconciled)
    (signed : Signed clientToken exchanges) :
    Carries service.horizon clientToken (.reconcile handle spec timeout) exchanges := by
  have row : ∀ {steps : List Step}, (∀ step ∈ steps, step.kind ≠ .rename) →
      ∀ pair ∈ steps.map fun step => (step, budget), pair.1.kind ≠ .rename := by
    intro steps resizes pair member
    obtain ⟨step, listed, rfl⟩ := List.mem_map.mp member
    exact resizes step listed
  rcases Plan.steps_cases plan with resizes | ⟨rest, rfl, resizes⟩
  · apply Carries.bare
    cases updating with
    | stopped run => exact run.bare (row resizes)
    | finished run reading =>
        exact List.forall_mem_append.mpr ⟨run.bare (row resizes), reading.bare⟩
  · cases updating with
    | stopped run =>
        rw [← List.append_nil exchanges] at signed ⊢
        exact run.carries (row resizes) (List.forall_mem_nil _) (absurd rfl) signed
    | finished run reading =>
        exact run.carries (row resizes) reading.bare (fun _ => rfl) signed

theorem Operating.carries {operation : Operation τ} {result : Except Halt Unit}
    (operating : service.Operating table operation exchanges result)
    (signed : Signed clientToken exchanges) :
    Carries service.horizon clientToken operation exchanges := by
  cases operating with
  | create creating => exact creating.carries signed
  | read reading => exact .bare reading.bare
  | adopt reading => exact .bare reading.bare
  | reconcile reconciling =>
      cases reconciling with
      | unplanned | unchanged | unaccepted | unclaimed => exact .bare (List.forall_mem_nil _)
      | claimed plan changes accepted free updating => exact updating.carries plan signed
  | delete deleting => exact deleting.carries signed

/-! ### Runs -/

/-- An operation of a run uses the token that it draws, and no other. -/
theorem Performs.carries {operated : Operated τ} (performed : service.Performs operated) :
    ∃ exchanges audits, Told Undisturbed operated.events exchanges audits ∧
      operated.calls = exchanges.map Exchange.call ∧
      Signed (service.surroundings.token operated.drawn) exchanges ∧
      Carries service.horizon (service.surroundings.token operated.drawn) operated.operation
        exchanges := by
  obtain ⟨conduct, before, drawn, extended⟩ := performed
  have keeps := service.within_keeps conduct
  obtain ⟨added, exchanges, audits, grown, told, operating⟩ :=
    operate_tells keeps.encloses keeps operated.operation before
  obtain rfl : added = operated.events := List.append_cancel_left (grown.symm.trans extended)
  have opened := operate_opens (service.within_accounts conduct) operated.operation before
  obtain ⟨same, _, grownToo, _, permitted, _⟩ := opened.numbered operated.operation
  obtain rfl : same = operated.events := List.append_cancel_left (grownToo.symm.trans extended)
  have calls : operated.calls = exchanges.map Exchange.call := by
    simp only [Operated.calls, Place.calls, told.ownCalls, List.map_map]
    rfl
  have signed : Signed (service.surroundings.token operated.drawn) exchanges := by
    intro exchange member carried carries
    have own : exchange.call ∈ operated.calls := by
      rw [calls]
      exact List.mem_map_of_mem member
    rw [drawn]
    exact permitted exchange.call own carried carries
  exact ⟨exchanges, audits, told, calls, signed, operating.carries signed⟩

/-- The operations of a history, and how client tokens tell their calls apart. -/
structure Attributed (service : Service τ ω) (events : List (Event τ))
    (row : List (Operated τ)) : Prop where
  ledger : Ledger service.Performs .between events row
  /-- Every call belongs to one of the operations. -/
  calls : (callsOf events).Perm (row.flatMap Operated.calls)
  carries : ∀ operated ∈ row, ∃ exchanges audits,
    Told Undisturbed operated.events exchanges audits ∧
    operated.calls = exchanges.map Exchange.call ∧
    Carries service.horizon (service.surroundings.token operated.drawn) operated.operation
      exchanges
  /-- Two calls carry the same token exactly when they are calls of the same operation. -/
  same_token_iff : ∀ i j, ∀ (inRow : i < row.length) (otherInRow : j < row.length),
    ∀ call ∈ row[i].calls, ∀ other ∈ row[j].calls, ∀ clientToken otherToken,
    call.clientToken? = some clientToken → other.clientToken? = some otherToken →
    (clientToken = otherToken ↔ i = j)

/-- When tokens do not repeat, each operation has its own, whatever runs inside of its calls. -/
theorem tokens_tell_operations_apart (service : Service τ ω)
    (fresh : Function.Injective service.surroundings.token) (conduct : Conduct τ ω)
    (before : Session τ ω) :
    ∃ added row, (conduct.run service before).2.events = before.events ++ added ∧
      service.Attributed added row := by
  obtain ⟨added, row, extended, ledger, _, numbered⟩ := conduct.accounted service before
  have carries : ∀ operated ∈ row, ∃ exchanges audits,
      Told Undisturbed operated.events exchanges audits ∧
      operated.calls = exchanges.map Exchange.call ∧
      Signed (service.surroundings.token operated.drawn) exchanges ∧
      Carries service.horizon (service.surroundings.token operated.drawn) operated.operation
        exchanges :=
    fun operated member => (ledger.genuine_of_mem operated member).carries
  have drawn : ∀ operated ∈ row, ∀ call ∈ operated.calls, ∀ clientToken,
      call.clientToken? = some clientToken →
      clientToken = service.surroundings.token operated.drawn := by
    intro operated member call own clientToken carried
    obtain ⟨exchanges, _, _, calls, signed, _⟩ := carries operated member
    rw [calls] at own
    obtain ⟨exchange, listed, rfl⟩ := List.mem_map.mp own
    exact signed exchange listed clientToken carried
  refine ⟨added, row, extended, ledger, ledger.calls_perm, ?_, ?_⟩
  · intro operated member
    obtain ⟨exchanges, audits, told, calls, _, carried⟩ := carries operated member
    exact ⟨exchanges, audits, told, calls, carried⟩
  · intro i j inRow otherInRow call own other otherOwn clientToken otherToken carried otherCarried
    have token := drawn row[i] (List.getElem_mem inRow) call own clientToken carried
    have otherDrawn := drawn row[j] (List.getElem_mem otherInRow) other otherOwn otherToken
      otherCarried
    have stamped : row[i].Stamped := ⟨call, own, clientToken, carried⟩
    have otherStamped : row[j].Stamped := ⟨other, otherOwn, otherToken, otherCarried⟩
    calc clientToken = otherToken
        ↔ service.surroundings.token row[i].drawn = service.surroundings.token row[j].drawn := by
          rw [token, otherDrawn]
      _ ↔ row[i].drawn = row[j].drawn := ⟨fun same => fresh same, congrArg _⟩
      _ ↔ i = j := numbered.index_eq_iff inRow otherInRow stamped otherStamped

/-- Both attempts of the creation carry its token, also the one behind the deletion. -/
theorem tokens_tell_operations_apart_interleaved :
    let after := (Sample.interleaved.run Sample.scripted ⟨[], [], 0, []⟩).2
    (callsOf after.events).map (fun call => (call.method, call.clientToken?)) =
        [(.createInstance, some "0"), (.deleteInstance, some "1"), (.createInstance, some "0"),
          (.updateInstanceName, some "2")] ∧
      Function.Injective Sample.scripted.surroundings.token ∧
      ∃ added row, after.events = added ∧ Sample.scripted.Attributed added row := by
  have fresh : Function.Injective Sample.scripted.surroundings.token := Sample.toString_injective
  refine ⟨by decide +kernel, fresh, ?_⟩
  exact tokens_tell_operations_apart Sample.scripted fresh Sample.interleaved ⟨[], [], 0, []⟩

end Service

end CacheSteward
