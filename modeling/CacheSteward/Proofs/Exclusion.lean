import CacheSteward.Proofs.CallOrder
import CacheSteward.Proofs.Conduct

namespace CacheSteward

/-! Mutual exclusion of operations by the table of held instances.

Whatever runs inside of the calls of an operation, the operation leaves the table as it was, every
one of its calls finds the operation pending, and a second operation on its instance is refused.
-/

variable {τ ω : Type} [Timescale τ]

namespace Service

/-- Operations that hold an instance from the start, with the budget they run on. -/
inductive Claims (service : Service τ ω) : Operation τ → Value → Budget τ → Prop where
  | reconcile {handle : InstanceHandle} {spec : DesiredSpec} {timeout : Option τ}
      {steps : List Step} {budget : Budget τ} (plan : Plan.steps handle spec = .ok steps)
      (changes : steps ≠ [])
      (accepted : Budget.make (timeout.getD service.timeouts.update) service.timeouts.interval =
        .ok budget) :
      Claims service (.reconcile handle spec timeout) (.text handle.instanceId) budget
  | delete {instanceId : Value} {timeout : Option τ} {budget : Budget τ}
      (accepted : service.timeouts.budget .delete timeout = .ok budget) :
      Claims service (.delete instanceId timeout) instanceId budget

/-- Operations that are let through to their first call.  Of the table only the entry of the own
instance counts, and that only when the instance is claimed from the start. -/
inductive Admitted (service : Service τ ω) (table : InFlight τ) : Operation τ → Prop where
  | create {spec : DesiredSpec} {timeout : Option τ} {budget : Budget τ}
      (accepted : service.timeouts.budget .create timeout = .ok budget) :
      Admitted service table (.create spec timeout)
  | read {instanceId : Value} {budget : Budget τ}
      (accepted : service.timeouts.budget .read none = .ok budget) :
      Admitted service table (.read instanceId)
  | adopt {instanceId : Value} {budget : Budget τ}
      (accepted : service.timeouts.budget .read none = .ok budget) :
      Admitted service table (.adopt instanceId)
  | claimed {operation : Operation τ} {instanceId : Value} {budget : Budget τ} {settled : τ}
      (claims : service.Claims operation instanceId budget) (keyed : instanceId.isKey)
      (free : table.find? instanceId = none)
      (kept : Timescale.settled budget.timeout = .ok settled) : Admitted service table operation

/-- What the calls of an operation find pending.  The calls of a mutation find its operation, and
so do the polls of a creation once its instance is known. -/
inductive Shown (service : Service τ ω) (table : InFlight τ) :
    Operation τ → List (Exchange τ) → Prop where
  | silent (operation : Operation τ) : Shown service table operation []
  | read {instanceId : Value} {exchanges : List (Exchange τ)}
      (reads : service.ReadBack instanceId exchanges) :
      Shown service table (.read instanceId) exchanges
  | adopt {instanceId : Value} {exchanges : List (Exchange τ)}
      (reads : service.ReadBack instanceId exchanges) :
      Shown service table (.adopt instanceId) exchanges
  | reconcile {handle : InstanceHandle} {spec : DesiredSpec} {timeout : Option τ}
      {steps : List Step} {budget : Budget τ} {exchanges : List (Exchange τ)}
      (plan : Plan.steps handle spec = .ok steps)
      (accepted : Budget.make (timeout.getD service.timeouts.update) service.timeouts.interval =
        .ok budget)
      (blocks : Blocks (service.Announces budget) (service.ReadBack (.text handle.instanceId))
        steps exchanges) :
      Shown service table (.reconcile handle spec timeout) exchanges
  | delete {instanceId : Value} {timeout : Option τ} {budget : Budget τ} {drawn : Nat}
      {pending : PendingOperation τ} {exchanges : List (Exchange τ)}
      (accepted : service.timeouts.budget .delete timeout = .ok budget)
      (shown : pendingOperation .delete instanceId (service.surroundings.token drawn) budget =
        .ok pending)
      (calls : ∀ exchange ∈ exchanges,
        (exchange.call = .deleteInstance instanceId (service.surroundings.token drawn) ∨
          exchange.call = .getInstanceDetail instanceId) ∧ exchange.pending = some pending) :
      Shown service table (.delete instanceId timeout) exchanges
  /-- No instance was obtained, or one that cannot be held. -/
  | requested {spec : DesiredSpec} {timeout : Option τ} {budget : Budget τ} {drawn : Nat}
      {tries : List (Exchange τ)} {outcome : Except Fault Value}
      (accepted : service.timeouts.budget .create timeout = .ok budget)
      (tried : Attempts (.createInstance spec.createArgs (service.surroundings.token drawn))
        .create tries outcome)
      (unheld : ∀ instanceId, outcome = .ok instanceId → instanceId.isGiven = true →
        (∃ fault, Unclaimed table instanceId fault) ∨
          ∃ fault, Timescale.settled budget.timeout = .error fault) :
      Shown service table (.create spec timeout) tries
  | created {spec : DesiredSpec} {timeout : Option τ} {budget : Budget τ} {drawn : Nat}
      {tries polls reads : List (Exchange τ)} {instanceId : Value} {pending : PendingOperation τ}
      {rest : τ} {result : Except Halt InstanceStatus}
      (accepted : service.timeouts.budget .create timeout = .ok budget)
      (tried : Attempts (.createInstance spec.createArgs (service.surroundings.token drawn))
        .create tries (.ok instanceId)) (free : table.find? instanceId = none)
      (shown : pendingOperation .create instanceId (service.surroundings.token drawn) budget =
        .ok pending)
      (waited : (createdWait instanceId budget rest).Polls service.horizon polls result)
      (announced : ∀ poll ∈ polls, poll.pending = some pending)
      (read : reads = [] ∨ result.isOk = true ∧ service.ReadBack instanceId reads) :
      Shown service table (.create spec timeout) (tries ++ polls ++ reads)

/-- How an operation and the table of held instances are kept apart. -/
structure Guarded (service : Service τ ω) (table : InFlight τ) (operation : Operation τ)
    (exchanges : List (Exchange τ)) (result : Except Halt Unit) : Prop where
  shown : service.Shown table operation exchanges
  refused : ∀ instanceId budget held, service.Claims operation instanceId budget →
    instanceId.isKey → table.find? instanceId = some held →
    exchanges = [] ∧ result = .error (.fault (.operationInProgress instanceId
      (held.pending.map fun pending => pending.kind.word)))
  admitted : service.Admitted table operation → exchanges ≠ []

variable {service : Service τ ω} {table : InFlight τ} {operation : Operation τ}
  {instanceId : Value} {budget : Budget τ} {exchanges : List (Exchange τ)}
  {result : Except Halt Unit}

/-- An operation claims one instance, on one budget. -/
theorem Claims.unique {other : Value} {otherBudget : Budget τ}
    (claims : service.Claims operation instanceId budget)
    (again : service.Claims operation other otherBudget) :
    other = instanceId ∧ otherBudget = budget := by
  cases claims with
  | reconcile _ _ accepted =>
      cases again with
      | reconcile _ _ acceptedAgain =>
          rw [accepted] at acceptedAgain
          cases acceptedAgain
          exact ⟨rfl, rfl⟩
  | delete accepted =>
      cases again with
      | delete acceptedAgain =>
          rw [accepted] at acceptedAgain
          cases acceptedAgain
          exact ⟨rfl, rfl⟩

theorem Claims.of_admitted (claims : service.Claims operation instanceId budget)
    (admitted : service.Admitted table operation) :
    instanceId.isKey = true ∧ table.find? instanceId = none ∧
      ∃ settled, Timescale.settled budget.timeout = .ok settled := by
  cases admitted with
  | create | read | adopt => cases claims
  | claimed again keyed free kept =>
      obtain ⟨rfl, rfl⟩ := claims.unique again
      exact ⟨keyed, free, _, kept⟩

namespace Guarded

/-- Without a claim there is nothing to be refused or admitted. -/
theorem of_idle (idle : ∀ instanceId budget, ¬ service.Claims operation instanceId budget)
    (unadmitted : ¬ service.Admitted table operation) :
    service.Guarded table operation [] result where
  shown := .silent operation
  refused instanceId budget _ claims := absurd claims (idle instanceId budget)
  admitted admitted := absurd admitted unadmitted

theorem of_unclaimed (claims : service.Claims operation instanceId budget) {fault : Fault}
    (unclaimed : Unclaimed table instanceId fault) :
    service.Guarded table operation [] (.error (.fault fault)) where
  shown := .silent operation
  refused other _ held again keyed taken := by
    obtain ⟨rfl, _⟩ := claims.unique again
    refine ⟨rfl, ?_⟩
    cases unclaimed with
    | unkeyed unkeyed =>
        rw [keyed] at unkeyed
        cases unkeyed
    | taken _ found =>
        rw [taken] at found
        cases found
        rfl
  admitted admitted := by
    obtain ⟨keyed, free, _⟩ := claims.of_admitted admitted
    exact absurd unclaimed (Unclaimed.not_of_free keyed free _)

theorem of_unsettled (claims : service.Claims operation instanceId budget)
    (free : table.find? instanceId = none) {fault : Fault}
    (failed : Timescale.settled budget.timeout = .error fault) :
    service.Guarded table operation [] result where
  shown := .silent operation
  refused other _ held again _ taken := by
    obtain ⟨rfl, _⟩ := claims.unique again
    rw [free] at taken
    cases taken
  admitted admitted := by
    obtain ⟨_, _, settled, kept⟩ := claims.of_admitted admitted
    rw [failed] at kept
    cases kept

theorem of_shown (claims : service.Claims operation instanceId budget)
    (free : table.find? instanceId = none) (shown : service.Shown table operation exchanges)
    (called : exchanges ≠ []) : service.Guarded table operation exchanges result where
  shown := shown
  refused other _ held again _ taken := by
    obtain ⟨rfl, _⟩ := claims.unique again
    rw [free] at taken
    cases taken
  admitted _ := called

end Guarded

theorem Reading.guarded_read {seen : Except Halt (Option InstanceHandle)}
    (reading : service.Reading instanceId exchanges seen) :
    service.Guarded table (.read instanceId) exchanges result where
  shown := .read reading.readBack
  refused := nofun
  admitted admitted := by
    cases admitted with
    | read accepted => exact reading.ne_nil accepted
    | claimed claims => cases claims

theorem Reading.guarded_adopt {seen : Except Halt (Option InstanceHandle)}
    (reading : service.Reading instanceId exchanges seen) :
    service.Guarded table (.adopt instanceId) exchanges result where
  shown := .adopt reading.readBack
  refused := nofun
  admitted admitted := by
    cases admitted with
    | adopt accepted => exact reading.ne_nil accepted
    | claimed claims => cases claims

theorem Deleting.guarded {timeout : Option τ} {status : Except Halt InstanceStatus}
    (deleting : service.Deleting table instanceId timeout exchanges status) :
    service.Guarded table (.delete instanceId timeout) exchanges (status.map fun _ => ()) := by
  cases deleting with
  | unaccepted unaccepted =>
      have idle : ∀ other budget, ¬ service.Claims (.delete instanceId timeout) other budget := by
        intro other budget claims
        cases claims with
        | delete accepted =>
            rw [unaccepted] at accepted
            cases accepted
      refine .of_idle idle fun admitted => ?_
      cases admitted with
      | claimed claims => exact idle _ _ claims
  | unclaimed accepted unclaimed => exact .of_unclaimed (.delete accepted) unclaimed
  | unsettled accepted free failed => exact .of_unsettled (.delete accepted) free failed
  | mutated accepted free shown mutation announced =>
      obtain ⟨_, called, _⟩ := mutation.called
      refine .of_shown (.delete accepted) free (.delete accepted shown ?_)
        (List.ne_nil_of_mem called)
      intro exchange member
      refine ⟨(mutation.calls exchange member).imp_right ?_, ?_⟩
      · intro polled
        obtain ⟨_, poll⟩ := polled
        exact poll
      · exact announced.pending_eq mutation rfl (fun _ => rfl) exchange member

theorem Reconciling.guarded {handle : InstanceHandle} {spec : DesiredSpec} {timeout : Option τ}
    {trail : List LogRecord} {reconciled : Except Halt Reconciled}
    (reconciling : service.Reconciling table handle spec timeout exchanges trail reconciled) :
    service.Guarded table (.reconcile handle spec timeout) exchanges
      (reconciled.map fun _ => ()) := by
  -- Whoever claims has a plan with steps and a budget.
  have idle : (∀ steps budget, Plan.steps handle spec = .ok steps → steps ≠ [] →
      Budget.make (timeout.getD service.timeouts.update) service.timeouts.interval = .ok budget →
      False) → service.Guarded table (.reconcile handle spec timeout) []
        (reconciled.map fun _ => ()) := by
    intro impossible
    refine .of_idle (fun other budget claims => ?_) fun admitted => ?_
    · cases claims with
      | reconcile plan changes accepted => exact impossible _ _ plan changes accepted
    · cases admitted with
      | claimed claims =>
          cases claims with
          | reconcile plan changes accepted => exact impossible _ _ plan changes accepted
  cases reconciling with
  | unplanned refused =>
      refine idle fun _ _ plan _ _ => ?_
      rw [refused] at plan
      cases plan
  | unchanged unchanged =>
      refine idle fun _ _ plan changes _ => ?_
      rw [unchanged] at plan
      cases plan
      exact changes rfl
  | unaccepted _ _ unaccepted =>
      refine idle fun _ _ _ _ accepted => ?_
      rw [unaccepted] at accepted
      cases accepted
  | unclaimed plan changes accepted unclaimed =>
      exact .of_unclaimed (.reconcile plan changes accepted) unclaimed
  | claimed plan changes accepted free updating =>
      rcases updating.blocks changes with ⟨fault, failed, rfl⟩ | blocks
      · exact .of_unsettled (.reconcile plan changes accepted) free failed
      · refine .of_shown (.reconcile plan changes accepted) free
          (.reconcile plan accepted blocks) ?_
        refine blocks.ne_nil (fun step block applied announces => ?_) changes
        obtain ⟨_, _, shape, _⟩ := announces
        exact shape.ne_nil

theorem Creating.guarded {spec : DesiredSpec} {timeout : Option τ}
    {created : Except Halt InstanceHandle}
    (creating : service.Creating table spec timeout exchanges created) :
    service.Guarded table (.create spec timeout) exchanges (created.map fun _ => ()) := by
  have guarded : service.Shown table (.create spec timeout) exchanges →
      (service.Admitted table (.create spec timeout) → exchanges ≠ []) →
      service.Guarded table (.create spec timeout) exchanges (created.map fun _ => ()) :=
    fun shown admitted => ⟨shown, nofun, admitted⟩
  cases creating with
  | unaccepted unaccepted =>
      refine guarded (.silent _) fun admitted => ?_
      cases admitted with
      | create accepted =>
          rw [unaccepted] at accepted
          cases accepted
      | claimed claims => cases claims
  | refused accepted tried ended =>
      exact guarded (.requested accepted tried nofun) fun _ => tried.ne_nil
  | nameless accepted tried blank =>
      refine guarded (.requested accepted tried fun instanceId answered given => ?_)
        fun _ => tried.ne_nil
      cases answered
      rw [blank] at given
      cases given
  | @obtained budget drawn tries others instanceId _ accepted tried given goesOn =>
      refine guarded ?_ fun _ none => tried.ne_nil (List.append_eq_nil_iff.mp none).1
      cases goesOn with
      | unclaimed unclaimed =>
          rw [List.append_nil]
          refine .requested accepted tried fun other answered _ => ?_
          cases answered
          exact .inl ⟨_, unclaimed⟩
      | unsettled free failed =>
          rw [List.append_nil]
          exact .requested accepted tried fun _ _ _ => .inr ⟨_, failed⟩
      | unready free shown waited announced =>
          rw [← List.append_nil (tries ++ others)]
          exact .created accepted tried free shown waited (announced.poll_pending waited rfl)
            (.inl rfl)
      | ready free shown waited announced reading =>
          rw [← List.append_assoc]
          exact .created accepted tried free shown waited (announced.poll_pending waited rfl)
            (.inr ⟨rfl, reading.readBack⟩)

theorem Operating.guarded (operating : service.Operating table operation exchanges result) :
    service.Guarded table operation exchanges result := by
  cases operating with
  | create creating => exact creating.guarded
  | read reading => exact reading.guarded_read
  | adopt reading => exact reading.guarded_adopt
  | reconcile reconciling => exact reconciling.guarded
  | delete deleting => exact deleting.guarded

end Service

end CacheSteward
