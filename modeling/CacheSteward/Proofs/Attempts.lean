import CacheSteward.Proofs.Run
import CacheSteward.Remote.Attempt
import CacheSteward.Timescale.Exact

namespace CacheSteward

/-! What an action asks of the control plane, and how it ends.

The attempts of an action are one and the same call; only transient failures are followed by another
attempt.  How the action ends is decided by the last outcome alone, except that a transient failure
ends it either with the budget spent or with a budget that turns out not to be usable.
-/

variable {τ ω : Type} {inside : Enclosure τ}

/-- A call does not fail with a known fault. -/
def Exchange.Raw (exchange : Exchange τ) : Prop :=
  ∀ fault, exchange.outcome = .error fault → fault.isKnown = false

/-- Attempts at one call: all but the last one failed transiently. -/
inductive Attempts (call : RemoteCall) (kind : OperationKind) :
    List (Exchange τ) → Except Fault Value → Prop where
  | last (pending : Option (PendingOperation τ)) (outcome : Except Fault Value) :
      Attempts call kind [⟨call, pending, outcome⟩] outcome
  | again (pending : Option (PendingOperation τ)) {raw : Fault} {exchanges : List (Exchange τ)}
      {outcome : Except Fault Value} (transient : raw.disposition kind = .transient)
      (rest : Attempts call kind exchanges outcome) :
      Attempts call kind (⟨call, pending, .error raw⟩ :: exchanges) outcome

namespace Attempts

variable {call : RemoteCall} {kind : OperationKind} {exchanges : List (Exchange τ)}
  {outcome : Except Fault Value}

theorem calls (tried : Attempts call kind exchanges outcome) :
    ∀ exchange ∈ exchanges, exchange.call = call := by
  induction tried with
  | last pending outcome => exact fun exchange member => by rw [List.mem_singleton.mp member]
  | again pending transient rest ih =>
      intro exchange member
      rcases List.mem_cons.mp member with rfl | later
      · rfl
      · exact ih exchange later

theorem ne_nil (tried : Attempts call kind exchanges outcome) : exchanges ≠ [] := by
  cases tried <;> exact List.cons_ne_nil _ _

/-- The last attempt has the outcome of them all. -/
theorem getLast? (tried : Attempts call kind exchanges outcome) :
    ∃ last, exchanges.getLast? = some last ∧ last.call = call ∧ last.outcome = outcome := by
  induction tried with
  | last pending outcome => exact ⟨_, rfl, rfl, rfl⟩
  | again pending transient rest ih =>
      obtain ⟨last, atEnd, called, same⟩ := ih
      refine ⟨last, ?_, called, same⟩
      rw [List.getLast?_cons, atEnd]
      rfl

theorem last_raw (tried : Attempts call kind exchanges outcome)
    (raw : ∀ exchange ∈ exchanges, exchange.Raw) :
    ∀ fault, outcome = .error fault → fault.isKnown = false := by
  obtain ⟨last, atEnd, _, rfl⟩ := tried.getLast?
  exact raw last (List.mem_of_getLast? atEnd)

/-- Only the last attempt can have been answered. -/
theorem answered (tried : Attempts call kind exchanges outcome) {exchange : Exchange τ}
    (member : exchange ∈ exchanges) {value : Value} (answer : exchange.outcome = .ok value) :
    outcome = .ok value := by
  induction tried with
  | last pending outcome =>
      rw [List.mem_singleton.mp member] at answer
      exact answer
  | again pending transient rest ih =>
      rcases List.mem_cons.mp member with rfl | later
      · cases answer
      · exact ih later

end Attempts

/-- A budget that was accepted may still fail where it is counted in attempts or shown. -/
def Budget.Fails [Timescale τ] (budget : Budget τ) (fault : Fault) : Prop :=
  budget.maxAttempts = .error fault ∨ Timescale.showable budget.timeout = .error fault ∨
    Timescale.showable budget.interval = .error fault

/-- A budget that can be counted in attempts, shown, and kept while an operation is pending. -/
structure Budget.Usable [Timescale τ] (budget : Budget τ) : Prop where
  counted : ∃ most, budget.maxAttempts = .ok most
  timeout : Timescale.showable budget.timeout = .ok ()
  interval : Timescale.showable budget.interval = .ok ()
  settled : ∃ settled, Timescale.settled budget.timeout = .ok settled

namespace Budget

theorem Usable.not_fails [Timescale τ] {budget : Budget τ} (usable : budget.Usable)
    (fault : Fault) : ¬ budget.Fails fault := by
  intro fails
  obtain ⟨⟨most, counted⟩, timeout, interval, _⟩ := usable
  rcases fails with attempts | shown | shown
  · rw [counted] at attempts
    cases attempts
  · rw [timeout] at shown
    cases shown
  · rw [interval] at shown
    cases shown

theorem usable_exact (budget : Budget Rat) : budget.Usable :=
  ⟨⟨_, rfl⟩, rfl, rfl, _, rfl⟩

/-- Seconds are usable when they are finite as doubles, have a finite quotient, and the timeout is
above zero. -/
theorem usable_of_finite {budget : Budget Amount}
    (timeout : (Decimal.ceiling? budget.timeout.toFloat).isSome)
    (interval : (Decimal.ceiling? budget.interval.toFloat).isSome)
    (quotient : (Amount.quotientCeiling budget.timeout budget.interval).isOk)
    (positive : Amount.less (.whole 0) budget.timeout = true) : budget.Usable := by
  have shows : ∀ {a : Amount}, (Decimal.ceiling? a.toFloat).isSome →
      Amount.showable a = .ok () := by
    intro a finite
    obtain ⟨n, ceiling⟩ := Option.isSome_iff_exists.mp finite
    unfold Amount.showable
    rw [ceiling]
    cases a.whole? <;> rfl
  cases counted : Amount.quotientCeiling budget.timeout budget.interval with
  | error reason =>
      rw [counted] at quotient
      cases quotient
  | ok count =>
      refine ⟨⟨max 1 count.toNat, ?_⟩, shows timeout, shows interval,
        .real budget.timeout.toFloat, ?_⟩
      · simp only [maxAttempts, Timescale.attempts, counted]
      · change Amount.settled budget.timeout = _
        rw [Amount.settled, shows timeout]
        simp only [positive, if_true]
        rfl

/-- The standard timeouts are usable, whatever the operation. -/
theorem usable_standard {kind : OperationKind} {budget : Budget Amount}
    (accepted : Timeouts.standard.budget kind none = .ok budget) : budget.Usable := by
  unfold Timeouts.budget make at accepted
  split at accepted
  · cases accepted
  · split at accepted
    · cases accepted
    · cases accepted
      cases kind <;> exact usable_of_finite (by decide +kernel) (by decide +kernel)
        (by decide +kernel) (by decide +kernel)

end Budget

namespace Action

/-- How an action ends after its last outcome. -/
def Ends [Timescale τ] (action : Action τ) (outcome : Except Fault Value)
    (result : Except Halt Value) : Prop :=
  match action.judge outcome with
  | .done value => result = .ok value
  | .fatal fault => result = .error (.fault fault)
  | .retryable cause =>
      (∃ fault, action.budget.Fails fault ∧ result = .error (.fault fault)) ∨
        ∃ elapsed, result = .error (.fault (action.exhausted elapsed cause))

theorem transient_of_retryable {action : Action τ} {outcome : Except Fault Value} {cause : Fault}
    (judged : action.judge outcome = .retryable cause) :
    ∃ raw, outcome = .error raw ∧ raw.disposition action.kind = .transient := by
  cases outcome with
  | ok result => cases judged
  | error raw =>
      refine ⟨raw, rfl, ?_⟩
      simp only [judge] at judged
      split at judged
      · cases judged
      · rename_i retried
        exact Disposition.resolve_eq_retry_iff.mp retried
      · cases judged

theorem remarks_ordinary (action : Action τ) (outcome : Except Fault Value) :
    ∀ record ∈ action.remarks outcome, record.channel ≠ .audit := by
  intro record member
  cases outcome with
  | ok result => cases member
  | error raw =>
      simp only [remarks] at member
      split at member
      · rw [List.mem_singleton] at member
        subst member
        exact LogChannel.noConfusion
      · cases member

variable [Timescale τ]

theorem giveUp_tells {α : Type} (action : Action τ) (attempts : Nat) (elapsed : τ) (cause : Fault)
    (before : Session τ ω) :
    (action.giveUp attempts elapsed cause : Run τ ω α).Tells inside before
      fun exchanges audits result => exchanges = [] ∧ audits = [] ∧
        ((∃ fault, action.budget.Fails fault ∧ result = .error (.fault fault)) ∨
          ∃ elapsed, result = .error (.fault (action.exhausted elapsed cause))) := by
  unfold giveUp
  refine .afterExcept (fun fault failed => ?_) fun _ _ => ?_
  · exact ⟨rfl, rfl, .inl ⟨fault, .inr (.inl failed), rfl⟩⟩
  · refine .afterQuiet (Run.log_quiet LogChannel.noConfusion) fun _ _ _ _ => ?_
    exact .fail ⟨rfl, rfl, .inr ⟨elapsed, rfl⟩⟩

/-- How an attempt ends for the loop around it. -/
def attemptEnd (action : Action τ) (outcome : Except Fault Value) :
    Except Halt (Except Fault Value) :=
  match action.judge outcome with
  | .done value => .ok (.ok value)
  | .retryable cause => .ok (.error cause)
  | .fatal fault => .error (.fault fault)

omit [Timescale τ] in
theorem attempt_tells {surroundings : Surroundings τ ω} (encloses : surroundings.Encloses inside)
    (call : RemoteCall) (action : Action τ) (attempts : Nat) (before : Session τ ω) :
    (action.attempt (Run.remote surroundings call) attempts).Tells inside before
      fun exchanges audits result => audits = [] ∧ ∃ pending outcome,
        exchanges = [⟨call, pending, outcome⟩] ∧ result = action.attemptEnd outcome := by
  unfold attempt
  refine .afterRemote encloses fun pending outcome asked => ?_
  refine .afterQuiet (Run.logs_quiet (action.remarks_ordinary outcome)) fun _ noted _ _ => ?_
  cases judged : action.judge outcome with
  | done value =>
      have ended : (.ok (.ok value) : Except Halt _) = action.attemptEnd outcome := by
        simp only [attemptEnd, judged]
      by_cases repeated : attempts > 0
      · simp only [repeated, if_true]
        refine .afterQuiet (Run.log_quiet LogChannel.noConfusion) fun _ _ _ _ => ?_
        exact .pure ⟨rfl, pending, outcome, rfl, ended⟩
      · simp only [repeated, if_false]
        exact .pure ⟨rfl, pending, outcome, rfl, ended⟩
  | fatal fault =>
      refine .afterQuiet (Run.log_quiet LogChannel.noConfusion) fun _ _ _ _ => ?_
      exact .fail ⟨rfl, pending, outcome, rfl, by simp only [attemptEnd, judged]⟩
  | retryable cause =>
      exact .pure ⟨rfl, pending, outcome, rfl, by simp only [attemptEnd, judged]⟩

theorem pause_tells (surroundings : Surroundings τ ω) (action : Action τ) (attempts : Nat)
    (cause : Fault) (before : Session τ ω) :
    (action.pause surroundings attempts cause).Tells inside before
      fun exchanges audits result => exchanges = [] ∧ audits = [] ∧
        ∀ halt, result = .error halt →
          ∃ fault, action.budget.Fails fault ∧ halt = .fault fault := by
  unfold pause
  refine .afterExcept (fun fault failed => ⟨rfl, rfl, fun halt same => ?_⟩) fun _ _ => ?_
  · cases same
    exact ⟨fault, .inr (.inr failed), rfl⟩
  · refine .afterQuiet (Run.log_quiet LogChannel.noConfusion) fun _ _ _ _ => ?_
    rw [← bind_pure (Run.sleep surroundings action.budget.interval)]
    refine .afterQuiet (Run.sleep_quiet surroundings _) fun _ _ _ _ => ?_
    exact .pure ⟨rfl, rfl, nofun⟩

/-- Attempts at a call, of which the last outcome decides the end. -/
def Tale (action : Action τ) (call : RemoteCall) (exchanges : List (Exchange τ))
    (audits : List LogRecord) (result : Except Halt Value) : Prop :=
  audits = [] ∧ ∃ outcome, Attempts call action.kind exchanges outcome ∧ action.Ends outcome result

/-- A transient failure after which no other attempt follows. -/
theorem tale_of_spent {call : RemoteCall} {action : Action τ} {raw cause : Fault}
    (judged : action.judge (.error raw) = .retryable cause)
    (pending : Option (PendingOperation τ)) {result : Except Halt Value}
    (ended : (∃ fault, action.budget.Fails fault ∧ result = .error (.fault fault)) ∨
      ∃ elapsed, result = .error (.fault (action.exhausted elapsed cause))) :
    action.Tale call [⟨call, pending, .error raw⟩] [] result := by
  refine ⟨rfl, _, .last pending _, ?_⟩
  simp only [Ends, judged]
  exact ended

/-- One attempt, and whatever follows a transient failure of it. -/
theorem attempt_then {surroundings : Surroundings τ ω} (encloses : surroundings.Encloses inside)
    (call : RemoteCall) (action : Action τ) (attempts : Nat) (before : Session τ ω)
    {next : Except Fault Value → Run τ ω Value}
    (returns : ∀ value, next (.ok value) = pure value)
    (goesOn : ∀ raw cause pending after, raw.disposition action.kind = .transient →
      action.judge (.error raw) = .retryable cause →
      (next (.error cause)).Tells inside after fun exchanges audits result =>
        action.Tale call (⟨call, pending, .error raw⟩ :: exchanges) audits result) :
    (action.attempt (Run.remote surroundings call) attempts >>= next).Tells inside before
      (action.Tale call) := by
  refine .bind (attempt_tells encloses call action attempts before) ?_ ?_
  · intro halt _ _ attempted
    obtain ⟨rfl, pending, outcome, rfl, ended⟩ := attempted
    refine ⟨rfl, outcome, .last pending outcome, ?_⟩
    unfold attemptEnd at ended
    unfold Ends
    cases judged : action.judge outcome with
    | fatal fault =>
        rw [judged] at ended
        cases ended
        rfl
    | done value | retryable cause =>
        rw [judged] at ended
        cases ended
  · intro result after _ _ _ attempted
    obtain ⟨rfl, pending, outcome, rfl, ended⟩ := attempted
    unfold attemptEnd at ended
    cases judged : action.judge outcome with
    | fatal fault =>
        rw [judged] at ended
        cases ended
    | done value =>
        rw [judged] at ended
        cases ended
        rw [returns]
        refine .pure ⟨rfl, outcome, .last pending outcome, ?_⟩
        simp only [Ends, judged]
    | retryable cause =>
        rw [judged] at ended
        cases ended
        obtain ⟨raw, rfl, transient⟩ := transient_of_retryable judged
        exact goesOn raw cause pending after transient judged

/-- The induction is on the attempts that may still follow. -/
theorem tryFrom_tells {surroundings : Surroundings τ ω} (encloses : surroundings.Encloses inside)
    (call : RemoteCall) (action : Action τ) (start : τ) (attempts left : Nat)
    (before : Session τ ω) :
    (action.tryFrom surroundings (Run.remote surroundings call) start action.budget.maxAttempts
      attempts left).Tells inside before (action.Tale call) := by
  have givesUp : ∀ {raw cause : Fault} (judged : action.judge (.error raw) = .retryable cause)
      pending elapsed (attempts : Nat) (timed : Session τ ω),
      (action.giveUp attempts elapsed cause : Run τ ω Value).Tells inside timed
        fun exchanges audits result =>
          action.Tale call (⟨call, pending, .error raw⟩ :: exchanges) audits result := by
    intro raw cause judged pending elapsed attempts timed
    refine (giveUp_tells action attempts elapsed cause timed).weaken fun _ _ result ended => ?_
    obtain ⟨rfl, rfl, ended⟩ := ended
    exact tale_of_spent judged pending ended
  induction left generalizing attempts before with
  | zero =>
      unfold tryFrom
      refine attempt_then encloses call action attempts before (fun _ => rfl) ?_
      intro raw cause pending after transient judged
      refine .afterQuiet (Run.elapsed_quiet surroundings start) fun elapsed timed _ _ => ?_
      refine .afterCheck (fun fault failed => ?_) (givesUp judged pending elapsed _ timed)
      exact tale_of_spent judged pending (.inl ⟨fault, .inl failed, rfl⟩)
  | succ left ih =>
      unfold tryFrom
      refine attempt_then encloses call action attempts before (fun _ => rfl) ?_
      intro raw cause pending after transient judged
      refine .afterQuiet (Run.elapsed_quiet surroundings start) fun elapsed timed _ _ => ?_
      refine .afterCheck (fun fault failed => ?_) ?_
      · exact tale_of_spent judged pending (.inl ⟨fault, .inl failed, rfl⟩)
      · by_cases late : action.isOver elapsed
        · simp only [late, if_true]
          exact givesUp judged pending elapsed _ timed
        · simp only [late]
          refine .bind (pause_tells surroundings action _ cause timed) ?_ ?_
          · intro halt _ _ failed
            obtain ⟨rfl, rfl, failed⟩ := failed
            obtain ⟨fault, fails, rfl⟩ := failed halt rfl
            exact tale_of_spent judged pending (.inl ⟨fault, fails, rfl⟩)
          · intro _ rested _ _ _ paused
            obtain ⟨rfl, rfl, _⟩ := paused
            refine (ih (attempts + 1) rested).weaken fun xs _ result told => ?_
            obtain ⟨rfl, outcome, rest, ended⟩ := told
            exact ⟨rfl, outcome, .again pending transient rest, ended⟩

/-- An action asks for one call, as often as it fails transiently, and ends as its last outcome
says. -/
theorem perform_tells {surroundings : Surroundings τ ω} (encloses : surroundings.Encloses inside)
    (call : RemoteCall) (action : Action τ) (before : Session τ ω) :
    (action.perform surroundings (Run.remote surroundings call)).Tells inside before
      (action.Tale call) := by
  unfold perform
  exact .afterQuiet (Run.now_quiet surroundings) fun start timed _ _ =>
    tryFrom_tells encloses call action start _ _ timed

theorem Ends.ne_unfinished {action : Action τ} {outcome : Except Fault Value} :
    ¬ action.Ends outcome (.error .unfinished) := by
  intro ended
  unfold Ends at ended
  cases judged : action.judge outcome with
  | done value | fatal fault =>
      rw [judged] at ended
      cases ended
  | retryable cause =>
      rw [judged] at ended
      rcases ended with ⟨_, _, impossible⟩ | ⟨_, impossible⟩
      · cases impossible
      · cases impossible

theorem failed_of_ends_error {action : Action τ} {outcome : Except Fault Value} {halt : Halt}
    (ended : action.Ends outcome (.error halt)) : ∃ raw, outcome = .error raw := by
  cases outcome with
  | ok value => cases ended
  | error raw => exact ⟨raw, rfl⟩

theorem answered_of_ends_ok {action : Action τ} {outcome : Except Fault Value} {value : Value}
    (ended : action.Ends outcome (.ok value))
    (fails : ∀ disposition : Disposition, disposition.resolve action.kind ≠ .success) :
    outcome = .ok value := by
  cases outcome with
  | ok answer =>
      cases ended
      rfl
  | error raw =>
      simp only [Ends, judge] at ended
      cases resolved : (raw.disposition action.kind).resolve action.kind with
      | success => exact absurd resolved (fails _)
      | retry | fail => simp [resolved] at ended

/-- A failure that counts as success gives nothing. -/
theorem answered_of_ends_given {action : Action τ} {outcome : Except Fault Value} {value : Value}
    (ended : action.Ends outcome (.ok value)) (there : value ≠ .null) : outcome = .ok value := by
  cases outcome with
  | ok answer =>
      cases ended
      rfl
  | error raw =>
      simp only [Ends, judge] at ended
      cases resolved : (raw.disposition action.kind).resolve action.kind with
      | success =>
          rw [resolved] at ended
          cases ended
          exact absurd rfl there
      | retry | fail => simp [resolved] at ended

end Action

end CacheSteward
