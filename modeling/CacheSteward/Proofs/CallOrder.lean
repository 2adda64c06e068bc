import CacheSteward.Proofs.Steps
import CacheSteward.Timescale.Exact

namespace CacheSteward

/-! The order of the calls of a reconciliation.

The calls come in blocks, one for each step in the order of the plan.  The next block, and at the
end the reads of the final state, begin only behind a poll that shows the step before.
-/

variable {τ ω : Type}

/-- A poll that shows a change: the instance is running, and the changed entry, null when it is
missing, is as asked for. -/
def AppliedCheck.ShownBy (check : AppliedCheck) (poll : Exchange τ) : Prop :=
  ∃ detail, poll.outcome = .ok detail ∧
    detail.get? "instanceStatus" = some (.text "Running") ∧
    ((detail.get? check.detailKey).getD .null).same check.expected = true

/-- The calls of one step under a client token, and whether they end with a poll that shows it. -/
inductive Block (clientToken : String) (step : Step) : List (Exchange τ) → Bool → Prop where
  | refused {call : RemoteCall} {check : AppliedCheck} {tries : List (Exchange τ)} {raw : Fault}
      (intent : Step.Intent clientToken step call check)
      (tried : Attempts call step.kind tries (.error raw)) : Block clientToken step tries false
  | accepted {call : RemoteCall} {check : AppliedCheck} {tries polls : List (Exchange τ)}
      {answer : Value} {applied : Bool}
      (intent : Step.Intent clientToken step call check)
      (tried : Attempts call step.kind tries (.ok answer))
      (reads : ∀ poll ∈ polls, poll.call = .getInstanceDetail (.text step.instanceId))
      (early : ∀ poll ∈ polls.dropLast, ¬ check.ShownBy poll)
      (shown : applied = true ↔ ∃ last, polls.getLast? = some last ∧ check.ShownBy last) :
      Block clientToken step (tries ++ polls) applied

/-- The calls of a row of steps.  A block that does not show its step is the last one. -/
inductive Blocks (block : Step → List (Exchange τ) → Bool → Prop)
    (reads : List (Exchange τ) → Prop) : List Step → List (Exchange τ) → Prop where
  | stopped {step : Step} {rest : List Step} {exchanges : List (Exchange τ)}
      (last : block step exchanges false) : Blocks block reads (step :: rest) exchanges
  | next {step : Step} {rest : List Step} {exchanges others : List (Exchange τ)}
      (first : block step exchanges true) (goesOn : Blocks block reads rest others) :
      Blocks block reads (step :: rest) (exchanges ++ others)
  | finished {exchanges : List (Exchange τ)} (read : reads exchanges) :
      Blocks block reads [] exchanges

namespace Block

variable {clientToken otherToken : String} {step : Step} {exchanges others : List (Exchange τ)}
  {applied : Bool}

/-- All calls of a step are on its instance. -/
theorem names (block : Block clientToken step exchanges applied) :
    ∀ exchange ∈ exchanges, exchange.call.Names (.text step.instanceId) := by
  intro exchange member
  cases block with
  | refused intent tried =>
      rw [tried.calls exchange member]
      exact ⟨_, intent.names, rfl⟩
  | accepted intent tried reads early shown =>
      rcases List.mem_append.mp member with attempt | poll
      · rw [tried.calls exchange attempt]
        exact ⟨_, intent.names, rfl⟩
      · rw [reads exchange poll]
        exact ⟨_, rfl, rfl⟩

theorem ne_nil (block : Block clientToken step exchanges applied) : exchanges ≠ [] := by
  cases block with
  | refused intent tried => exact tried.ne_nil
  | accepted intent tried reads early shown =>
      exact fun none => tried.ne_nil (List.append_eq_nil_iff.mp none).1

theorem not_poll_of_tried {call : RemoteCall} {check : AppliedCheck}
    {tries : List (Exchange τ)} {outcome : Except Fault Value} {exchange : Exchange τ}
    {instanceId : Value} (intent : Step.Intent clientToken step call check)
    (tried : Attempts call step.kind tries outcome)
    (polled : exchange.call = .getInstanceDetail instanceId) : exchange ∉ tries := by
  intro member
  rw [tried.calls exchange member] at polled
  cases intent <;> cases polled

/-- A block that shows its step ends with a poll that does. -/
theorem shows (block : Block clientToken step exchanges true) :
    ∃ last instanceId check, exchanges.getLast? = some last ∧
      last.call = .getInstanceDetail instanceId ∧ step.appliedCheck = .ok check ∧
      check.ShownBy last := by
  cases block with
  | accepted intent tried reads early shown =>
      obtain ⟨last, atEnd, shows⟩ := shown.mp rfl
      refine ⟨last, _, _, ?_, reads last (List.mem_of_getLast? atEnd), intent.appliedCheck, shows⟩
      rw [List.getLast?_append, atEnd]
      rfl

/-- No block of a step goes on behind a poll that shows it. -/
theorem eq_of_prefix (shows : Block clientToken step exchanges true)
    (block : Block otherToken step others applied) (front : exchanges <+: others) :
    exchanges = others ∧ applied = true := by
  obtain ⟨last, instanceId, check, atEnd, polled, checks, shown⟩ := shows.shows
  obtain ⟨rest, same⟩ := front
  have held : last ∈ exchanges := List.mem_of_getLast? atEnd
  cases block with
  | refused intent tried =>
      have member : last ∈ others := same ▸ List.mem_append_left rest held
      exact absurd member (not_poll_of_tried intent tried polled)
  | @accepted _ other tries polls _ _ intent tried reads early shownBy =>
      have untried := not_poll_of_tried intent tried polled
      obtain rfl : other = check := Except.ok.inj (intent.appliedCheck.symm.trans checks)
      rcases List.append_eq_append_iff.mp same with ⟨more, rfl, _⟩ | ⟨own, rfl, rfl⟩
      · exact absurd (List.mem_append_left more held) untried
      · have member : last ∈ own := (List.mem_append.mp held).resolve_left untried
        cases rest with
        | nil =>
            rw [List.append_nil] at shownBy ⊢
            have ownEnd : own.getLast? = some last := by
              rw [List.getLast?_append] at atEnd
              obtain ⟨x, found⟩ := Option.isSome_iff_exists.mp
                (List.getLast?_isSome.mpr (List.ne_nil_of_mem member))
              rw [found] at atEnd ⊢
              exact atEnd
            exact ⟨rfl, shownBy.mpr ⟨last, ownEnd, shown⟩⟩
        | cons next later =>
            have front : last ∈ (own ++ next :: later).dropLast := by
              rw [List.dropLast_append_of_ne_nil (List.cons_ne_nil _ _)]
              exact List.mem_append_left _ member
            exact absurd shown (early last front)

end Block

namespace Blocks

variable {block other : Step → List (Exchange τ) → Bool → Prop}
  {reads : List (Exchange τ) → Prop} {steps : List Step} {exchanges : List (Exchange τ)}

theorem imp (implies : ∀ step xs applied, block step xs applied → other step xs applied)
    (blocks : Blocks block reads steps exchanges) : Blocks other reads steps exchanges := by
  induction blocks with
  | stopped last => exact .stopped (implies _ _ _ last)
  | next first goesOn ih => exact .next (implies _ _ _ first) ih
  | finished read => exact .finished read

/-- A row with a step makes a call. -/
theorem ne_nil (calls : ∀ step xs applied, block step xs applied → xs ≠ []) (changes : steps ≠ [])
    (blocks : Blocks block reads steps exchanges) : exchanges ≠ [] := by
  cases blocks with
  | stopped last => exact calls _ _ _ last
  | next first goesOn => exact fun none => calls _ _ _ first (List.append_eq_nil_iff.mp none).1
  | finished read => exact absurd rfl changes

end Blocks

variable [Timescale τ]

namespace Service

variable {service : Service τ ω} {step : Step} {budget : Budget τ} {check : AppliedCheck}
  {rest : τ}

omit [Timescale τ] in
theorem appliedWait_reached_iff {poll : Exchange τ} {status : InstanceStatus} :
    (appliedWait step check budget rest).judge poll.outcome = .reached status ↔
      status = .running ∧ check.ShownBy poll := by
  rw [Wait.judge_eq_reached_iff]
  constructor
  · intro reached
    obtain ⟨detail, answered, given, target, passes⟩ := reached
    obtain rfl := List.mem_singleton.mp target
    exact ⟨rfl, detail, answered, given, passes⟩
  · intro shown
    obtain ⟨rfl, detail, answered, given, passes⟩ := shown
    exact ⟨detail, answered, given, List.mem_singleton.mpr rfl, passes⟩

omit [Timescale τ] in
theorem appliedWait_reached_of_shown {poll : Exchange τ} (shown : check.ShownBy poll) :
    (appliedWait step check budget rest).judge poll.outcome = .reached .running :=
  appliedWait_reached_iff.mpr ⟨rfl, shown⟩

omit [Timescale τ] in
theorem appliedWait_not_shown_of_open {poll : Exchange τ}
    (pending : ((appliedWait step check budget rest).judge poll.outcome).IsOpen) :
    ¬ check.ShownBy poll := by
  intro shown
  rw [appliedWait_reached_of_shown shown] at pending
  exact pending

/-- No step is a deletion, so the wait for one takes no missing instance for a success. -/
theorem appliedWait_isOk_iff {clientToken : String} {call : RemoteCall}
    (intent : Step.Intent clientToken step call check) {last : Exchange τ}
    {result : Except Halt InstanceStatus}
    (ended : (appliedWait step check budget rest).Ends last.outcome result) :
    result.isOk = true ↔ check.ShownBy last := by
  unfold Wait.Ends at ended
  cases judged : (appliedWait step check budget rest).judge last.outcome with
  | reached status =>
      rw [judged] at ended
      cases ended
      exact ⟨fun _ => (appliedWait_reached_iff.mp judged).2, fun _ => rfl⟩
  | gone =>
      have targeted := Wait.goneIsTarget_of_judge_eq_gone judged
      cases intent <;> cases targeted
  | failed fault =>
      rw [judged] at ended
      cases ended
      refine ⟨nofun, fun shown => ?_⟩
      rw [appliedWait_reached_of_shown shown] at judged
      cases judged
  | stale status | passing status | transient fault =>
      have pending : ((appliedWait step check budget rest).judge last.outcome).IsOpen := by
        rw [judged]
        trivial
      rw [judged] at ended
      obtain ⟨elapsed, seen, rfl⟩ := ended
      exact ⟨nofun, fun shown => absurd shown (appliedWait_not_shown_of_open pending)⟩

/-- The polls of a step end with the one that shows it. -/
theorem appliedWait_polls {clientToken : String} {call : RemoteCall}
    (intent : Step.Intent clientToken step call check) {horizon : Nat}
    {polls : List (Exchange τ)} {result : Except Halt InstanceStatus}
    (polled : (appliedWait step check budget rest).Polls horizon polls result) :
    (∀ poll ∈ polls.dropLast, ¬ check.ShownBy poll) ∧
      (result.isOk = true ↔ ∃ last, polls.getLast? = some last ∧ check.ShownBy last) := by
  refine ⟨fun poll member => appliedWait_not_shown_of_open (polled.early poll member), ?_⟩
  rcases polled.decided with ⟨rfl, opened⟩ | ⟨last, atEnd, ended⟩
  · refine ⟨nofun, fun shown => ?_⟩
    obtain ⟨last, atEnd, shows⟩ := shown
    have pending := opened last (List.mem_of_getLast? atEnd)
    exact absurd shows (appliedWait_not_shown_of_open pending)
  · rw [appliedWait_isOk_iff intent ended]
    constructor
    · exact fun shows => ⟨last, atEnd, shows⟩
    · intro shown
      obtain ⟨other, otherAtEnd, shows⟩ := shown
      rw [atEnd] at otherAtEnd
      cases otherAtEnd
      exact shows

/-- The calls of a step form a block, and each of them finds the step pending. -/
def Announces (service : Service τ ω) (budget : Budget τ) (step : Step)
    (exchanges : List (Exchange τ)) (applied : Bool) : Prop :=
  ∃ drawn pending, Block (service.surroundings.token drawn) step exchanges applied ∧
    pendingOperation step.kind (.text step.instanceId) (service.surroundings.token drawn) budget =
      .ok pending ∧
    ∀ exchange ∈ exchanges, exchange.pending = some pending

/-- A step that reached its call is a block, which shows the step exactly when the step succeeds. -/
theorem block_of_mutation {exchanges : List (Exchange τ)} {result : Except Halt InstanceStatus}
    {drawn : Nat} {call : RemoteCall}
    (intent : Step.Intent (service.surroundings.token drawn) step call check)
    (mutation : Mutation (stepAction step budget (service.surroundings.token drawn)) call
      (fun polls result =>
        ∃ rest, (appliedWait step check budget rest).Polls service.horizon polls result)
      exchanges result) :
    Block (service.surroundings.token drawn) step exchanges result.isOk := by
  cases mutation with
  | refused tried ended =>
      obtain ⟨raw, rfl⟩ := Action.failed_of_ends_error ended
      exact .refused intent tried
  | accepted tried ended waited =>
      obtain rfl := Action.answered_of_ends_ok ended intent.resolves_no_failure
      obtain ⟨rest, polled⟩ := waited
      obtain ⟨early, shown⟩ := appliedWait_polls intent polled
      exact .accepted intent tried polled.reads early shown

/-- A step that succeeds has been shown. -/
theorem StepRun.shown {exchanges : List (Exchange τ)} {status : InstanceStatus}
    (run : service.StepRun step budget exchanges (.ok status)) :
    ∃ clientToken, Block clientToken step exchanges true := by
  cases run with
  | mutated intent shown mutation announced => exact ⟨_, block_of_mutation intent mutation⟩

theorem StepRun.announces {exchanges : List (Exchange τ)} {settled : τ}
    {result : Except Halt InstanceStatus} (run : service.StepRun step budget exchanges result)
    (accepted : Timescale.settled budget.timeout = .ok settled) :
    service.Announces budget step exchanges result.isOk := by
  cases run with
  | unsettled failed =>
      rw [accepted] at failed
      cases failed
  | @mutated drawn _ _ pending _ _ intent shown mutation announced =>
      have block := block_of_mutation intent mutation
      exact ⟨drawn, pending, block, shown, fun exchange member =>
        announced exchange member (block.names exchange member)⟩

/-- The reads of the final state: attempts at one call, and none at all when the configured budget
of a read is refused. -/
def ReadBack (service : Service τ ω) (instanceId : Value) (exchanges : List (Exchange τ)) : Prop :=
  (∃ outcome, Attempts (.getInstanceDetail instanceId) .read exchanges outcome) ∨
    ∃ fault, service.timeouts.budget .read none = .error fault ∧ exchanges = []

theorem Reading.readBack {instanceId : Value} {exchanges : List (Exchange τ)}
    {seen : Except Halt (Option InstanceHandle)}
    (reading : service.Reading instanceId exchanges seen) :
    service.ReadBack instanceId exchanges := by
  cases reading with
  | refused unaccepted => exact .inr ⟨_, unaccepted, rfl⟩
  | failed _ tried _ => exact .inl ⟨_, tried⟩
  | missing _ tried _ => exact .inl ⟨_, tried⟩
  | found _ tried _ _ => exact .inl ⟨_, tried⟩

theorem Reading.calls {instanceId : Value} {exchanges : List (Exchange τ)}
    {seen : Except Halt (Option InstanceHandle)}
    (reading : service.Reading instanceId exchanges seen) :
    ∀ exchange ∈ exchanges, exchange.call = .getInstanceDetail instanceId := by
  rcases reading.readBack with ⟨outcome, tried⟩ | ⟨_, _, rfl⟩
  · exact tried.calls
  · exact nofun

/-- The induction is on the steps.  `others` are the reads behind the last of them. -/
theorem StepsRun.blocks {reads : List (Exchange τ) → Prop} {settled : τ}
    (accepted : Timescale.settled budget.timeout = .ok settled) {completed steps : List Step}
    {exchanges others : List (Exchange τ)} {trail : List LogRecord} {result : Except Halt Unit}
    (run : service.StepsRun completed (steps.map fun step => (step, budget)) exchanges trail
      result)
    (finished : result.isOk = true → reads others)
    (stopped : result.isOk = false → others = []) :
    Blocks (service.Announces budget) reads steps (exchanges ++ others) := by
  induction steps generalizing completed exchanges trail with
  | nil =>
      cases run
      exact .finished (finished rfl)
  | cons step rest ih =>
      rw [List.map_cons] at run
      cases run with
      | stopped run =>
          rw [stopped rfl, List.append_nil]
          exact .stopped (run.announces accepted)
      | next run goesOn =>
          rw [List.append_assoc]
          exact .next (run.announces accepted) (ih goesOn)

/-- With a budget that cannot be shown as pending the first step fails before its call. -/
theorem StepsRun.silent {fault : Fault}
    (failed : Timescale.settled budget.timeout = .error fault) {completed steps : List Step}
    (changes : steps ≠ []) {exchanges : List (Exchange τ)} {trail : List LogRecord}
    {result : Except Halt Unit}
    (run : service.StepsRun completed (steps.map fun step => (step, budget)) exchanges trail
      result) :
    exchanges = [] ∧ result.isOk = false := by
  have first : ∀ {step : Step} {exchanges : List (Exchange τ)}
      {result : Except Halt InstanceStatus}, service.StepRun step budget exchanges result →
      exchanges = [] ∧ result.isOk = false := by
    intro step exchanges result run
    cases run with
    | unsettled _ => exact ⟨rfl, rfl⟩
    | mutated _ shown _ _ =>
        rw [pendingOperation, failed] at shown
        cases shown
  cases steps with
  | nil => exact absurd rfl changes
  | cons step rest =>
      rw [List.map_cons] at run
      cases run with
      | stopped run => exact ⟨(first run).1, rfl⟩
      | next run _ => cases (first run).2

section Stopping

variable {exchanges : List (Exchange τ)}

/-- Calls that apply steps one after another: each step is called for and then shown. -/
inductive Applied : List Step → List (Exchange τ) → Prop where
  | none : Applied [] []
  | next {clientToken : String} {step : Step} {rest : List Step}
      {exchanges others : List (Exchange τ)} (shows : Block clientToken step exchanges true)
      (goesOn : Applied rest others) : Applied (step :: rest) (exchanges ++ others)

omit [Timescale τ] in
theorem Applied.split {done rest : List Step} (applied : Applied (done ++ rest) exchanges) :
    ∃ first second, exchanges = first ++ second ∧ Applied done first ∧ Applied rest second := by
  induction done generalizing exchanges with
  | nil => exact ⟨[], exchanges, rfl, .none, applied⟩
  | cons step done ih =>
      cases applied with
      | next shows goesOn =>
          obtain ⟨first, second, rfl, done, rest⟩ := ih goesOn
          exact ⟨_, second, (List.append_assoc _ _ _).symm, .next shows done, rest⟩

omit [Timescale τ] in
/-- Where a row of steps is applied in front of something, it is known where the row ends. -/
theorem Applied.unique {steps : List Step} {first second others more : List (Exchange τ)}
    (applied : Applied steps first) (again : Applied steps second)
    (same : first ++ others = second ++ more) : first = second ∧ others = more := by
  induction applied generalizing second with
  | none =>
      cases again
      exact ⟨rfl, same⟩
  | @next _ step _ block rest shows _ ih =>
      cases again with
      | @next _ _ _ other later showsToo goesOn =>
          rw [List.append_assoc, List.append_assoc] at same
          have equal : block = other := by
            rcases List.prefix_or_prefix_of_prefix (List.prefix_append block _)
              (same ▸ List.prefix_append other _) with front | front
            · exact (shows.eq_of_prefix showsToo front).1
            · exact (showsToo.eq_of_prefix shows front).1.symm
          subst equal
          obtain ⟨rfl, rfl⟩ := ih goesOn (List.append_cancel_left same)
          exact ⟨rfl, rfl⟩

omit [Timescale τ] in
/-- A row that is applied does not stop at any of its steps. -/
theorem Applied.not_stopped {done rest : List Step} {clientToken : String}
    {earlier last whole others : List (Exchange τ)}
    (applied : Applied done earlier) (unapplied : Block clientToken step last false)
    (all : Applied (done ++ step :: rest) whole) : earlier ++ last ≠ whole ++ others := by
  intro same
  obtain ⟨first, second, rfl, before, behind⟩ := all.split
  rw [List.append_assoc] at same
  obtain ⟨-, stopped⟩ := applied.unique before same
  cases behind with
  | @next _ _ _ block later shows _ =>
      rw [List.append_assoc] at stopped
      have front : block <+: last := stopped ▸ List.prefix_append block _
      cases (shows.eq_of_prefix unapplied front).2

def successes (done : List Step) : List LogRecord :=
  done.map fun step => (successEntry step).record

/-- A row of steps that stops at one of them. -/
inductive Stops (service : Service τ ω) (budget : Budget τ) (completed : List Step) :
    List Step → List (Exchange τ) → List LogRecord → Halt → Prop where
  | behind {done rest : List Step} {step : Step} {earlier last : List (Exchange τ)} {reason : Halt}
      (applied : Applied done earlier) (run : service.StepRun step budget last (.error reason)) :
      Stops service budget completed (done ++ step :: rest) (earlier ++ last)
        (successes done ++ noticed step (reported step (completed ++ done) reason))
        (reported step (completed ++ done) reason)

theorem Stops.first {completed : List Step} {reason : Halt}
    (run : service.StepRun step budget exchanges (.error reason)) (rest : List Step) :
    service.Stops budget completed (step :: rest) exchanges
      (noticed step (reported step completed reason)) (reported step completed reason) := by
  have stops : service.Stops budget completed ([] ++ step :: rest) ([] ++ exchanges)
      (successes [] ++ noticed step (reported step (completed ++ []) reason))
      (reported step (completed ++ []) reason) := .behind .none run
  rw [List.append_nil] at stops
  exact stops

/-- A step that succeeds stands in front of those that are done. -/
theorem Stops.later {clientToken : String} {completed steps : List Step}
    {others : List (Exchange τ)} {trail : List LogRecord} {halt : Halt}
    (shows : Block clientToken step exchanges true)
    (stops : service.Stops budget (completed ++ [step]) steps others trail halt) :
    service.Stops budget completed (step :: steps) (exchanges ++ others)
      ((successEntry step).record :: trail) halt := by
  cases stops with
  | @behind done rest failing earlier last reason applied run =>
      have front : completed ++ [step] ++ done = completed ++ step :: done := by
        rw [List.append_assoc, List.singleton_append]
      rw [front, ← List.append_assoc]
      exact .behind (.next shows applied) run

/-- The induction is on the steps, of which those that succeed come before the one that fails. -/
theorem StepsRun.stops {completed steps : List Step} {trail : List LogRecord} {halt : Halt}
    (run : service.StepsRun completed (steps.map fun step => (step, budget)) exchanges trail
      (.error halt)) : service.Stops budget completed steps exchanges trail halt := by
  induction steps generalizing completed exchanges trail with
  | nil => cases run
  | cons step rest ih =>
      rw [List.map_cons] at run
      generalize ended : (Except.error halt : Except Halt Unit) = result at run
      cases run with
      | stopped run =>
          cases ended
          exact .first run rest
      | next run goesOn =>
          subst ended
          obtain ⟨clientToken, shows⟩ := run.shown
          exact (ih goesOn).later shows

/-- All steps are done, and the audit trail says so of each. -/
theorem StepsRun.applies {completed steps : List Step} {trail : List LogRecord}
    (run : service.StepsRun completed (steps.map fun step => (step, budget)) exchanges trail
      (.ok ())) : Applied steps exchanges ∧ trail = successes steps := by
  induction steps generalizing completed exchanges trail with
  | nil =>
      cases run
      exact ⟨.none, rfl⟩
  | cons step rest ih =>
      rw [List.map_cons] at run
      cases run with
      | next run goesOn =>
          obtain ⟨clientToken, shows⟩ := run.shown
          obtain ⟨applied, rfl⟩ := ih goesOn
          exact ⟨.next shows applied, rfl⟩

end Stopping

/-- Steps on an instance that they hold make their calls, unless their budget cannot be shown as
pending. -/
theorem Updating.blocks {instanceId : String} {steps : List Step} {exchanges : List (Exchange τ)}
    {trail : List LogRecord} {result : Except Halt Reconciled}
    (updating : service.Updating instanceId steps budget exchanges trail result)
    (changes : steps ≠ []) :
    (∃ fault, Timescale.settled budget.timeout = .error fault ∧ exchanges = []) ∨
      Blocks (service.Announces budget) (service.ReadBack (.text instanceId)) steps exchanges := by
  cases kept : Timescale.settled budget.timeout with
  | error fault =>
      refine .inl ⟨fault, rfl, ?_⟩
      cases updating with
      | stopped run => exact (run.silent kept changes).1
      | finished run reading => cases (run.silent kept changes).2
  | ok settled =>
      refine .inr ?_
      cases updating with
      | stopped run =>
          rw [← List.append_nil exchanges]
          exact run.blocks kept nofun fun _ => rfl
      | finished run reading => exact run.blocks kept (fun _ => reading.readBack) nofun

/-- The calls of a reconciliation are blocks for its first steps, in the order of the plan.  Only
the last of them may fail to show its step, and only behind a whole plan is the instance read.
There is no call at all when the budget cannot be shown as pending. -/
theorem reconcile_calls_in_order (solitary : service.surroundings.Solitary)
    {handle : InstanceHandle} {spec : DesiredSpec} {timeout : Option τ} {steps : List Step}
    {budget : Budget τ} {before : Session τ ω} (plan : Plan.steps handle spec = .ok steps)
    (changes : steps ≠ [])
    (accepted : Budget.make (timeout.getD service.timeouts.update) service.timeouts.interval =
      .ok budget)
    (free : before.inFlight.find? (.text handle.instanceId) = none) :
    ∃ added exchanges,
      (service.reconcile handle spec timeout before).2.events = before.events ++ added ∧
      callsOf added = exchanges.map Exchange.call ∧
      answersOf added = exchanges.map Exchange.answer ∧
      (∀ step ∈ steps, step.instanceId = handle.instanceId) ∧
      ((∃ fault, Timescale.settled budget.timeout = .error fault ∧ exchanges = []) ∨
        Blocks (fun step block applied => ∃ clientToken, Block clientToken step block applied)
          (service.ReadBack (.text handle.instanceId)) steps exchanges) := by
  obtain ⟨added, exchanges, _, extended, told, reconciling⟩ :=
    reconcile_tells solitary.encloses solitary.keeps handle spec timeout before
  refine ⟨added, exchanges, extended, told.flat.1, told.flat.2, ?_, ?_⟩
  · exact fun step member => (Plan.steps_sound plan step member).1
  · obtain ⟨_, _, updating⟩ := reconciling.updating plan changes accepted free
    rcases updating.blocks changes with silent | blocks
    · exact .inl silent
    · refine .inr (blocks.imp fun step block applied announces => ?_)
      obtain ⟨drawn, _, shape, _⟩ := announces
      exact ⟨service.surroundings.token drawn, shape⟩

/-- A rename that shows only at the second poll, and a resize that fails at once. -/
theorem reconcile_calls_in_order_scripted :
    let steps : List Step := [⟨.rename, "scs-1", [("instance_name", .text "after")]⟩,
      ⟨.resizeNodeType, "scs-1", [("node_type", .text "large")]⟩]
    let before : Session Rat (List (Except Fault Value)) :=
      { world := [.ok .null, .ok (Sample.runningDetail "before" "small"),
          .ok (Sample.runningDetail "after" "small"), .error (.plain .value [])] }
    ∃ added exchanges,
      (Sample.scripted.reconcile Sample.pair Sample.grown none before).2.events =
        before.events ++ added ∧
      callsOf added = exchanges.map Exchange.call ∧
      answersOf added = exchanges.map Exchange.answer ∧
      (∀ step ∈ steps, step.instanceId = "scs-1") ∧
      ((∃ fault, Timescale.settled (1800 : Rat) = .error fault ∧ exchanges = []) ∨
        Blocks (fun step block applied => ∃ clientToken, Block clientToken step block applied)
          (Sample.scripted.ReadBack (.text "scs-1")) steps exchanges) := by
  intro steps before
  have plan : Plan.steps Sample.pair Sample.grown = .ok steps := rfl
  have accepted : Budget.make ((none : Option Rat).getD Sample.scripted.timeouts.update)
      Sample.scripted.timeouts.interval = .ok ⟨1800, 10⟩ := rfl
  have free : before.inFlight.find? (.text "scs-1") = none := rfl
  exact reconcile_calls_in_order Sample.scripted_solitary plan (List.cons_ne_nil _ _) accepted free

end Service

end CacheSteward
