import CacheSteward.Proofs.Pacing
import CacheSteward.Proofs.Steps

namespace CacheSteward

/-! How a mutation and the wait behind it share one budget.

Attempts and polls pause for the same interval, but they stop by tests of their own and read the
clock on their own.  What carries over from the attempts to the polls is the time: the wait gets
what is left of the timeout, and nothing when the attempts have used it up.
-/

variable {τ ω α β : Type}

namespace Budget

/-- The least number of intervals that cover the timeout. -/
def intervals (budget : Budget Rat) : Nat := (budget.timeout / budget.interval).ceil.toNat

theorem remaining_eq (budget : Budget Rat) (elapsed : Rat) :
    budget.remaining elapsed = max 0 (budget.timeout - elapsed) := by
  by_cases negative : budget.timeout - elapsed < 0
  · rw [max_eq_left negative.le]
    exact if_pos (decide_eq_true negative)
  · rw [max_eq_right (not_lt.mp negative)]
    exact if_neg fun less => negative (of_decide_eq_true less)

theorem le_intervals {budget : Budget Rat} (spaced : 0 < budget.interval) {count : Nat}
    (early : 0 < count → count * budget.interval < budget.timeout + budget.interval) :
    count ≤ budget.intervals := by
  cases count with
  | zero => exact Nat.zero_le _
  | succ count =>
      have inside := early (Nat.succ_pos count)
      push_cast at inside
      have below : (count : Rat) < budget.timeout / budget.interval := by
        rw [lt_div_iff₀ spaced]
        linarith
      have counted : (count : Int) < (budget.timeout / budget.interval).ceil :=
        Rat.lt_ceil_iff.mpr (by exact_mod_cast below)
      unfold intervals
      omega

end Budget

/-- What a mutation and the wait behind it spend together of one budget, from a reading of the clock
on: no more pauses than intervals cover the timeout, and at most two calls more than pauses.  A wait
that runs out of time does so no earlier than the timeout. -/
structure SharesBudget (budget : Budget Rat) (clock : ω → Rat) (start : Rat) (horizon : Nat)
    (deeds : List (Deed Rat)) (result : Except Halt α) (world : ω) : Prop where
  pauses : ∃ count ≤ budget.intervals,
    deeds.filterMap Deed.span? = List.replicate count budget.interval
  calls : (deeds.filterMap Deed.call?).length ≤ budget.intervals + 2
  finished : budget.intervals < horizon → result ≠ .error .unfinished
  patient : ∀ fault, result = .error (.fault fault) → fault.IsBareTimeout →
    Relayed deeds ∨ start + budget.timeout ≤ clock world

namespace SharesBudget

variable {budget : Budget Rat} {clock : ω → Rat} {start : Rat} {horizon : Nat}
  {deeds more : List (Deed Rat)} {result : Except Halt α} {middle world : ω}

theorem refused {fault : Fault} (other : ¬ fault.IsBareTimeout) :
    SharesBudget (α := α) budget clock start horizon [] (.error (.fault fault)) world where
  pauses := ⟨0, Nat.zero_le _, rfl⟩
  calls := Nat.zero_le _
  finished _ := nofun
  patient _ same bare := by
    cases same
    exact absurd bare other

/-- Attempts that end the mutation. -/
theorem of_tried (spaced : 0 < budget.interval)
    (tried : Tried budget.interval (start + budget.timeout) clock start deeds result world) :
    SharesBudget budget clock start horizon deeds result world := by
  obtain ⟨⟨pauses, spent⟩, finished, relayed⟩ := tried
  have few : pauses ≤ budget.intervals :=
    Budget.le_intervals spaced fun some => by linarith [spent.early some]
  refine ⟨⟨pauses, few, spent.slept⟩, ?_, fun _ => finished, fun fault same bare => ?_⟩
  · have asked := spent.asked
    omega
  · exact .inl (relayed fault same bare)

/-- The wait begins where the pauses of the attempts end. -/
theorem of_waited {tries : Nat} (spaced : 0 < budget.interval)
    (spent : Spent budget.interval (start + budget.timeout) clock start tries deeds middle)
    (waited : Waited budget.interval (start + budget.timeout) clock
      (start + tries * budget.interval) horizon more result world) :
    SharesBudget budget clock start horizon (deeds ++ more) result world := by
  obtain ⟨⟨polls, further, cut⟩, patient⟩ := waited
  have few : tries + polls ≤ budget.intervals := by
    -- The wait is counted from where the pauses of the attempts end: one limit bounds both.
    refine Budget.le_intervals spaced fun some => ?_
    push_cast
    rcases Nat.eq_zero_or_pos polls with rfl | polled
    · have inTime := spent.early some
      push_cast
      linarith
    · have inTime := further.early polled
      linarith
  refine ⟨⟨tries + polls, few, ?_⟩, ?_, fun within same => ?_, fun fault same bare => ?_⟩
  · rw [List.filterMap_append, spent.slept, further.slept, List.replicate_append_replicate]
  · have asked := spent.asked
    have polled := further.asked
    rw [List.filterMap_append, List.length_append]
    omega
  · have reached := cut same
    omega
  · exact (patient fault same bare).imp_left fun relayed =>
      relayed.mono (List.subset_append_right _ _)

/-- A success may give another result, in another world. -/
theorem ok {a : α} (shares : SharesBudget budget clock start horizon deeds (.ok a) middle) (b : β)
    (world : ω) : SharesBudget budget clock start horizon deeds (.ok b) world :=
  ⟨shares.pauses, shares.calls, fun _ => nofun, nofun⟩

theorem error {halt : Halt}
    (shares : SharesBudget (α := α) budget clock start horizon deeds (.error halt) world) :
    SharesBudget (α := β) budget clock start horizon deeds (.error halt) world where
  pauses := shares.pauses
  calls := shares.calls
  finished within same := by
    cases same
    exact shares.finished within rfl
  patient fault same bare := by
    cases same
    exact shares.patient fault rfl bare

theorem map (f : α → β) (shares : SharesBudget budget clock start horizon deeds result world) :
    SharesBudget budget clock start horizon deeds (result.map f) world := by
  cases result with
  | ok a => exact shares.ok (f a) world
  | error halt => exact shares.error

end SharesBudget

/-! ### Steps and claims that fail at once -/

theorem Step.raw_of_map_param {step : Step} {name : String} {f : Value → α} {fault : Fault}
    (failed : (step.param name).map f = .error fault) : fault.isKnown = false := by
  unfold param at failed
  split at failed
  · cases failed
  · cases failed
    rfl

theorem Step.raw_of_appliedCheck {step : Step} {fault : Fault}
    (failed : step.appliedCheck = .error fault) : fault.isKnown = false := by
  unfold appliedCheck at failed
  split at failed
  · cases failed
    rfl
  · exact raw_of_map_param failed

theorem Service.raw_of_callOf {step : Step} {clientToken : String} {fault : Fault}
    (failed : callOf step clientToken = .error fault) : fault.isKnown = false := by
  unfold callOf at failed
  split at failed
  · exact Step.raw_of_map_param failed
  · exact Step.raw_of_map_param failed
  · exact Step.raw_of_map_param failed
  · cases failed
    rfl

theorem Unclaimed.not_bare {table : InFlight τ} {instanceId : Value} {fault : Fault}
    (refused : Unclaimed table instanceId fault) : ¬ fault.IsBareTimeout := by
  intro bare
  obtain ⟨_, _, _, same⟩ := bare
  cases refused <;> cases same

/-! ### A sample -/

namespace Sample

/-- A control plane that loses the first call, accepts the second one and then releases forever. -/
def releasing : Service Rat (Nat × Rat) where
  surroundings := .playing
    (fun
      | 0 => .error (.plain .connection [])
      | 1 => .ok .null
      | _ => .ok (.fields [("instanceStatus", .text "Deleting")]))
    Prod.snd
  timeouts := ⟨25, 25, 25, 25, 10⟩
  horizon := 4

theorem releasing_solitary : releasing.surroundings.Solitary := fun _ _ => ⟨_, rfl⟩

theorem releasing_runs : releasing.surroundings.RunsOn Prod.snd := by
  refine ⟨fun _ => le_rfl, fun _ => le_rfl, fun _ _ => le_rfl, ?_⟩
  intro call world outcome after answers
  obtain ⟨session, rfl, answered⟩ := answers
  cases answered
  exact le_rfl

end Sample

/-! ### Operations -/

namespace Service

section Sharing

variable {service : Service Rat ω} {clock : ω → Rat} {budget : Budget Rat} {start since : Rat}
  {before : Session Rat ω}

/-- However much is left of the budget, the wait is over when the budget is. -/
theorem await_waits (solitary : service.surroundings.Solitary)
    (runs : service.surroundings.RunsOn clock) (spaced : 0 < budget.interval)
    {wait : Rat → Wait Rat} (limited : ∀ rest, (wait rest).timeout = rest)
    (paced : ∀ rest, (wait rest).interval = budget.interval)
    (reached : since ≤ clock before.world) :
    (service.await start budget wait).Does before
      (Waited budget.interval (start + budget.timeout) clock since service.horizon) := by
  unfold await remaining
  rw [bind_assoc]
  refine .afterElapsed fun timed read => ?_
  rw [pure_bind]
  have shown := reached.trans (runs.reached before.world)
  have reading := runs.reading before.world
  rw [← read] at reading
  generalize (service.surroundings.now before.world).1 = now at shown reading
  have shape := budget.remaining_eq (now - start)
  refine ((wait _).perform_waits solitary runs service.horizon reading).weaken
    fun deeds result world waited => ?_
  rw [limited, paced] at waited
  obtain ⟨⟨pauses, spent, cut⟩, patient⟩ := waited
  have enough : budget.timeout - (now - start) ≤ budget.remaining (Timescale.minus now start) :=
    shape ▸ le_max_right _ _
  have clamped : budget.remaining (Timescale.minus now start) = 0 ∨
      budget.remaining (Timescale.minus now start) = budget.timeout - (now - start) :=
    shape ▸ max_choice _ _
  refine ⟨⟨pauses, ⟨spent.slept, spent.asked, ?_, fun some => ?_⟩, cut⟩, fun fault same bare => ?_⟩
  · linarith [spent.passed]
  · have inTime := spent.early some
    rcases clamped with nothing | something
    -- With nothing left there is no pause: the first one would end behind the limit.
    · have whole : budget.interval ≤ pauses * budget.interval :=
        le_mul_of_one_le_left spaced.le (by exact_mod_cast some)
      linarith
    · linarith
  · exact (patient fault same bare).imp_right fun due => by linarith

theorem mutate_shares (solitary : service.surroundings.Solitary)
    (runs : service.surroundings.RunsOn clock) {action : Action Rat}
    (spaced : 0 < action.budget.interval) (call : RemoteCall)
    {await : Rat → Run Rat ω InstanceStatus}
    (awaits : ∀ start since session, since ≤ clock session.world → (await start).Does session
      (Waited action.budget.interval (start + action.budget.timeout) clock since
        service.horizon)) (before : Session Rat ω) :
    (service.mutate action call await).Does before
      (SharesBudget action.budget clock (service.surroundings.now before.world).1
        service.horizon) := by
  unfold mutate
  refine .afterNow fun timed read => ?_
  have reading := runs.reading before.world
  rw [← read] at reading
  rw [Run.discard_eq, bind_assoc]
  refine .bind (action.perform_tries solitary runs call reading) ?_ ?_
  · exact fun halt deeds world tried => (SharesBudget.of_tried spaced tried).error
  · intro value deeds after tried
    rw [pure_bind]
    obtain ⟨⟨tries, spent⟩, _, _⟩ := tried
    exact (awaits _ _ after spent.passed).weaken fun more result world waited =>
      .of_waited spaced spent waited

/-- On this scale every budget can be kept while an operation is pending. -/
theorem afterAnnounce {kind : OperationKind} {instanceId : Value} {clientToken : String}
    {run : Run Rat ω α} {whole : List (Deed Rat) → Except Halt α → ω → Prop}
    (goesOn : ∀ after, after.world = before.world → run.Does after whole) :
    (announce kind instanceId clientToken budget >>= fun _ => run).Does before whole := by
  unfold announce
  rw [bind_assoc]
  exact .afterExcept nofun fun _ _ => .afterSetPending goesOn

theorem awaitApplied_waits (solitary : service.surroundings.Solitary)
    (runs : service.surroundings.RunsOn clock) (spaced : 0 < budget.interval) (step : Step)
    (start : Rat) (reached : since ≤ clock before.world) :
    (service.awaitApplied step start budget).Does before
      (Waited budget.interval (start + budget.timeout) clock since service.horizon) := by
  unfold awaitApplied
  refine .afterExcept (fun fault failed => ?_) fun check _ =>
    await_waits solitary runs spaced (fun _ => rfl) (fun _ => rfl) reached
  refine ⟨⟨0, .none reached, nofun⟩, fun _ same bare => ?_⟩
  cases same
  exact absurd bare (Fault.not_bare_of_raw (Step.raw_of_appliedCheck failed))

theorem runStep_shares (solitary : service.surroundings.Solitary)
    (runs : service.surroundings.RunsOn clock) (spaced : 0 < budget.interval) (step : Step)
    (before : Session Rat ω) :
    (service.runStep step budget).Does before
      (SharesBudget budget clock (service.surroundings.now before.world).1 service.horizon) := by
  unfold runStep
  refine .afterDraw fun drawn drawnSame => ?_
  refine .afterExcept (fun fault failed => ?_) fun call _ => ?_
  · exact .refused (Fault.not_bare_of_raw (raw_of_callOf failed))
  · refine afterAnnounce fun pending pendingSame => .afterLog fun logged loggedSame => ?_
    rw [← drawnSame, ← pendingSame, ← loggedSame]
    exact .followedBy (fun _ => rfl) (fun _ => rfl) (mutate_shares solitary runs spaced call
      (fun start _ session reached =>
        awaitApplied_waits solitary runs spaced step start reached) logged)

theorem delete_shares (solitary : service.surroundings.Solitary)
    (runs : service.surroundings.RunsOn clock) (spaced : 0 < budget.interval)
    (instanceId : Value) {timeout : Option Rat}
    (accepted : service.timeouts.budget .delete timeout = .ok budget) (before : Session Rat ω) :
    (service.delete instanceId timeout).Does before
      (SharesBudget budget clock (service.surroundings.now before.world).1 service.horizon) := by
  unfold delete deleteAndWait
  rw [accepted]
  refine .afterExcept nofun fun _ same => .afterDraw fun drawn drawnSame => ?_
  cases same
  refine .afterLog fun audited auditedSame => ?_
  rw [← drawnSame, ← auditedSame]
  refine .bind (.noticing (.claiming (fun fault refused => ?_) fun held heldSame => ?_))
    (fun _ _ _ shares => shares) fun status deeds after shares => ?_
  · exact .refused refused.not_bare
  · refine afterAnnounce fun pending pendingSame => ?_
    rw [← heldSame, ← pendingSame]
    exact mutate_shares solitary runs spaced _ (fun start _ session reached =>
      await_waits solitary runs spaced (fun _ => rfl) (fun _ => rfl) reached) pending
  · refine .afterLog fun _ _ => .afterLog fun _ _ => .pure ?_
    rw [List.append_nil]
    exact shares.ok status _

/-- Creates an instance and waits until it runs; its id. -/
def createReady (service : Service Rat ω) (spec : DesiredSpec) (budget : Budget Rat)
    (clientToken : String) (start : Rat) : Run Rat ω Value := do
  let instanceId ← (createAction budget clientToken).perform service.surroundings
    (Run.remote service.surroundings (.createInstance spec.createArgs clientToken))
  unless instanceId.isGiven do
    Run.fail (.remoteOperation "Create returned no instance id" (some OperationKind.create.word)
      .null none)
  Run.claiming instanceId do
    announce .create instanceId clientToken budget
    discard (service.await start budget (createdWait instanceId budget))
  return instanceId

theorem createAndWait_eq (service : Service Rat ω) (spec : DesiredSpec) (budget : Budget Rat)
    (clientToken : String) (start : Rat) :
    service.createAndWait spec budget clientToken start = (do
      let instanceId ← service.createReady spec budget clientToken start
      return (instanceId, ← service.readExisting instanceId .create)) := by
  unfold createAndWait createReady
  rw [bind_assoc]
  refine bind_congr fun instanceId => ?_
  split <;> simp only [bind_assoc, pure_bind]

theorem createReady_shares (solitary : service.surroundings.Solitary)
    (runs : service.surroundings.RunsOn clock) (spaced : 0 < budget.interval)
    (spec : DesiredSpec) (clientToken : String) (reached : start ≤ clock before.world) :
    (service.createReady spec budget clientToken start).Does before
      (SharesBudget budget clock start service.horizon) := by
  unfold createReady
  refine .bind ((createAction budget clientToken).perform_tries solitary runs _ reached) ?_ ?_
  · exact fun halt deeds world tried => (SharesBudget.of_tried spaced tried).error
  · intro instanceId deeds after tried
    have fails : ∀ {γ : Type} {fault : Fault}, ¬ fault.IsBareTimeout →
        SharesBudget (α := γ) budget clock start service.horizon (deeds ++ [])
          (.error (.fault fault)) after.world := by
      intro γ fault other
      rw [List.append_nil]
      exact .of_tried spaced (tried.fails other)
    cases given : instanceId.isGiven with
    | false =>
        refine .fail (fails fun bare => ?_)
        obtain ⟨_, _, _, same⟩ := bare
        cases same
    | true =>
        refine .bind (.claiming (fun fault refused => fails refused.not_bare)
          fun held heldSame => afterAnnounce fun pending pendingSame => .discard ?_)
          (fun _ _ _ => SharesBudget.error) fun _ more settled shares => .pure ?_
        · obtain ⟨⟨tries, spent⟩, _, _⟩ := tried
          have passed := spent.passed
          rw [← heldSame, ← pendingSame] at passed
          exact (await_waits solitary runs spaced (fun _ => rfl) (fun _ => rfl) passed).weaken
            fun more result world waited => (SharesBudget.of_waited spaced spent waited).map _
        · rw [List.append_nil]
          exact shares.ok instanceId _

/-- One step, one deletion, and a creation up to the end of its wait spend one budget, however long
the calls take: the pauses of both loops together are no more than intervals cover the timeout, the
calls at most two more, and a horizon beyond that is never reached.  A wait that runs out of time
does not do so before the timeout has passed since the start. -/
theorem mutations_share_budget (solitary : service.surroundings.Solitary)
    (runs : service.surroundings.RunsOn clock) (spaced : 0 < budget.interval) :
    (∀ step before, (service.runStep step budget).Does before
      (SharesBudget budget clock (service.surroundings.now before.world).1 service.horizon)) ∧
    (∀ instanceId timeout before, service.timeouts.budget .delete timeout = .ok budget →
      (service.delete instanceId timeout).Does before
        (SharesBudget budget clock (service.surroundings.now before.world).1 service.horizon)) ∧
    ∀ spec clientToken start,
      service.createAndWait spec budget clientToken start = (do
        let instanceId ← service.createReady spec budget clientToken start
        return (instanceId, ← service.readExisting instanceId .create)) ∧
      ∀ before : Session Rat ω, start ≤ clock before.world →
        (service.createReady spec budget clientToken start).Does before
          (SharesBudget budget clock start service.horizon) := by
  refine ⟨runStep_shares solitary runs spaced, fun instanceId timeout before accepted => ?_,
    fun spec clientToken start => ⟨createAndWait_eq service spec budget clientToken start, ?_⟩⟩
  · exact delete_shares solitary runs spaced instanceId accepted before
  · exact fun before reached => createReady_shares solitary runs spaced spec clientToken reached

/-- With three pauses the timeout of twenty-five seconds is over, one between the attempts and two
between the polls. -/
theorem mutations_share_budget_releasing :
    let before : Session Rat (Nat × Rat) := { world := (0, 0) }
    let after := Sample.releasing.delete (.text "scs-1") none before
    ∃ added, after.2.events = before.events ++ added ∧
      SharesBudget ⟨25, 10⟩ Prod.snd 0 4 (deedsOf added) after.1 after.2.world ∧
      (Budget.mk (25 : Rat) 10).intervals = 3 ∧ (callsOf added).length = 5 ∧
      (after.1 matches .error (.fault (.known (.operationTimeout _) _ _ none))) ∧
      after.2.world = (5, 30) := by
  intro before after
  obtain ⟨_, deletes, _⟩ := @mutations_share_budget _ Sample.releasing Prod.snd ⟨25, 10⟩
    Sample.releasing_solitary Sample.releasing_runs (by decide)
  obtain ⟨added, extended, called, shares⟩ := deletes (.text "scs-1") none before rfl
  have calls : (callsOf after.2.events).length = 5 := by decide +kernel
  refine ⟨added, extended, shares, by decide +kernel, ?_, by decide +kernel, by decide +kernel⟩
  rw [← calls]
  exact congrArg (fun events => (callsOf events).length) extended.symm

end Sharing

end Service

end CacheSteward
