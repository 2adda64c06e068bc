import CacheSteward.Proofs.Run
import CacheSteward.Remote.Wait

namespace CacheSteward

/-! What a wait asks of the control plane, and how it ends.

A wait only reads the detail of its instance.  Every poll but the last leaves the wait open.
-/

variable {τ ω : Type} {inside : Enclosure τ} [Timescale τ]

/-- Sightings after which a wait may go on. -/
def Sighting.IsOpen : Sighting → Prop
  | .stale _ => True
  | .passing _ => True
  | .transient _ => True
  | _ => False

/-- How a sighting ends its wait, if it does. -/
def Sighting.ending? : Sighting → Option (Except Fault InstanceStatus)
  | .reached status => some (.ok status)
  | .gone => some (.ok .deleted)
  | .failed fault => some (.error fault)
  | _ => none

theorem Sighting.isOpen_of_ending {sighting : Sighting} (goesOn : sighting.ending? = none) :
    sighting.IsOpen := by
  cases sighting with
  | reached status | gone | failed fault => cases goesOn
  | stale status | passing status | transient fault => trivial

namespace Wait

omit [Timescale τ] in
theorem judgeFailure_ne_reached (wait : Wait τ) (raw : Fault) (status : InstanceStatus) :
    wait.judgeFailure raw ≠ .reached status := by
  intro reached
  simp only [judgeFailure] at reached
  split at reached
  · cases reached
  · split at reached
    · cases reached
    · cases reached

omit [Timescale τ] in
theorem judgeStatus_eq_reached_iff {wait : Wait τ} {seen status : InstanceStatus}
    {detail : Value} :
    wait.judgeStatus seen detail = .reached status ↔
      seen = status ∧ status ∈ wait.target ∧ wait.passes detail = true := by
  unfold judgeStatus
  by_cases target : seen ∈ wait.target
  · cases passes : wait.passes detail with
    | true =>
        simp only [target, if_true, Sighting.reached.injEq, and_true]
        exact ⟨fun same => ⟨same, same ▸ target⟩, And.left⟩
    | false => simp [target]
  · simp only [target, if_false]
    constructor
    · intro reached
      split at reached
      · cases reached
      · cases reached
    · intro expected
      obtain ⟨rfl, member, _⟩ := expected
      exact absurd member target

omit [Timescale τ] in
theorem given_of_parsed {detail instanceId : Value} {raw : Option Value}
    {operation : Option String} {status : InstanceStatus}
    (read : Detail.get "instanceStatus" detail = .ok raw)
    (parsed : InstanceStatus.parse (raw.getD .null) instanceId operation = .ok status) :
    detail.get? "instanceStatus" = some (.text status.word) := by
  rw [(Detail.get_eq_ok_iff.mp read).2]
  exact InstanceStatus.parse_entry_eq_ok_iff.mp parsed

omit [Timescale τ] in
/-- A detail with a known status is judged by that status. -/
theorem judge_of_given (wait : Wait τ) {detail : Value} {status : InstanceStatus}
    (given : detail.get? "instanceStatus" = some (.text status.word)) :
    wait.judge (.ok detail) = wait.judgeStatus status detail := by
  cases detail with
  | mapping es =>
      have parsed : InstanceStatus.parse (.text status.word) wait.instanceId
          (some wait.kind.word) = .ok status := InstanceStatus.parse_eq_ok_iff.mpr rfl
      have found : Value.lookup "instanceStatus" es = some (.text status.word) := given
      simp only [judge, judgeDetail, Detail.get, found, Option.getD_some, parsed]
  | _ => cases given

omit [Timescale τ] in
/-- A wait reaches its end with a detail that gives a target status and passes the check. -/
theorem judge_eq_reached_iff {wait : Wait τ} {outcome : Except Fault Value}
    {status : InstanceStatus} :
    wait.judge outcome = .reached status ↔
      ∃ detail, outcome = .ok detail ∧
        detail.get? "instanceStatus" = some (.text status.word) ∧
        status ∈ wait.target ∧ wait.passes detail = true := by
  constructor
  · intro reached
    cases outcome with
    | error raw => exact absurd reached (judgeFailure_ne_reached wait raw status)
    | ok detail =>
        refine ⟨detail, rfl, ?_⟩
        simp only [judge, judgeDetail] at reached
        split at reached
        · cases reached
        · rename_i raw read
          split at reached
          · cases reached
          · rename_i seen parsed
            obtain ⟨rfl, target, passes⟩ := judgeStatus_eq_reached_iff.mp reached
            exact ⟨given_of_parsed read parsed, target, passes⟩
  · intro expected
    obtain ⟨detail, rfl, given, target, passes⟩ := expected
    rw [wait.judge_of_given given]
    exact judgeStatus_eq_reached_iff.mpr ⟨rfl, target, passes⟩

omit [Timescale τ] in
theorem goneIsTarget_of_judge_eq_gone {wait : Wait τ} {outcome : Except Fault Value}
    (gone : wait.judge outcome = .gone) : wait.goneIsTarget = true := by
  cases outcome with
  | ok detail =>
      simp only [judge, judgeDetail, judgeStatus] at gone
      repeat' split at gone
      all_goals cases gone
  | error raw =>
      simp only [judge, judgeFailure] at gone
      split at gone
      · rename_i missing
        exact missing.2
      · split at gone
        · cases gone
        · cases gone

/-- How a wait ends with its last poll. -/
def Ends (wait : Wait τ) (outcome : Except Fault Value)
    (result : Except Halt InstanceStatus) : Prop :=
  match wait.judge outcome with
  | .reached status => result = .ok status
  | .gone => result = .ok .deleted
  | .failed fault => result = .error (.fault fault)
  | _ => ∃ elapsed last, result = .error (.fault (wait.exhausted elapsed last))

theorem Ends.of_ending {wait : Wait τ} {outcome : Except Fault Value}
    {ending : Except Fault InstanceStatus}
    (ended : (wait.judge outcome).ending? = some ending) :
    wait.Ends outcome (ending.mapError .fault) := by
  unfold Ends
  cases judged : wait.judge outcome with
  | reached status | gone | failed fault =>
      rw [judged] at ended
      cases ended
      rfl
  | stale status | passing status | transient fault =>
      rw [judged] at ended
      cases ended

theorem Ends.of_exhausted {wait : Wait τ} {outcome : Except Fault Value}
    (opened : (wait.judge outcome).IsOpen) (elapsed : τ) (last : Option InstanceStatus) :
    wait.Ends outcome (.error (.fault (wait.exhausted elapsed last))) := by
  unfold Ends
  cases judged : wait.judge outcome with
  | reached status | gone | failed fault =>
      rw [judged] at opened
      exact opened.elim
  | stale status | passing status | transient fault => exact ⟨elapsed, last, rfl⟩

theorem Ends.ne_unfinished {wait : Wait τ} {outcome : Except Fault Value} :
    ¬ wait.Ends outcome (.error .unfinished) := by
  intro ended
  unfold Ends at ended
  cases judged : wait.judge outcome with
  | reached status | gone | failed fault =>
      rw [judged] at ended
      cases ended
  | stale status | passing status | transient fault =>
      rw [judged] at ended
      obtain ⟨_, _, impossible⟩ := ended
      cases impossible

/-- The polls of a wait, of which the horizon allows so many, and its result. -/
inductive Polls (wait : Wait τ) :
    Nat → List (Exchange τ) → Except Halt InstanceStatus → Prop where
  /-- The horizon is reached. -/
  | cut : Polls wait 0 [] (.error .unfinished)
  | last (pending : Option (PendingOperation τ)) {horizon : Nat} {outcome : Except Fault Value}
      {result : Except Halt InstanceStatus} (ended : wait.Ends outcome result) :
      Polls wait (horizon + 1) [⟨.getInstanceDetail wait.instanceId, pending, outcome⟩] result
  | again (pending : Option (PendingOperation τ)) {horizon : Nat} {outcome : Except Fault Value}
      {polls : List (Exchange τ)} {result : Except Halt InstanceStatus}
      (opened : (wait.judge outcome).IsOpen) (rest : Polls wait horizon polls result) :
      Polls wait (horizon + 1) (⟨.getInstanceDetail wait.instanceId, pending, outcome⟩ :: polls)
        result

namespace Polls

variable {wait : Wait τ} {horizon : Nat} {polls : List (Exchange τ)}
  {result : Except Halt InstanceStatus}

/-- Only behind as many polls as the horizon allows is a wait cut short. -/
theorem horizon_le (polled : wait.Polls horizon polls (.error .unfinished)) :
    horizon ≤ polls.length := by
  generalize cut : (Except.error Halt.unfinished : Except Halt InstanceStatus) = result at polled
  induction polled with
  | cut => exact Nat.zero_le _
  | last pending ended =>
      subst cut
      exact absurd ended Ends.ne_unfinished
  | again pending opened rest ih => exact Nat.succ_le_succ (ih cut)

/-- Only where the horizon allows none is there no poll. -/
theorem asks (polled : wait.Polls horizon polls result) : polls ≠ [] ∨ horizon = 0 := by
  cases polled with
  | cut => exact .inr rfl
  | last | again => exact .inl (List.cons_ne_nil _ _)

theorem reads (polled : wait.Polls horizon polls result) :
    ∀ poll ∈ polls, poll.call = .getInstanceDetail wait.instanceId := by
  induction polled with
  | cut => exact List.forall_mem_nil _
  | last pending ended => exact fun poll member => by rw [List.mem_singleton.mp member]
  | again pending opened rest ih =>
      intro poll member
      rcases List.mem_cons.mp member with rfl | later
      · rfl
      · exact ih poll later

/-- Every poll but the last leaves the wait open. -/
theorem early (polled : wait.Polls horizon polls result) :
    ∀ poll ∈ polls.dropLast, (wait.judge poll.outcome).IsOpen := by
  induction polled with
  | cut => exact List.forall_mem_nil _
  | last pending ended => exact List.forall_mem_nil _
  | @again pending horizon outcome polls result opened rest ih =>
      intro poll member
      cases polls with
      | nil => cases member
      | cons next others =>
          rw [List.dropLast_cons_of_ne_nil (List.cons_ne_nil _ _)] at member
          rcases List.mem_cons.mp member with rfl | later
          · exact opened
          · exact ih poll later

/-- The last poll decides, unless the wait was cut before any poll did. -/
theorem decided (polled : wait.Polls horizon polls result) :
    (result = .error .unfinished ∧ ∀ poll ∈ polls, (wait.judge poll.outcome).IsOpen) ∨
      ∃ last, polls.getLast? = some last ∧ wait.Ends last.outcome result := by
  induction polled with
  | cut => exact .inl ⟨rfl, List.forall_mem_nil _⟩
  | last pending ended => exact .inr ⟨_, rfl, ended⟩
  | again pending opened rest ih =>
      rcases ih with ⟨cut, allOpen⟩ | ⟨last, atEnd, ended⟩
      · refine .inl ⟨cut, fun poll member => ?_⟩
        rcases List.mem_cons.mp member with rfl | later
        · exact opened
        · exact allOpen poll later
      · refine .inr ⟨last, ?_, ended⟩
        rw [List.getLast?_cons, atEnd]
        rfl

end Polls

omit [Timescale τ] in
theorem record_ordinary (wait : Wait τ) (level : LogLevel) (message : String) :
    (wait.record level message).channel ≠ .audit :=
  LogChannel.noConfusion

omit [Timescale τ] in
theorem remarks_ordinary (wait : Wait τ) (polls : Nat) (last : Option InstanceStatus)
    (outcome : Except Fault Value) :
    ∀ record ∈ wait.remarks polls last outcome, record.channel ≠ .audit := by
  intro record member
  have written : ∃ level message, record = wait.record level message := by
    simp only [remarks, List.mem_append] at member
    rcases member with seen | judged
    · split at seen
      · split at seen
        · cases seen
        · exact ⟨_, _, List.mem_singleton.mp seen⟩
      · cases seen
    · split at judged
      all_goals first
        | exact ⟨_, _, List.mem_singleton.mp judged⟩
        | cases judged
  obtain ⟨level, message, rfl⟩ := written
  exact wait.record_ordinary level message

/-- One poll, and what follows on one that leaves the wait open. -/
theorem pollFrom_succ (surroundings : Surroundings τ ω) (wait : Wait τ) (start : τ)
    (horizon polls : Nat) (last : Option InstanceStatus) :
    wait.pollFrom surroundings start (horizon + 1) polls last = (do
      let outcome ← Run.remote surroundings (.getInstanceDetail wait.instanceId)
      (wait.remarks (polls + 1) last outcome).forM Run.log
      match (wait.judge outcome).ending? with
      | some ending => Run.ofExcept ending
      | none => do
          let elapsed ← Run.elapsed surroundings start
          if Timescale.atMost wait.timeout elapsed then
            Run.fail (wait.exhausted elapsed ((statusOf? outcome).or last))
          else do
            Run.sleep surroundings wait.interval
            wait.pollFrom surroundings start horizon (polls + 1)
              ((statusOf? outcome).or last)) := by
  conv => lhs; unfold pollFrom
  refine bind_congr fun outcome => bind_congr fun _ => ?_
  cases wait.judge outcome <;> rfl

/-- The induction is on the polls that the horizon still allows. -/
theorem pollFrom_tells {surroundings : Surroundings τ ω} (encloses : surroundings.Encloses inside)
    (wait : Wait τ) (start : τ) (horizon polls : Nat) (last : Option InstanceStatus)
    (before : Session τ ω) :
    (wait.pollFrom surroundings start horizon polls last).Tells inside before
      fun exchanges audits result => audits = [] ∧ wait.Polls horizon exchanges result := by
  induction horizon generalizing polls last before with
  | zero => exact .halt ⟨rfl, .cut⟩
  | succ horizon ih =>
      rw [pollFrom_succ]
      refine .afterRemote encloses fun pending outcome asked => ?_
      refine .afterQuiet (Run.logs_quiet (wait.remarks_ordinary _ _ outcome)) fun _ noted _ _ => ?_
      cases ended : (wait.judge outcome).ending? with
      | some ending =>
          have ends := Ends.of_ending ended
          cases ending with
          | ok status => exact .pure ⟨rfl, .last pending ends⟩
          | error fault => exact .fail ⟨rfl, .last pending ends⟩
      | none =>
          have opened := Sighting.isOpen_of_ending ended
          refine .afterQuiet (Run.elapsed_quiet surroundings start) fun elapsed timed _ _ => ?_
          by_cases late : Timescale.atMost wait.timeout elapsed
          · simp only [late, if_true]
            exact .fail ⟨rfl, .last pending (.of_exhausted opened elapsed _)⟩
          · simp only [late]
            refine .afterQuiet (Run.sleep_quiet surroundings _) fun _ rested _ _ => ?_
            refine (ih (polls + 1) _ rested).weaken fun xs _ result told => ?_
            obtain ⟨rfl, rest⟩ := told
            exact ⟨rfl, .again pending opened rest⟩

theorem perform_tells {surroundings : Surroundings τ ω} (encloses : surroundings.Encloses inside)
    (horizon : Nat) (wait : Wait τ) (before : Session τ ω) :
    (wait.perform surroundings horizon).Tells inside before fun exchanges audits result =>
      audits = [] ∧ wait.Polls horizon exchanges result := by
  unfold perform
  exact .afterQuiet (Run.now_quiet surroundings) fun start timed _ _ =>
    pollFrom_tells encloses wait start horizon 0 none timed

end Wait

end CacheSteward
