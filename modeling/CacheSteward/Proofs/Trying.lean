import CacheSteward.Proofs.Attempts
import CacheSteward.Proofs.Playback
import CacheSteward.Timescale.Exact
import Mathlib.Algebra.Order.Field.Rat
import Mathlib.Data.ENat.Lattice
import Mathlib.Tactic.NormNum
import Mathlib.Tactic.Ring

namespace CacheSteward

/-! How an action ends, attempt by attempt.

An action stops at the first outcome that is not retried.  Two bounds limit the attempts before:
their number, and the time at which another one would start.  On a clock that only sleeping moves
the two are the same bound.
-/

variable {τ ω : Type}

namespace Surroundings

/-- A clock that only sleeping moves, by exactly what was slept. -/
structure TicksBySleep (surroundings : Surroundings Rat ω) (clock : ω → Rat) : Prop where
  shows : ∀ world, (surroundings.now world).1 = clock world
  reading : ∀ world, clock (surroundings.now world).2 = clock world
  sleeping : ∀ span world, clock (surroundings.sleep span world) = clock world + span
  answering : ∀ call world outcome after,
    surroundings.Answers call world outcome after → clock after = clock world

end Surroundings

/-- The times at which calls start on a clock that only sleeping moves. -/
def startsFrom (elapsed : Rat) : List (Deed Rat) → List Rat
  | [] => []
  | .asked _ _ :: rest => elapsed :: startsFrom elapsed rest
  | .slept span :: rest => startsFrom (elapsed + span) rest

theorem startsFrom_paced (call : RemoteCall) (outcomes : Nat → Except Fault Value) (span : Rat)
    (first count : Nat) (elapsed : Rat) :
    startsFrom elapsed (paced call outcomes span first count) =
      (List.range count).map fun index : Nat => elapsed + index * span := by
  induction count generalizing first elapsed with
  | zero => rfl
  | succ count ih =>
      rw [List.range_succ_eq_map, List.map_cons, List.map_map]
      cases count with
      | zero => simp [paced, startsFrom]
      | succ count =>
          rw [paced_succ call outcomes span first (Nat.succ_pos count), startsFrom, startsFrom, ih]
          congr 1
          · simp
          · refine List.map_congr_left fun index _ => ?_
            simp only [Function.comp_apply, Nat.succ_eq_add_one, Nat.cast_add, Nat.cast_one]
            ring

namespace Action

/-- The outcomes of an attempt that decide an action, and how. -/
inductive Decides (action : Action τ) : Except Fault Value → Except Fault Value → Prop where
  | answered (answer : Value) : Decides action (.ok answer) (.ok answer)
  | counted {raw : Fault}
      (resolved : (raw.disposition action.kind).resolve action.kind = .success) :
      Decides action (.error raw) (.ok .null)
  | failed {raw : Fault} (resolved : (raw.disposition action.kind).resolve action.kind = .fail) :
      Decides action (.error raw)
        (.error (raw.recast (raw.disposition action.kind) action.kind action.instanceId))

/-- The outcomes after which another attempt may follow, with the failure as it is reported. -/
inductive Retries (action : Action τ) : Except Fault Value → Fault → Prop where
  | retried {raw : Fault} (resolved : (raw.disposition action.kind).resolve action.kind = .retry) :
      Retries action (.error raw)
        (raw.recast (raw.disposition action.kind) action.kind action.instanceId)

/-- The fault of an action whose time was over when its last attempt failed.  It shows how much time
had gone by, and the failure of that attempt is its cause. -/
def OutOfTime [Timescale τ] (action : Action τ) (elapsed : τ) (cause fault : Fault) : Prop :=
  fault = .known (.operationTimeout (Timescale.value elapsed))
    (action.kind.word ++ " did not succeed within " ++
      Timescale.wholeText action.budget.timeout ++ " seconds")
    (("operation", .text action.kind.word) ::
      (if action.instanceId.isGiven then [("instance_id", action.instanceId)] else []) ++
      [("elapsed_seconds", Timescale.roundedValue elapsed)])
    (some cause)

theorem outOfTime_exhausted [Timescale τ] (action : Action τ) (elapsed : τ) (cause : Fault) :
    action.OutOfTime elapsed cause (action.exhausted elapsed cause) := by
  rw [OutOfTime, exhausted, Fault.operationTimeout, Fault.operationDetails_word, List.append_nil]

theorem decides_or_retries (action : Action τ) (outcome : Except Fault Value) :
    (∃ ending, action.Decides outcome ending) ∨ ∃ cause, action.Retries outcome cause := by
  cases outcome with
  | ok answer => exact .inl ⟨_, .answered answer⟩
  | error raw =>
      cases resolved : (raw.disposition action.kind).resolve action.kind with
      | success => exact .inl ⟨_, .counted resolved⟩
      | fail => exact .inl ⟨_, .failed resolved⟩
      | retry => exact .inr ⟨_, .retried resolved⟩

theorem attemptEnd_of_decides {action : Action τ} {outcome ending : Except Fault Value}
    (decides : action.Decides outcome ending) :
    action.attemptEnd outcome = (ending.mapError Halt.fault).map Except.ok := by
  cases decides with
  | answered answer => rfl
  | counted resolved | failed resolved =>
      simp only [attemptEnd, judge, resolved, Except.mapError, Except.map]

theorem attemptEnd_of_retries {action : Action τ} {outcome : Except Fault Value} {cause : Fault}
    (retries : action.Retries outcome cause) : action.attemptEnd outcome = .ok (.error cause) := by
  cases retries with
  | retried resolved => simp only [attemptEnd, judge, resolved]

theorem Retries.not_decides {action : Action τ} {outcome : Except Fault Value} {cause : Fault}
    (retries : action.Retries outcome cause) (ending : Except Fault Value) :
    ¬ action.Decides outcome ending := by
  intro decides
  have same := attemptEnd_of_decides decides
  rw [attemptEnd_of_retries retries] at same
  cases ending <;> cases same

section Does

variable {surroundings : Surroundings τ ω} {made : ω → Nat} {outcomes : Nat → Except Fault Value}

/-- An attempt is one call, whatever its outcome. -/
theorem attempt_asks (solitary : surroundings.Solitary) (call : RemoteCall) (action : Action τ)
    (attempts : Nat) (before : Session τ ω) :
    (action.attempt (Run.remote surroundings call) attempts).Does before fun deeds result world =>
      ∃ outcome, deeds = [.asked call outcome] ∧
        surroundings.Answers call before.world outcome world ∧
        result = action.attemptEnd outcome := by
  unfold attempt
  refine .afterCall solitary fun outcome after answers => .afterLogs fun noted same => ?_
  rw [← same] at answers
  cases judged : action.judge outcome with
  | done value =>
      have ended : (.ok (.ok value) : Except Halt _) = action.attemptEnd outcome := by
        simp only [attemptEnd, judged]
      by_cases repeated : attempts > 0
      · simp only [repeated, if_true]
        refine .afterLog fun logged kept => ?_
        rw [← kept] at answers
        exact .pure ⟨outcome, rfl, answers, ended⟩
      · simp only [repeated, if_false]
        exact .pure ⟨outcome, rfl, answers, ended⟩
  | fatal fault =>
      refine .afterLog fun logged kept => ?_
      rw [← kept] at answers
      exact .fail ⟨outcome, rfl, answers, by simp only [attemptEnd, judged]⟩
  | retryable cause =>
      exact .pure ⟨outcome, rfl, answers, by simp only [attemptEnd, judged]⟩

theorem attempt_does (plays : surroundings.Plays made outcomes) (call : RemoteCall)
    (action : Action τ) (attempts : Nat) (before : Session τ ω) :
    (action.attempt (Run.remote surroundings call) attempts).Does before fun deeds result world =>
      let outcome := outcomes (made before.world)
      deeds = [.asked call outcome] ∧ surroundings.Answers call before.world outcome world ∧
        made world = made before.world + 1 ∧ result = action.attemptEnd outcome := by
  refine (attempt_asks plays.solitary call action attempts before).weaken
    fun deeds result world asked => ?_
  obtain ⟨outcome, rfl, answers, ended⟩ := asked
  obtain ⟨rfl, counted⟩ := plays.next answers
  exact ⟨rfl, answers, counted, ended⟩

/-- One attempt, and whatever follows one that is retried. -/
theorem attempt_then_does (plays : surroundings.Plays made outcomes) (call : RemoteCall)
    (action : Action τ) (attempts : Nat) {before : Session τ ω}
    {next : Except Fault Value → Run τ ω Value}
    {whole : List (Deed τ) → Except Halt Value → ω → Prop}
    (returns : ∀ value, next (.ok value) = pure value)
    (decided : ∀ ending world, action.Decides (outcomes (made before.world)) ending →
      whole [.asked call (outcomes (made before.world))] (ending.mapError .fault) world)
    (goesOn : ∀ cause after, action.Retries (outcomes (made before.world)) cause →
      surroundings.Answers call before.world (outcomes (made before.world)) after.world →
      made after.world = made before.world + 1 →
      (next (.error cause)).Does after fun deeds result world =>
        whole (.asked call (outcomes (made before.world)) :: deeds) result world) :
    (action.attempt (Run.remote surroundings call) attempts >>= next).Does before whole := by
  refine .bind (attempt_does plays call action attempts before) ?_ ?_
  · intro halt deeds world attempted
    obtain ⟨rfl, _, _, ended⟩ := attempted
    rcases action.decides_or_retries (outcomes (made before.world)) with
      ⟨ending, decides⟩ | ⟨cause, retries⟩
    · rw [attemptEnd_of_decides decides] at ended
      have holds := decided ending world decides
      cases ending with
      | ok value => cases ended
      | error fault =>
          cases ended
          exact holds
    · rw [attemptEnd_of_retries retries] at ended
      cases ended
  · intro result deeds after attempted
    obtain ⟨rfl, answers, counted, ended⟩ := attempted
    rcases action.decides_or_retries (outcomes (made before.world)) with
      ⟨ending, decides⟩ | ⟨cause, retries⟩
    · rw [attemptEnd_of_decides decides] at ended
      have holds := decided ending after.world decides
      cases ending with
      | ok value =>
          cases ended
          rw [returns]
          exact .pure holds
      | error fault => cases ended
    · rw [attemptEnd_of_retries retries] at ended
      cases ended
      exact goesOn cause after retries answers counted

end Does

/-! ### On a clock that only sleeping moves -/

variable {surroundings : Surroundings Rat ω} {made : ω → Nat} {clock : ω → Rat}
  {outcomes : Nat → Except Fault Value}

theorem giveUp_does {α : Type} (action : Action Rat) (attempts : Nat) (elapsed : Rat)
    (cause : Fault) (before : Session Rat ω) :
    (action.giveUp attempts elapsed cause : Run Rat ω α).Does before fun deeds result _ =>
      deeds = [] ∧ result = .error (.fault (action.exhausted elapsed cause)) := by
  unfold giveUp
  exact .afterExcept nofun fun _ _ => .afterLog fun _ _ => .fail ⟨rfl, rfl⟩

theorem pause_does (surroundings : Surroundings Rat ω) (action : Action Rat) (attempts : Nat)
    (cause : Fault) (before : Session Rat ω) :
    (action.pause surroundings attempts cause).Does before fun deeds result world =>
      deeds = [.slept action.budget.interval] ∧ result = .ok () ∧
        world = surroundings.sleep action.budget.interval before.world := by
  unfold pause
  refine .afterExcept nofun fun _ _ => .afterLog fun logged kept => ?_
  rw [← bind_pure (Run.sleep surroundings action.budget.interval)]
  refine .afterSleep fun rested slept => .pure ⟨rfl, rfl, ?_⟩
  rw [slept, kept]

theorem attempts_le_iff {timeout interval : Rat} (spaced : 0 < interval) (attempts : Nat) :
    max 1 (timeout / interval).ceil.toNat ≤ attempts + 1 ↔
      timeout ≤ (attempts + 1 : Nat) * interval := by
  have counted : (timeout / interval).ceil ≤ ((attempts + 1 : Nat) : Int) ↔
      timeout / interval ≤ ((attempts + 1 : Nat) : Rat) := by
    rw [← Int.not_lt, Rat.lt_ceil_iff, not_lt]
    rfl
  rw [max_le_iff, Int.toNat_le, counted, div_le_iff₀ spaced]
  exact and_iff_right (Nat.le_add_left 1 attempts)

/-- The two bounds agree: another attempt would start too late just when there is none left. -/
theorem isOver_iff {action : Action Rat} {most : Nat} (spaced : 0 < action.budget.interval)
    (limit : action.budget.maxAttempts = .ok most) (attempts : Nat) :
    action.isOver (attempts * action.budget.interval) = true ↔ most ≤ attempts + 1 := by
  cases limit
  rw [attempts_le_iff spaced, Nat.cast_succ, add_one_mul]
  exact decide_eq_true_iff

/-- How the attempts from one on end when so many may follow it: `ahead` more are made. -/
structure Course (action : Action Rat) (call : RemoteCall) (outcomes : Nat → Except Fault Value)
    (first left ahead : Nat) (deeds : List (Deed Rat)) (result : Except Halt Value) : Prop where
  within : ahead ≤ left
  early : ∀ index < ahead, ∃ cause, action.Retries (outcomes (first + index)) cause
  paces : deeds = paced call outcomes action.budget.interval first (ahead + 1)
  ends : (∃ ending, action.Decides (outcomes (first + ahead)) ending ∧
      result = ending.mapError .fault) ∨
    ahead = left ∧ ∃ cause, action.Retries (outcomes (first + ahead)) cause ∧
      result = .error (.fault (action.exhausted
        ((first + ahead : Nat) * action.budget.interval) cause))

/-- A retried attempt in front. -/
theorem Course.retried {action : Action Rat} {call : RemoteCall} {first left ahead : Nat}
    {deeds : List (Deed Rat)} {result : Except Halt Value} {cause : Fault}
    (retries : action.Retries (outcomes first) cause)
    (rest : action.Course call outcomes (first + 1) left ahead deeds result) :
    action.Course call outcomes first (left + 1) (ahead + 1)
      (.asked call (outcomes first) :: .slept action.budget.interval :: deeds) result := by
  have shift : ∀ index, first + 1 + index = first + (index + 1) := fun index => by omega
  refine ⟨Nat.succ_le_succ rest.within, fun index before => ?_, ?_, ?_⟩
  · cases index with
    | zero => exact ⟨cause, retries⟩
    | succ index =>
        rw [← shift]
        exact rest.early index (Nat.lt_of_succ_lt_succ before)
  · rw [paced_succ _ _ _ _ (Nat.succ_pos ahead), rest.paces]
  · rw [← shift, Nat.add_right_cancel_iff]
    exact rest.ends

/-- The induction is on the attempts that may still follow. -/
theorem tryFrom_does (plays : surroundings.Plays made outcomes)
    (ticks : surroundings.TicksBySleep clock) {action : Action Rat} (call : RemoteCall)
    (spaced : 0 < action.budget.interval) {most : Nat}
    (limit : action.budget.maxAttempts = .ok most) (start : Rat) {attempts left : Nat}
    (bounded : attempts + left + 1 = most) {before : Session Rat ω}
    (counted : made before.world = attempts)
    (timed : clock before.world = start + attempts * action.budget.interval) :
    (action.tryFrom surroundings (Run.remote surroundings call) start action.budget.maxAttempts
      attempts left).Does before fun deeds result _ =>
        ∃ ahead, action.Course call outcomes attempts left ahead deeds result := by
  have decided : ∀ {attempts left : Nat} {before : Session Rat ω} ending,
      made before.world = attempts → action.Decides (outcomes (made before.world)) ending →
      ∃ ahead, action.Course call outcomes attempts left ahead
        [.asked call (outcomes (made before.world))] (ending.mapError .fault) := by
    intro attempts left before ending counted decides
    rw [counted] at decides ⊢
    exact ⟨0, Nat.zero_le _, fun _ before => absurd before (Nat.not_lt_zero _), rfl,
      .inl ⟨ending, decides, rfl⟩⟩
  have passed : ∀ {attempts : Nat} {before after : Session Rat ω} {outcome : Except Fault Value},
      clock before.world = start + attempts * action.budget.interval →
      surroundings.Answers call before.world outcome after.world →
      Timescale.minus (surroundings.now after.world).1 start =
        attempts * action.budget.interval := by
    intro attempts before after outcome timed answers
    rw [ticks.shows, ticks.answering _ _ _ _ answers, timed]
    exact add_sub_cancel_left start _
  induction left generalizing attempts before with
  | zero =>
      unfold tryFrom
      refine attempt_then_does plays call action attempts (fun _ => rfl)
        (fun ending _ => decided ending counted) fun cause after retries answers _ => ?_
      refine .afterElapsed fun read _ => ?_
      rw [limit, passed timed answers]
      refine .afterCheck (fun _ failed => by cases failed)
        ((giveUp_does action _ _ cause read).weaken fun _ _ _ told => ?_)
      obtain ⟨rfl, rfl⟩ := told
      rw [counted] at retries ⊢
      exact ⟨0, Nat.le_refl _, fun _ before => absurd before (Nat.not_lt_zero _), rfl,
        .inr ⟨rfl, cause, retries, rfl⟩⟩
  | succ left ih =>
      unfold tryFrom
      refine attempt_then_does plays call action attempts (fun _ => rfl)
        (fun ending _ => decided ending counted) fun cause after retries answers next => ?_
      refine .afterElapsed fun read kept => ?_
      rw [passed timed answers]
      have early : ¬ action.isOver (attempts * action.budget.interval) = true := by
        rw [isOver_iff spaced limit]
        omega
      simp only [early]
      rw [limit]
      refine .afterCheck (fun _ failed => by cases failed)
        (.bind (pause_does surroundings action _ cause read) ?_ ?_)
      · intro halt deeds world paused
        cases paused.2.1
      · intro _ deeds rested paused
        obtain ⟨rfl, _, slept⟩ := paused
        have behind : made rested.world = attempts + 1 := by
          rw [slept, plays.sleeping, kept, plays.reading, next, counted]
        have later : clock rested.world =
            start + (attempts + 1 : Nat) * action.budget.interval := by
          rw [slept, ticks.sleeping, kept, ticks.reading, ticks.answering _ _ _ _ answers, timed]
          push_cast
          ring
        rw [← limit]
        refine (ih (by omega) behind later).weaken fun deeds result _ told => ?_
        obtain ⟨ahead, rest⟩ := told
        rw [counted] at retries ⊢
        exact ⟨ahead + 1, rest.retried retries⟩

/-- The number of the first attempt that decides; infinite when there is none. -/
noncomputable def deciding (action : Action τ) (outcomes : Nat → Except Fault Value) : ℕ∞ :=
  ⨅ index : { index : Nat // ∃ ending, action.Decides (outcomes index) ending },
    ((index.1 + 1 : Nat) : ℕ∞)

theorem succ_le_deciding {action : Action τ} {outcomes : Nat → Except Fault Value} {count : Nat}
    (early : ∀ index < count, ∃ cause, action.Retries (outcomes index) cause) :
    ((count + 1 : Nat) : ℕ∞) ≤ action.deciding outcomes := by
  refine le_iInf fun index => Nat.cast_le.mpr (Nat.succ_le_succ ?_)
  obtain ⟨index, ending, decides⟩ := index
  refine Nat.le_of_not_lt fun before => ?_
  obtain ⟨cause, retries⟩ := early index before
  exact retries.not_decides ending decides

theorem deciding_eq {action : Action τ} {outcomes : Nat → Except Fault Value} {last : Nat}
    {ending : Except Fault Value}
    (early : ∀ index < last, ∃ cause, action.Retries (outcomes index) cause)
    (decides : action.Decides (outcomes last) ending) :
    action.deciding outcomes = (last + 1 : Nat) :=
  le_antisymm
    (iInf_le (fun index : { index : Nat // ∃ ending, action.Decides (outcomes index) ending } =>
      ((index.1 + 1 : Nat) : ℕ∞)) ⟨last, ending, decides⟩)
    (succ_le_deciding early)

section Count

variable [Timescale τ] {inside : Enclosure τ} {surroundings : Surroundings τ ω}

omit [Timescale τ] in
/-- One more exchange than whatever follows an attempt. -/
theorem attempt_then_within (encloses : surroundings.Encloses inside) (call : RemoteCall)
    (action : Action τ) (attempts most : Nat) {before : Session τ ω}
    {next : Except Fault Value → Run τ ω Value} (returns : ∀ value, next (.ok value) = pure value)
    (goesOn : ∀ cause after, (next (.error cause)).Tells inside after
      fun exchanges _ _ => exchanges.length ≤ most) :
    (action.attempt (Run.remote surroundings call) attempts >>= next).Tells inside before
      fun exchanges _ _ => exchanges.length ≤ most + 1 := by
  refine .bind (attempt_tells encloses call action attempts before) ?_ ?_
  · intro halt xs _ told
    obtain ⟨_, pending, outcome, rfl, _⟩ := told
    exact Nat.le_add_left 1 most
  · intro result after xs _ _ told
    obtain ⟨_, pending, outcome, rfl, _⟩ := told
    cases result with
    | ok value =>
        rw [returns]
        exact .pure (Nat.le_add_left 1 most)
    | error cause => exact (goesOn cause after).weaken fun _ _ _ few => Nat.succ_le_succ few

/-- However the clock goes, the attempts are no more than those counted. -/
theorem tryFrom_tells_within (encloses : surroundings.Encloses inside) (call : RemoteCall)
    (action : Action τ) (start : τ) (limit : Except Fault Nat) (attempts left : Nat)
    (before : Session τ ω) :
    (action.tryFrom surroundings (Run.remote surroundings call) start limit attempts
      left).Tells inside before fun exchanges _ _ => exchanges.length ≤ left + 1 := by
  have givesUp : ∀ {left attempts : Nat} {elapsed : τ} {cause : Fault} {timed : Session τ ω},
      (action.giveUp attempts elapsed cause : Run τ ω Value).Tells inside timed
        fun exchanges _ _ => exchanges.length ≤ left := by
    intro left attempts elapsed cause timed
    refine (giveUp_tells action attempts elapsed cause timed).weaken fun _ _ _ ended => ?_
    rw [ended.1]
    exact Nat.zero_le left
  induction left generalizing attempts before with
  | zero =>
      unfold tryFrom
      refine attempt_then_within encloses call action attempts 0 (fun _ => rfl) fun _ _ => ?_
      refine .afterQuiet (Run.elapsed_quiet surroundings start) fun elapsed timed _ _ => ?_
      exact .afterCheck (fun _ _ => Nat.le_refl 0) givesUp
  | succ left ih =>
      unfold tryFrom
      refine attempt_then_within encloses call action attempts (left + 1) (fun _ => rfl)
        fun cause after => ?_
      refine .afterQuiet (Run.elapsed_quiet surroundings start) fun elapsed timed _ _ => ?_
      refine .afterCheck (fun _ _ => Nat.zero_le _) ?_
      by_cases late : action.isOver elapsed
      · simp only [late, if_true]
        exact givesUp
      · simp only [late]
        refine .bind (pause_tells surroundings action _ cause timed) ?_ ?_
        · intro halt _ _ paused
          rw [paused.1]
          exact Nat.zero_le _
        · intro _ rested _ _ _ paused
          rw [paused.1]
          exact ih (attempts + 1) rested

theorem perform_eq {action : Action τ} {most : Nat} (call : Run τ ω (Except Fault Value))
    (limit : action.budget.maxAttempts = .ok most) :
    action.perform surroundings call = (do
      let start ← Run.now surroundings
      action.tryFrom surroundings call start action.budget.maxAttempts 0 (most - 1)) := by
  unfold perform
  simp only [limit]

theorem perform_tells_within (encloses : surroundings.Encloses inside) (call : RemoteCall)
    {action : Action τ} {most : Nat} (limit : action.budget.maxAttempts = .ok most)
    (positive : 0 < most) (before : Session τ ω) :
    (action.perform surroundings (Run.remote surroundings call)).Tells inside before
      fun exchanges _ _ => exchanges.length ≤ most := by
  rw [perform_eq _ limit]
  refine .afterQuiet (Run.now_quiet surroundings) fun start timed _ _ => ?_
  refine (tryFrom_tells_within encloses call action start _ 0 (most - 1) timed).weaken
    fun _ _ _ few => ?_
  rwa [Nat.sub_add_cancel positive] at few

end Count

theorem perform_does (plays : surroundings.Plays made outcomes)
    (ticks : surroundings.TicksBySleep clock) {action : Action Rat} (call : RemoteCall)
    (spaced : 0 < action.budget.interval) {most : Nat}
    (limit : action.budget.maxAttempts = .ok most) (positive : 0 < most)
    {before : Session Rat ω} (fresh : made before.world = 0) :
    (action.perform surroundings (Run.remote surroundings call)).Does before fun deeds result _ =>
      ∃ ahead, action.Course call outcomes 0 (most - 1) ahead deeds result := by
  rw [perform_eq _ limit]
  refine .afterNow fun timed kept => ?_
  have bounded : 0 + (most - 1) + 1 = most := by omega
  refine tryFrom_does plays ticks call spaced limit _ bounded ?_ ?_
  · rw [kept, plays.reading, fresh]
  · rw [kept, ticks.shows, ticks.reading, Nat.cast_zero, zero_mul, add_zero]

/-- Attempts that the budget counts start before its timeout. -/
theorem starts_early {timeout interval : Rat} (positive : 0 < timeout) (spaced : 0 < interval)
    (call : RemoteCall) (outcomes : Nat → Except Fault Value) {count : Nat}
    (within : count ≤ max 1 (timeout / interval).ceil.toNat) :
    ∀ start ∈ startsFrom 0 (paced call outcomes interval 0 count), start < timeout := by
  intro start member
  rw [startsFrom_paced] at member
  obtain ⟨index, listed, rfl⟩ := List.mem_map.mp member
  rw [zero_add]
  cases index with
  | zero => rwa [Nat.cast_zero, zero_mul]
  | succ index =>
      have counted := List.mem_range.mp listed
      refine lt_of_not_ge fun late => ?_
      have few := (attempts_le_iff spaced index).mpr late
      omega

/-- The attempts made are those up to the one that decides, or all that are counted. -/
theorem Course.counted {action : Action Rat} {call : RemoteCall} {most ahead : Nat}
    {deeds : List (Deed Rat)} {result : Except Halt Value}
    (course : action.Course call outcomes 0 (most - 1) ahead deeds result) (positive : 0 < most) :
    ((ahead + 1 : Nat) : ℕ∞) = min (action.deciding outcomes) most ∧
      (action.deciding outcomes ≤ most → ∃ ending, action.Decides (outcomes ahead) ending ∧
        result = ending.mapError .fault) ∧
      (most < action.deciding outcomes → ∃ cause fault,
        action.Retries (outcomes (most - 1)) cause ∧
        action.OutOfTime ((most - 1 : Nat) * action.budget.interval) cause fault ∧
        result = .error (.fault fault)) := by
  obtain ⟨within, early, _, ends⟩ := course
  simp only [Nat.zero_add] at early ends
  have counted : ahead + 1 ≤ most := by omega
  rcases ends with ⟨ending, decides, same⟩ | ⟨rfl, cause, retries, same⟩
  · have decided := deciding_eq early decides
    have soon : action.deciding outcomes ≤ most := decided ▸ Nat.cast_le.mpr counted
    exact ⟨by rw [min_eq_left soon, decided], fun _ => ⟨ending, decides, same⟩,
      fun late => absurd soon late.not_ge⟩
  · have all : ∀ index < most, ∃ cause, action.Retries (outcomes index) cause := by
      intro index before
      rcases Nat.lt_or_eq_of_le (Nat.le_sub_one_of_lt before) with earlier | rfl
      · exact early index earlier
      · exact ⟨cause, retries⟩
    have late : most < action.deciding outcomes :=
      lt_of_lt_of_le (Nat.cast_lt.mpr most.lt_succ_self) (succ_le_deciding all)
    exact ⟨by rw [min_eq_right late.le, Nat.sub_add_cancel positive],
      fun soon => absurd soon late.not_ge,
      fun _ => ⟨cause, _, retries, action.outOfTime_exhausted _ cause, same⟩⟩

/-- On a clock that only sleeping moves, an action makes attempts, an interval apart, until one
decides it or the number that its budget counts is reached.  They all start before the timeout, and
the one that decides gives the result.  On no clock are they more than the budget counts. -/
theorem attempts_stop_at_first (solitary : surroundings.Solitary) (action : Action Rat)
    (call : RemoteCall) (positive : 0 < action.budget.timeout)
    (spaced : 0 < action.budget.interval) (before : Session Rat ω) :
    ∃ most added,
      action.budget.maxAttempts = .ok most ∧
      most = max 1 (action.budget.timeout / action.budget.interval).ceil.toNat ∧
      (action.perform surroundings (Run.remote surroundings call) before).2.events =
        before.events ++ added ∧
      (callsOf added).length ≤ most ∧
      ∀ made clock outcomes, surroundings.Plays made outcomes →
        surroundings.TicksBySleep clock → made before.world = 0 →
        ∃ count : Nat, (count : ℕ∞) = min (action.deciding outcomes) most ∧
          callsOf added = List.replicate count call ∧
          deedsOf added = paced call outcomes action.budget.interval 0 count ∧
          (∀ start ∈ startsFrom 0 (deedsOf added), start < action.budget.timeout) ∧
          (action.deciding outcomes ≤ most → ∃ ending,
            action.Decides (outcomes (count - 1)) ending ∧
            (action.perform surroundings (Run.remote surroundings call) before).1 =
              ending.mapError .fault) ∧
          (most < action.deciding outcomes → ∃ cause fault,
            action.Retries (outcomes (most - 1)) cause ∧
            action.OutOfTime ((most - 1 : Nat) * action.budget.interval) cause fault ∧
            (action.perform surroundings (Run.remote surroundings call) before).1 =
              .error (.fault fault)) := by
  have limit : action.budget.maxAttempts =
      .ok (max 1 (action.budget.timeout / action.budget.interval).ceil.toNat) := rfl
  have some := Nat.le_max_left 1 (action.budget.timeout / action.budget.interval).ceil.toNat
  obtain ⟨added, exchanges, _, extended, told, few⟩ :=
    perform_tells_within solitary.encloses call limit some before
  refine ⟨_, added, limit, rfl, extended, ?_, fun made clock outcomes plays ticks fresh => ?_⟩
  · rw [told.flat.1, List.length_map]
    exact few
  · obtain ⟨others, extendedToo, called, ahead, course⟩ :=
      perform_does plays ticks call spaced limit some fresh
    obtain rfl : others = added := List.append_cancel_left (extendedToo.symm.trans extended)
    obtain ⟨counted, decided, spent⟩ := course.counted some
    have paces := course.paces
    refine ⟨ahead + 1, counted, ?_, paces, ?_, decided, spent⟩
    · rw [called, paces, calls_paced]
    · rw [paces]
      exact starts_early positive spaced call outcomes (by have := course.within; omega)

/-- A lost connection is retried, ten seconds later. -/
theorem attempts_stop_at_first_second :
    let outcomes : Nat → Except Fault Value
      | 0 => .error (.plain .connection [])
      | _ => .ok (.flag true)
    let surroundings : Surroundings Rat (Nat × Rat) := .playing outcomes Prod.snd
    let call : RemoteCall := .deleteInstance (.text "scs-1") "t-0"
    let action : Action Rat :=
      { kind := .delete, budget := ⟨25, 10⟩, instanceId := .text "scs-1",
        clientToken := some "t-0" }
    let before : Session Rat (Nat × Rat) := { world := (0, 0) }
    ∃ added,
      (action.perform surroundings (Run.remote surroundings call) before).2.events =
        before.events ++ added ∧
      deedsOf added = [.asked call (outcomes 0), .slept 10, .asked call (outcomes 1)] ∧
      (∀ start ∈ startsFrom 0 (deedsOf added), start < 25) ∧
      (action.perform surroundings (Run.remote surroundings call) before).1 =
        .ok (.flag true) := by
  intro outcomes surroundings call action before
  have plays : surroundings.Plays Prod.fst outcomes :=
    Surroundings.playing_plays outcomes Prod.snd
  have ticks : surroundings.TicksBySleep Prod.snd := by
    refine ⟨fun _ => rfl, fun _ => rfl, fun _ _ => rfl, fun call world outcome after answers => ?_⟩
    obtain ⟨session, rfl, answered⟩ := answers
    cases answered
    rfl
  have decided : action.deciding outcomes = (2 : Nat) := by
    refine deciding_eq (fun index before => ?_) (.answered (.flag true))
    obtain rfl : index = 0 := Nat.lt_one_iff.mp before
    exact ⟨_, .retried rfl⟩
  obtain ⟨most, added, _, counts, extended, _, course⟩ := attempts_stop_at_first plays.solitary
    action call (by decide) (by decide) before
  obtain ⟨count, fewest, _, paces, early, ends, _⟩ :=
    course Prod.fst Prod.snd outcomes plays ticks rfl
  have enough : 2 ≤ most := by
    refine Nat.lt_of_not_le fun few => ?_
    have late : (25 : Rat) ≤ (0 + 1 : Nat) * 10 :=
      (attempts_le_iff (by decide) 0).mp (counts ▸ few)
    norm_num at late
  rw [decided] at fewest ends
  obtain rfl : count = 2 :=
    Nat.cast_injective (fewest.trans (min_eq_left (Nat.cast_le.mpr enough)))
  obtain ⟨ending, decides, same⟩ := ends (Nat.cast_le.mpr enough)
  cases decides
  exact ⟨added, extended, paces, early, same⟩

end Action

end CacheSteward
