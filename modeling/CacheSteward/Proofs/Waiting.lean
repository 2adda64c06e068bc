import CacheSteward.Proofs.Playback
import CacheSteward.Proofs.Polls
import CacheSteward.Timescale.Exact

namespace CacheSteward

/-! How a wait ends, poll by poll.

A wait stops at the first poll that decides it or behind which its time is over.  What a poll shows
comes before the time: a poll that decides does so however late it is.
-/

variable {τ ω : Type}

namespace Wait

/-- The outcomes of a poll that decide a wait, and how. -/
inductive Decides (wait : Wait τ) : Except Fault Value → Except Fault InstanceStatus → Prop where
  | reached {detail : Value} {status : InstanceStatus}
      (given : detail.get? "instanceStatus" = some (.text status.word))
      (target : status ∈ wait.target) (passes : wait.passes detail = true) :
      Decides wait (.ok detail) (.ok status)
  | bad {detail : Value} {status : InstanceStatus}
      (given : detail.get? "instanceStatus" = some (.text status.word))
      (bad : status ∈ wait.bad) (untargeted : status ∉ wait.target) :
      Decides wait (.ok detail)
        (.error (.unexpectedState (.text status.word) (some wait.kind.word) wait.instanceId))
  | unknown {es : List (Value × Value)}
      (unknown : ∀ status : InstanceStatus,
        Value.lookup "instanceStatus" es ≠ some (.text status.word)) :
      Decides wait (.ok (.mapping es))
        (.error (.unexpectedState (.text ((Value.lookup "instanceStatus" es).getD .null).shown)
          (some wait.kind.word) wait.instanceId))
  | gone {raw : Fault} (missing : raw.disposition wait.kind = .notFound)
      (targeted : wait.goneIsTarget = true) : Decides wait (.error raw) (.ok .deleted)
  | missing {raw : Fault} (missing : raw.disposition wait.kind = .notFound)
      (untargeted : wait.goneIsTarget = false) :
      Decides wait (.error raw) (.error (raw.recast .notFound wait.kind wait.instanceId))
  | failed {raw : Fault} (lasting : raw.disposition wait.kind ≠ .transient)
      (present : raw.disposition wait.kind ≠ .notFound) :
      Decides wait (.error raw)
        (.error (raw.recast (raw.disposition wait.kind) wait.kind wait.instanceId))

theorem judge_of_unknown (wait : Wait τ) {es : List (Value × Value)}
    (unknown : ∀ status : InstanceStatus,
      Value.lookup "instanceStatus" es ≠ some (.text status.word)) :
    wait.judge (.ok (.mapping es)) =
      .failed (.unexpectedState (.text ((Value.lookup "instanceStatus" es).getD .null).shown)
        (some wait.kind.word) wait.instanceId) := by
  simp only [judge, judgeDetail, Detail.get, InstanceStatus.parse_entry_of_unknown unknown]

theorem ending_of_decides {wait : Wait τ} {outcome : Except Fault Value}
    {ending : Except Fault InstanceStatus} (decides : wait.Decides outcome ending) :
    (wait.judge outcome).ending? = some ending := by
  cases decides with
  | reached given target passes =>
      rw [wait.judge_of_given given]
      simp only [judgeStatus, target, passes, if_true, Sighting.ending?]
  | bad given bad untargeted =>
      rw [wait.judge_of_given given]
      simp only [judgeStatus, untargeted, bad, if_false, if_true, Sighting.ending?]
  | unknown unknown => rw [wait.judge_of_unknown unknown, Sighting.ending?]
  | gone missing targeted =>
      simp only [judge, judgeFailure, missing, targeted, and_self, if_true, Sighting.ending?]
  | missing missing untargeted =>
      simp [judge, judgeFailure, missing, untargeted, Sighting.ending?]
  | failed lasting present =>
      simp only [judge, judgeFailure, lasting, present, false_and, if_false, Sighting.ending?]

theorem decides_of_ending {wait : Wait τ} {outcome : Except Fault Value}
    {ending : Except Fault InstanceStatus}
    (object : ∀ detail, outcome = .ok detail → ∃ es, detail = .mapping es)
    (ended : (wait.judge outcome).ending? = some ending) : wait.Decides outcome ending := by
  cases outcome with
  | error raw =>
      simp only [judge, judgeFailure] at ended
      by_cases missing : raw.disposition wait.kind = .notFound
      · cases targeted : wait.goneIsTarget with
        | true =>
            simp only [missing, targeted, and_self, if_true, Sighting.ending?] at ended
            cases ended
            exact .gone missing targeted
        | false =>
            simp [missing, targeted, Sighting.ending?] at ended
            subst ended
            exact .missing missing targeted
      · by_cases lasting : raw.disposition wait.kind = .transient
        · simp [lasting, Sighting.ending?] at ended
        · simp only [missing, lasting, false_and, if_false, Sighting.ending?] at ended
          cases ended
          exact .failed lasting missing
  | ok detail =>
      obtain ⟨es, rfl⟩ := object detail rfl
      by_cases known : ∃ status : InstanceStatus,
          Value.lookup "instanceStatus" es = some (.text status.word)
      · obtain ⟨status, given⟩ := known
        have shown : (Value.mapping es).get? "instanceStatus" = some (.text status.word) := given
        rw [wait.judge_of_given shown] at ended
        unfold judgeStatus at ended
        by_cases target : status ∈ wait.target
        · cases passes : wait.passes (.mapping es) with
          | true =>
              simp only [target, passes, if_true, Sighting.ending?] at ended
              cases ended
              exact .reached given target passes
          | false => simp [target, passes, Sighting.ending?] at ended
        · by_cases bad : status ∈ wait.bad
          · simp only [target, bad, if_false, if_true, Sighting.ending?] at ended
            cases ended
            exact .bad given bad target
          · simp [target, bad, Sighting.ending?] at ended
      · have unknown : ∀ status : InstanceStatus,
            Value.lookup "instanceStatus" es ≠ some (.text status.word) :=
          fun status given => known ⟨status, given⟩
        rw [wait.judge_of_unknown unknown] at ended
        cases ended
        exact .unknown unknown

/-- Only a detail that is no mapping ends a wait in another way: what it lacks is a fault of the
machinery. -/
theorem decides_or_formless {wait : Wait τ} {outcome : Except Fault Value}
    {ending : Except Fault InstanceStatus} (ended : (wait.judge outcome).ending? = some ending) :
    wait.Decides outcome ending ∨ ∃ fault, fault.isKnown = false ∧ ending = .error fault := by
  cases outcome with
  | error raw => exact .inl (decides_of_ending nofun ended)
  | ok detail =>
      cases detail with
      | mapping es =>
          refine .inl (decides_of_ending (fun detail same => ?_) ended)
          cases same
          exact ⟨es, rfl⟩
      | _ =>
          cases ended
          exact .inr ⟨_, rfl, rfl⟩

/-- The status seen last among the first so many outcomes. -/
def lastSeen (outcomes : Nat → Except Fault Value) : Nat → Option InstanceStatus
  | 0 => none
  | polls + 1 => (statusOf? (outcomes polls)).or (lastSeen outcomes polls)

variable [Timescale τ]

/-- The fault of a wait whose time was over behind its last poll.  It shows how much time had gone by
and the status seen last, and no failure of a poll is its cause. -/
def OutOfTime (wait : Wait τ) (elapsed : τ) (last : Option InstanceStatus) (fault : Fault) : Prop :=
  fault = .known (.operationTimeout (Timescale.value elapsed))
    ("Instance " ++ wait.instanceId.shown ++ " did not reach [" ++
      Rule.quotedList wait.targetWords ++ "] within " ++ Timescale.wholeText wait.timeout ++
      " seconds")
    (("operation", .text wait.kind.word) ::
      (if wait.instanceId.isGiven then [("instance_id", wait.instanceId)] else []) ++
      [("elapsed_seconds", Timescale.roundedValue elapsed)] ++
      (last.map fun status => ("last_status", .text status.word)).toList)
    none

theorem outOfTime_exhausted (wait : Wait τ) (elapsed : τ) (last : Option InstanceStatus) :
    wait.OutOfTime elapsed last (wait.exhausted elapsed last) := by
  unfold OutOfTime exhausted Fault.operationTimeout
  rw [Fault.operationDetails_word]
  cases last with
  | none => rfl
  | some status => cases status <;> rfl

/-- A poll that decides, or behind which the time is over. -/
def Stops (wait : Wait τ) (outcome : Except Fault Value) (elapsed : τ) : Prop :=
  (∃ ending, wait.Decides outcome ending) ∨ Timescale.atMost wait.timeout elapsed = true

/-- How a wait ends with the poll that stops it. -/
def Concludes (wait : Wait τ) (outcome : Except Fault Value) (elapsed : τ)
    (last : Option InstanceStatus) (result : Except Halt InstanceStatus) : Prop :=
  (∀ ending, wait.Decides outcome ending → result = ending.mapError .fault) ∧
    ((∀ ending, ¬ wait.Decides outcome ending) →
      ∃ fault, wait.OutOfTime elapsed last fault ∧ result = .error (.fault fault))

omit [Timescale τ] in
theorem ending?_ofExcept_does {ending : Except Fault InstanceStatus} {before : Session τ ω} :
    (Run.ofExcept ending).Does before fun deeds result _ =>
      deeds = [] ∧ result = ending.mapError .fault := by
  cases ending with
  | ok status => exact .pure ⟨rfl, rfl⟩
  | error fault => exact .fail ⟨rfl, rfl⟩

/-- The induction is on the polls in front of the one that stops the wait. -/
theorem pollFrom_does {surroundings : Surroundings τ ω} {made : ω → Nat}
    {outcomes : Nat → Except Fault Value} {readings : Nat → τ}
    (plays : surroundings.Plays made outcomes)
    (reads : ∀ world, (surroundings.now world).1 = readings (made world))
    (objects : ∀ index detail, outcomes index = .ok detail → ∃ es, detail = .mapping es)
    (wait : Wait τ) (start : τ) {ahead horizon polls : Nat} {before : Session τ ω}
    (counted : made before.world = polls)
    (stops : wait.Stops (outcomes (polls + ahead))
      (Timescale.minus (readings (polls + ahead + 1)) start))
    (first : ∀ index < ahead, ¬ wait.Stops (outcomes (polls + index))
      (Timescale.minus (readings (polls + index + 1)) start))
    (within : ahead < horizon) :
    (wait.pollFrom surroundings start horizon polls (lastSeen outcomes polls)).Does before
      fun deeds result _ =>
        deeds = paced (.getInstanceDetail wait.instanceId) outcomes wait.interval polls
          (ahead + 1) ∧
        wait.Concludes (outcomes (polls + ahead))
          (Timescale.minus (readings (polls + ahead + 1)) start)
          (lastSeen outcomes (polls + ahead + 1)) result := by
  induction ahead generalizing horizon polls before with
  | zero =>
      obtain ⟨horizon, rfl⟩ : ∃ more, horizon = more + 1 := ⟨horizon - 1, by omega⟩
      rw [pollFrom_succ]
      refine .afterPlayed plays fun after _ next => .afterLogs fun noted same => ?_
      rw [counted]
      cases ended : (wait.judge (outcomes polls)).ending? with
      | some ending =>
          refine ending?_ofExcept_does.weaken fun deeds result _ told => ?_
          obtain ⟨rfl, rfl⟩ := told
          have decides := decides_of_ending (objects polls) ended
          refine ⟨rfl, fun other decidesToo => ?_, fun undecided => absurd decides (undecided _)⟩
          have same := ending_of_decides decidesToo
          rw [Nat.add_zero, ended] at same
          cases same
          rfl
      | none =>
          have undecided : ∀ ending, ¬ wait.Decides (outcomes polls) ending := by
            intro ending decides
            rw [ending_of_decides decides] at ended
            cases ended
          have late := stops.resolve_left fun decided => undecided _ decided.choose_spec
          refine .afterElapsed fun timed _ => ?_
          rw [reads, same, next, counted]
          rw [Nat.add_zero] at late
          simp only [late, if_true]
          exact .fail ⟨rfl, fun ending decides => absurd decides (undecided ending),
            fun _ => ⟨_, wait.outOfTime_exhausted _ _, rfl⟩⟩
  | succ ahead ih =>
      obtain ⟨horizon, rfl⟩ : ∃ more, horizon = more + 1 := ⟨horizon - 1, by omega⟩
      rw [pollFrom_succ]
      refine .afterPlayed plays fun after _ next => .afterLogs fun noted same => ?_
      rw [counted]
      have shift : ∀ index, polls + 1 + index = polls + (index + 1) := fun index => by omega
      have goesOn := first 0 (Nat.succ_pos ahead)
      rw [Nat.add_zero] at goesOn
      cases ended : (wait.judge (outcomes polls)).ending? with
      | some ending =>
          exact absurd (.inl ⟨ending, decides_of_ending (objects polls) ended⟩) goesOn
      | none =>
          refine .afterElapsed fun timed kept => ?_
          rw [reads, same, next, counted]
          have early : ¬ Timescale.atMost wait.timeout
              (Timescale.minus (readings (polls + 1)) start) = true :=
            fun late => goesOn (.inr late)
          simp only [early]
          refine .afterSleep fun rested slept => ?_
          have behind : made rested.world = polls + 1 := by
            rw [slept, plays.sleeping, kept, plays.reading, same, next, counted]
          refine (ih behind ?_ (fun index before => ?_) (by omega)).weaken
            fun deeds result _ told => ?_
          · rw [shift]
            exact stops
          · rw [shift]
            exact first (index + 1) (by omega)
          · rw [shift] at told
            obtain ⟨rfl, concludes⟩ := told
            exact ⟨(paced_succ _ _ _ _ (Nat.succ_pos ahead)).symm, concludes⟩

/-- A wait makes one poll after another, an interval apart, until one stops it.  A poll that decides
ends the wait as it says, whatever the time; otherwise the time is over. -/
theorem wait_stops_at_first {surroundings : Surroundings τ ω} {made : ω → Nat}
    {outcomes : Nat → Except Fault Value} {readings : Nat → τ}
    (plays : surroundings.Plays made outcomes)
    (reads : ∀ world, (surroundings.now world).1 = readings (made world))
    (objects : ∀ index detail, outcomes index = .ok detail → ∃ es, detail = .mapping es)
    (wait : Wait τ) {poll horizon : Nat} {before : Session τ ω} (fresh : made before.world = 0)
    (stops : wait.Stops (outcomes poll) (Timescale.minus (readings (poll + 1)) (readings 0)))
    (first : ∀ earlier < poll, ¬ wait.Stops (outcomes earlier)
      (Timescale.minus (readings (earlier + 1)) (readings 0)))
    (within : poll < horizon) :
    ∃ added, (wait.perform surroundings horizon before).2.events = before.events ++ added ∧
      callsOf added = List.replicate (poll + 1) (.getInstanceDetail wait.instanceId) ∧
      deedsOf added = paced (.getInstanceDetail wait.instanceId) outcomes wait.interval 0
        (poll + 1) ∧
      wait.Concludes (outcomes poll) (Timescale.minus (readings (poll + 1)) (readings 0))
        (lastSeen outcomes (poll + 1)) (wait.perform surroundings horizon before).1 := by
  have does : (wait.perform surroundings horizon).Does before fun deeds result _ =>
      deeds = paced (.getInstanceDetail wait.instanceId) outcomes wait.interval 0 (poll + 1) ∧
        wait.Concludes (outcomes poll) (Timescale.minus (readings (poll + 1)) (readings 0))
          (lastSeen outcomes (poll + 1)) result := by
    unfold perform
    refine .afterNow fun timed kept => ?_
    rw [reads, fresh]
    have counted : made timed.world = 0 := by rw [kept, plays.reading, fresh]
    have start : ∀ index, 0 + index = index := Nat.zero_add
    have ran := pollFrom_does plays reads objects wait (readings 0) counted
      ((start poll).symm ▸ stops) (fun index before => (start index).symm ▸ first index before)
      within
    rw [start] at ran
    exact ran
  obtain ⟨added, extended, called, paces, concludes⟩ := does
  refine ⟨added, extended, ?_, paces, concludes⟩
  rw [called, paces, calls_paced]

/-- A stale detail and a lost connection are polled past.  The third poll shows the change just when
the time is over, and the wait succeeds. -/
theorem wait_stops_at_first_late :
    let shown (nodeType : String) : Value :=
      .fields [("instanceStatus", .text "Running"), ("nodeType", .text nodeType)]
    let outcomes : Nat → Except Fault Value
      | 0 => .ok (shown "small")
      | 1 => .error (.plain .connection [])
      | _ => .ok (shown "large")
    let readings : Nat → Rat := fun polls => 10 * polls
    let surroundings : Surroundings Rat (Nat × Rat) :=
      .playing outcomes fun world => readings world.1
    let wait : Wait Rat :=
      { instanceId := .text "scs-1", kind := .resizeNodeType, bad := InstanceStatus.badForUpdate
        target := InstanceStatus.runningOnly, goneIsTarget := false
        check := some fun detail => detail.get? "nodeType" matches some (.text "large")
        timeout := 30, interval := 10 }
    let before : Session Rat (Nat × Rat) := { world := (0, 0) }
    ∃ added, (wait.perform surroundings 100 before).2.events = before.events ++ added ∧
      callsOf added = List.replicate 3 (.getInstanceDetail (.text "scs-1")) ∧
      deedsOf added = paced (.getInstanceDetail (.text "scs-1")) outcomes 10 0 3 ∧
      wait.Concludes (outcomes 2) (Timescale.minus (readings 3) (readings 0)) (lastSeen outcomes 3)
        (wait.perform surroundings 100 before).1 := by
  intro shown outcomes readings surroundings wait before
  have stale : (wait.judge (outcomes 0)).ending? = none := by decide
  have lost : (wait.judge (outcomes 1)).ending? = none := by decide
  have reached : wait.Decides (outcomes 2) (.ok .running) :=
    .reached rfl (List.mem_singleton.mpr rfl) rfl
  have objects : ∀ index detail, outcomes index = .ok detail → ∃ es, detail = .mapping es := by
    intro index detail answered
    match index with
    | 0 | _ + 2 =>
        cases answered
        exact ⟨_, rfl⟩
    | 1 => cases answered
  have undecided : ∀ {outcome : Except Fault Value}, (wait.judge outcome).ending? = none →
      ∀ ending, ¬ wait.Decides outcome ending := by
    intro outcome none ending decides
    rw [ending_of_decides decides] at none
    cases none
  have plays := Surroundings.playing_plays outcomes fun world => readings world.1
  have reads : ∀ world, (surroundings.now world).1 = readings world.1 := fun _ => rfl
  have first : ∀ earlier < 2, ¬ wait.Stops (outcomes earlier)
      (Timescale.minus (readings (earlier + 1)) (readings 0)) := by
    intro earlier before stops
    rcases stops with ⟨ending, decides⟩ | late
    · match earlier, before with
      | 0, _ => exact undecided stale ending decides
      | 1, _ => exact undecided lost ending decides
    · have late : (30 : Rat) ≤ 10 * (earlier + 1 : Nat) - 10 * (0 : Nat) := of_decide_eq_true late
      have early : ((earlier + 1 : Nat) : Rat) ≤ 2 := by exact_mod_cast before
      grind
  have fresh : before.world.1 = 0 := rfl
  exact wait_stops_at_first plays reads objects wait fresh (.inl ⟨_, reached⟩) first (by decide)

end Wait

end CacheSteward
