import CacheSteward.Proofs.Trying
import CacheSteward.Proofs.Waiting
import Mathlib.Tactic.Linarith

namespace CacheSteward

/-! What the loops of attempts and of polls spend on a clock of their surroundings.

A loop asks, pauses for its interval and asks again.  The clock never goes back and a pause takes at
least its interval, so that the pauses of a loop are bounded by the time at which it has to stop.
-/

variable {τ ω α β : Type}

def Deed.span? : Deed τ → Option τ
  | .asked _ _ => none
  | .slept span => some span

namespace Surroundings

/-- A clock that never goes back, on which a sleep takes no less than its span.  A reading lies
between the times before and after it; calls may take any time. -/
structure RunsOn (surroundings : Surroundings Rat ω) (clock : ω → Rat) : Prop where
  reached : ∀ world, clock world ≤ (surroundings.now world).1
  reading : ∀ world, (surroundings.now world).1 ≤ clock (surroundings.now world).2
  sleeping : ∀ span world, clock world + span ≤ clock (surroundings.sleep span world)
  answering : ∀ call world outcome after,
    surroundings.Answers call world outcome after → clock world ≤ clock after

end Surroundings

/-! ### Timeouts of waits -/

namespace Fault

/-- A timeout without a cause.  Attempts that run out of time name their last failure as the cause
of it, a wait names none. -/
def IsBareTimeout (fault : Fault) : Prop :=
  ∃ elapsed message details, fault = .known (.operationTimeout elapsed) message details none

variable {fault : Fault}

theorem not_bare_of_raw (raw : fault.isKnown = false) : ¬ fault.IsBareTimeout := by
  intro bare
  obtain ⟨_, _, _, rfl⟩ := bare
  cases raw

/-- A recast is a timeout of a wait only when it was one before. -/
theorem bare_of_recast {disposition : Disposition} {kind : OperationKind} {instanceId : Value}
    (bare : (fault.recast disposition kind instanceId).IsBareTimeout) : fault.IsBareTimeout := by
  obtain ⟨elapsed, message, details, same⟩ := bare
  cases fault with
  | known about message details cause =>
      cases same
      exact ⟨_, _, _, rfl⟩
  | remote | plain | unlisted | invalidRecord => cases disposition <;> cases same

end Fault

/-- A call was answered with a timeout of a wait. -/
def Relayed (deeds : List (Deed τ)) : Prop :=
  ∃ call raw, Deed.asked call (.error raw) ∈ deeds ∧ raw.IsBareTimeout

namespace Relayed

variable {deeds more : List (Deed τ)}

theorem mono (relayed : Relayed deeds) (within : deeds ⊆ more) : Relayed more := by
  obtain ⟨call, raw, member, bare⟩ := relayed
  exact ⟨call, raw, within member, bare⟩

theorem of_recast {fault raw : Fault} {disposition : Disposition} {kind : OperationKind}
    {instanceId : Value} (call : RemoteCall) (bare : fault.IsBareTimeout)
    (same : fault = raw.recast disposition kind instanceId) :
    Relayed [(Deed.asked call (.error raw) : Deed τ)] :=
  ⟨call, raw, List.mem_singleton_self _, Fault.bare_of_recast (same ▸ bare)⟩

end Relayed

theorem Action.relayed_of_fatal {action : Action τ} {outcome : Except Fault Value} {fault : Fault}
    (call : RemoteCall) (ended : action.attemptEnd outcome = .error (.fault fault))
    (bare : fault.IsBareTimeout) : Relayed [(Deed.asked call outcome : Deed τ)] := by
  rcases action.decides_or_retries outcome with ⟨ending, decides⟩ | ⟨cause, retries⟩
  · rw [attemptEnd_of_decides decides] at ended
    cases decides with
    | answered answer | counted resolved => cases ended
    | failed resolved =>
        cases ended
        exact .of_recast call bare rfl
  · rw [attemptEnd_of_retries retries] at ended
    cases ended

theorem Wait.relayed_of_ending {wait : Wait τ} {outcome : Except Fault Value} {fault : Fault}
    (call : RemoteCall) (ended : (wait.judge outcome).ending? = some (.error fault))
    (bare : fault.IsBareTimeout) : Relayed [(Deed.asked call outcome : Deed τ)] := by
  rcases Wait.decides_or_formless ended with decides | ⟨raw, foreign, same⟩
  · cases decides with
    | bad | unknown =>
        obtain ⟨_, _, _, same⟩ := bare
        cases same
    | missing | failed => exact .of_recast call bare rfl
  · cases same
    exact absurd bare (Fault.not_bare_of_raw foreign)

/-! ### Pausing -/

/-- What a loop spends that asks, pauses, asks again, and so on: so many pauses of one interval from
a time on, of which the last ends before `limit`. -/
structure Spent (interval limit : Rat) (clock : ω → Rat) (since : Rat) (pauses : Nat)
    (deeds : List (Deed Rat)) (world : ω) : Prop where
  slept : deeds.filterMap Deed.span? = List.replicate pauses interval
  asked : (deeds.filterMap Deed.call?).length ≤ pauses + 1
  passed : since + pauses * interval ≤ clock world
  early : 0 < pauses → since + pauses * interval < limit

namespace Spent

variable {interval limit since : Rat} {clock : ω → Rat} {pauses : Nat} {deeds : List (Deed Rat)}
  {world : ω}

theorem none (reached : since ≤ clock world) : Spent interval limit clock since 0 [] world where
  slept := rfl
  asked := Nat.zero_le _
  passed := by simpa using reached
  early := nofun

theorem once (call : RemoteCall) (outcome : Except Fault Value) (reached : since ≤ clock world) :
    Spent interval limit clock since 0 [.asked call outcome] world where
  slept := rfl
  asked := Nat.le_refl _
  passed := by simpa using reached
  early := nofun

/-- A call and a pause in front. -/
theorem again (call : RemoteCall) (outcome : Except Fault Value)
    (inTime : since + interval < limit)
    (rest : Spent interval limit clock (since + interval) pauses deeds world) :
    Spent interval limit clock since (pauses + 1) (.asked call outcome :: .slept interval :: deeds)
      world := by
  have longer : since + (pauses + 1 : Nat) * interval =
      since + interval + pauses * interval := by
    push_cast
    ring
  refine ⟨?_, ?_, longer ▸ rest.passed, fun _ => longer ▸ ?_⟩
  · exact congrArg (interval :: ·) rest.slept
  · have counted := rest.asked
    simp only [List.filterMap_cons, Deed.call?, List.length_cons]
    omega
  · rcases Nat.eq_zero_or_pos pauses with rfl | more
    · simpa using inTime
    · exact rest.early more

/-- Counted from an earlier time, as long before the limit. -/
theorem rebase {earlier : Rat}
    (spent : Spent interval (since + limit) clock since pauses deeds world)
    (before : earlier ≤ since) :
    Spent interval (earlier + limit) clock earlier pauses deeds world where
  slept := spent.slept
  asked := spent.asked
  passed := by linarith [spent.passed]
  early some := by linarith [spent.early some]

end Spent

/-- How attempts end: never cut short, and with a timeout of a wait only when a call was answered
so. -/
structure Tried (interval limit : Rat) (clock : ω → Rat) (since : Rat) (deeds : List (Deed Rat))
    (result : Except Halt α) (world : ω) : Prop where
  spent : ∃ pauses, Spent interval limit clock since pauses deeds world
  finished : result ≠ .error .unfinished
  relayed : ∀ fault, result = .error (.fault fault) → fault.IsBareTimeout → Relayed deeds

/-- What fails behind the attempts for another reason. -/
theorem Tried.fails {interval limit since : Rat} {clock : ω → Rat} {deeds : List (Deed Rat)}
    {a : α} {world : ω} {fault : Fault}
    (tried : Tried interval limit clock since deeds (.ok a) world)
    (other : ¬ fault.IsBareTimeout) :
    Tried interval limit clock since deeds (.error (.fault fault) : Except Halt β) world where
  spent := tried.spent
  finished := nofun
  relayed _ same bare := by
    cases same
    exact absurd bare other

/-- How a wait ends whose time is over at `due`. -/
structure Waited (interval due : Rat) (clock : ω → Rat) (since : Rat) (horizon : Nat)
    (deeds : List (Deed Rat)) (result : Except Halt α) (world : ω) : Prop where
  spent : ∃ pauses, Spent interval (due + interval) clock since pauses deeds world ∧
    (result = .error .unfinished → horizon ≤ pauses)
  patient : ∀ fault, result = .error (.fault fault) → fault.IsBareTimeout →
    Relayed deeds ∨ due ≤ clock world

section Loops

variable {surroundings : Surroundings Rat ω} {clock : ω → Rat} {since : Rat}
  {before : Session Rat ω}

theorem Action.not_bare_exhausted (action : Action Rat) (elapsed : Rat) (cause : Fault) :
    ¬ (action.exhausted elapsed cause).IsBareTimeout := by
  intro bare
  obtain ⟨_, _, _, same⟩ := bare
  cases same

/-- One attempt, and whatever follows one that may be repeated. -/
theorem Action.attempt_then_tries (solitary : surroundings.Solitary)
    (runs : surroundings.RunsOn clock) (action : Action Rat) (call : RemoteCall) (attempts : Nat)
    {limit : Rat} {next : Except Fault Value → Run Rat ω Value}
    (reached : since ≤ clock before.world) (returns : ∀ value, next (.ok value) = pure value)
    (goesOn : ∀ cause outcome after, since ≤ clock after.world →
      (next (.error cause)).Does after fun deeds result world =>
        Tried action.budget.interval limit clock since (.asked call outcome :: deeds) result
          world) :
    (action.attempt (Run.remote surroundings call) attempts >>= next).Does before
      (Tried action.budget.interval limit clock since) := by
  refine .bind (attempt_asks solitary call action attempts before) ?_ ?_
  · intro halt deeds world asked
    obtain ⟨outcome, rfl, answers, ended⟩ := asked
    have later := reached.trans (runs.answering _ _ _ _ answers)
    refine ⟨⟨0, .once call outcome later⟩, ?_, fun fault same bare => ?_⟩
    · unfold attemptEnd at ended
      split at ended <;> cases ended
      exact nofun
    · cases same
      exact relayed_of_fatal call ended.symm bare
  · intro result deeds after asked
    obtain ⟨outcome, rfl, answers, ended⟩ := asked
    have later := reached.trans (runs.answering _ _ _ _ answers)
    cases result with
    | ok value =>
        rw [returns]
        exact .pure ⟨⟨0, .once call outcome later⟩, nofun, nofun⟩
    | error cause => exact goesOn cause outcome after later

/-- The induction is on the attempts that may still follow. -/
theorem Action.tryFrom_tries (solitary : surroundings.Solitary)
    (runs : surroundings.RunsOn clock) (action : Action Rat) (call : RemoteCall) (start : Rat)
    (attempts left : Nat) (reached : since ≤ clock before.world) :
    (action.tryFrom surroundings (Run.remote surroundings call) start action.budget.maxAttempts
      attempts left).Does before
      (Tried action.budget.interval (start + action.budget.timeout) clock since) := by
  have givesUp : ∀ {since : Rat} (attempts : Nat) (elapsed : Rat) cause outcome
      (timed : Session Rat ω), since ≤ clock timed.world →
      (action.giveUp attempts elapsed cause : Run Rat ω Value).Does timed fun deeds result world =>
        Tried action.budget.interval (start + action.budget.timeout) clock since
          (.asked call outcome :: deeds) result world := by
    intro since attempts elapsed cause outcome timed reached
    unfold giveUp
    refine .afterExcept nofun fun _ _ => .afterLog fun logged same => .fail ?_
    rw [← same] at reached
    refine ⟨⟨0, .once call outcome reached⟩, nofun, fun fault same bare => ?_⟩
    cases same
    exact absurd bare (action.not_bare_exhausted elapsed cause)
  have counts : ∀ {P : Prop} (fault : Fault), action.budget.maxAttempts = .error fault → P := by
    intro P fault failed
    obtain ⟨most, counted⟩ := action.budget.usable_exact.counted
    rw [counted] at failed
    cases failed
  induction left generalizing attempts since before with
  | zero =>
      unfold tryFrom
      refine attempt_then_tries solitary runs action call attempts reached (fun _ => rfl)
        fun cause outcome after later => ?_
      refine .afterElapsed fun timed read => .afterCheck (fun _ => counts _) ?_
      refine givesUp _ _ cause outcome timed ?_
      rw [read]
      exact later.trans ((runs.reached _).trans (runs.reading _))
  | succ left ih =>
      unfold tryFrom
      refine attempt_then_tries solitary runs action call attempts reached (fun _ => rfl)
        fun cause outcome after later => ?_
      refine .afterElapsed fun timed read => .afterCheck (fun _ => counts _) ?_
      have reading := runs.reading after.world
      rw [← read] at reading
      have shown := later.trans (runs.reached after.world)
      by_cases late : action.isOver (Timescale.minus (surroundings.now after.world).1 start)
      · simp only [late, if_true]
        exact givesUp _ _ cause outcome timed (shown.trans reading)
      · simp only [late]
        -- The attempt that follows starts in time, so its pause ends before the limit.
        have inTime : (surroundings.now after.world).1 - start + action.budget.interval <
            action.budget.timeout := not_le.mp fun reached => late (decide_eq_true reached)
        refine .bind (pause_does surroundings action _ cause timed) ?_ ?_
        · intro halt deeds world paused
          cases paused.2.1
        · intro _ deeds rested paused
          obtain ⟨rfl, _, slept⟩ := paused
          have waited := runs.sleeping action.budget.interval timed.world
          rw [← slept] at waited
          have onward : since + action.budget.interval ≤ clock rested.world := by linarith
          refine (ih (attempts + 1) onward).weaken fun deeds result world rest => ?_
          obtain ⟨⟨pauses, spent⟩, finished, relayed⟩ := rest
          refine ⟨⟨_, spent.again call outcome (by linarith)⟩, finished, fun fault same bare => ?_⟩
          exact (relayed fault same bare).mono fun deed member => .tail _ (.tail _ member)

/-- All attempts together start within the timeout, counted from any earlier time. -/
theorem Action.perform_tries (solitary : surroundings.Solitary)
    (runs : surroundings.RunsOn clock) (action : Action Rat) (call : RemoteCall)
    (reached : since ≤ clock before.world) :
    (action.perform surroundings (Run.remote surroundings call)).Does before
      (Tried action.budget.interval (since + action.budget.timeout) clock since) := by
  unfold perform
  refine .afterNow fun timed read => ?_
  have reading := runs.reading before.world
  rw [← read] at reading
  refine (tryFrom_tries solitary runs action call _ 0 _ reading).weaken
    fun deeds result world tried => ?_
  obtain ⟨⟨pauses, spent⟩, finished, relayed⟩ := tried
  exact ⟨⟨pauses, spent.rebase (reached.trans (runs.reached _))⟩, finished, relayed⟩

/-- The induction is on the polls that the horizon still allows. -/
theorem Wait.pollFrom_waits (solitary : surroundings.Solitary)
    (runs : surroundings.RunsOn clock) (wait : Wait Rat) (start : Rat) (horizon polls : Nat)
    (last : Option InstanceStatus) (reached : since ≤ clock before.world) :
    (wait.pollFrom surroundings start horizon polls last).Does before
      (Waited wait.interval (start + wait.timeout) clock since horizon) := by
  induction horizon generalizing polls last since before with
  | zero =>
      exact ⟨[], (List.append_nil _).symm, rfl, ⟨0, .none reached, fun _ => Nat.le_refl _⟩, nofun⟩
  | succ horizon ih =>
      rw [pollFrom_succ]
      refine .afterCall solitary fun outcome after answers => .afterLogs fun noted same => ?_
      rw [← same] at answers
      have later := reached.trans (runs.answering _ _ _ _ answers)
      let call := RemoteCall.getInstanceDetail wait.instanceId
      cases ended : (wait.judge outcome).ending? with
      | some ending =>
          have once : Spent wait.interval (start + wait.timeout + wait.interval) clock since 0
              [.asked call outcome] noted.world := .once call outcome later
          cases ending with
          | ok status => exact .pure ⟨⟨0, once, nofun⟩, nofun⟩
          | error fault =>
              refine .fail ⟨⟨0, once, nofun⟩, fun _ same bare => .inl ?_⟩
              cases same
              exact relayed_of_ending call ended bare
      | none =>
          refine .afterElapsed fun timed read => ?_
          have reading := runs.reading noted.world
          rw [← read] at reading
          have shown := later.trans (runs.reached noted.world)
          by_cases late : Timescale.atMost wait.timeout
              (Timescale.minus (surroundings.now noted.world).1 start)
          · simp only [late, if_true]
            have spent : wait.timeout ≤ (surroundings.now noted.world).1 - start :=
              of_decide_eq_true late
            have past := shown.trans reading
            refine .fail ⟨⟨0, .once call outcome past, nofun⟩, fun _ _ _ => .inr ?_⟩
            linarith
          · simp only [late]
            have early : (surroundings.now noted.world).1 - start < wait.timeout :=
              not_le.mp fun reached => late (decide_eq_true reached)
            refine .afterSleep fun rested slept => ?_
            have waited := runs.sleeping wait.interval timed.world
            rw [← slept] at waited
            have onward : since + wait.interval ≤ clock rested.world := by linarith
            refine (ih (polls + 1) _ onward).weaken fun deeds result world rest => ?_
            obtain ⟨⟨pauses, spent, cut⟩, patient⟩ := rest
            refine ⟨⟨_, spent.again call outcome (by linarith), fun same => ?_⟩,
              fun fault same bare => ?_⟩
            · exact Nat.succ_le_succ (cut same)
            · exact (patient fault same bare).imp_left fun relayed =>
                relayed.mono fun deed member => .tail _ (.tail _ member)

theorem Wait.perform_waits (solitary : surroundings.Solitary) (runs : surroundings.RunsOn clock)
    (wait : Wait Rat) (horizon : Nat) (reached : since ≤ clock before.world) :
    (wait.perform surroundings horizon).Does before
      (Waited wait.interval (since + wait.timeout) clock since horizon) := by
  unfold perform
  refine .afterNow fun timed read => ?_
  have reading := runs.reading before.world
  rw [← read] at reading
  have shown := reached.trans (runs.reached before.world)
  refine (pollFrom_waits solitary runs wait _ horizon 0 none reading).weaken
    fun deeds result world waited => ?_
  obtain ⟨⟨pauses, spent, cut⟩, patient⟩ := waited
  rw [add_assoc] at spent
  refine ⟨⟨pauses, add_assoc since _ _ ▸ spent.rebase shown, cut⟩, fun fault same bare => ?_⟩
  exact (patient fault same bare).imp_right fun due => by linarith

end Loops

end CacheSteward
