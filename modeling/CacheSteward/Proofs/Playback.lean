import CacheSteward.Proofs.Run

namespace CacheSteward

/-! Runs among surroundings whose answers and times are known in advance.

The outcomes of the calls are one sequence, whatever is called, and the clock goes by readings of
its own or by what was slept.  A run is then followed by its deeds, its calls and its sleeps in
their order, together with the world that it leaves.
-/

variable {τ ω α β : Type}

/-- What a run does towards its surroundings. -/
inductive Deed (τ : Type) where
  | asked (call : RemoteCall) (outcome : Except Fault Value)
  | slept (span : τ)

def Deed.call? : Deed τ → Option RemoteCall
  | .asked call _ => some call
  | .slept _ => none

def Event.deed? : Event τ → Option (Deed τ)
  | .answered call outcome => some (.asked call outcome)
  | .slept span => some (.slept span)
  | _ => none

def deedsOf (events : List (Event τ)) : List (Deed τ) := events.filterMap Event.deed?

/-- One call, asked so many times with the outcomes of a sequence from an index on, and a sleep of
one length between two askings. -/
def paced (call : RemoteCall) (outcomes : Nat → Except Fault Value) (span : τ) (first : Nat) :
    Nat → List (Deed τ)
  | 0 => []
  | 1 => [.asked call (outcomes first)]
  | count + 2 =>
      .asked call (outcomes first) :: .slept span ::
        paced call outcomes span (first + 1) (count + 1)

section Paced

variable (call : RemoteCall) (outcomes : Nat → Except Fault Value) (span : τ) (first : Nat)

theorem paced_succ {count : Nat} (positive : 0 < count) :
    paced call outcomes span first (count + 1) =
      .asked call (outcomes first) :: .slept span ::
        paced call outcomes span (first + 1) count := by
  cases count with
  | zero => cases positive
  | succ count => rfl

theorem calls_paced (count : Nat) :
    (paced call outcomes span first count).filterMap Deed.call? = List.replicate count call := by
  induction count generalizing first with
  | zero => rfl
  | succ count ih =>
      cases count with
      | zero => rfl
      | succ count =>
          rw [paced_succ call outcomes span first (Nat.succ_pos count), List.replicate_succ]
          exact congrArg (call :: ·) (ih (first + 1))

end Paced

namespace Surroundings

/-- Calls are answered with a sequence of outcomes and leave the clock to itself.  `made` counts the
calls so far. -/
structure Plays (surroundings : Surroundings τ ω) (made : ω → Nat)
    (outcomes : Nat → Except Fault Value) : Prop where
  answers : ∀ call session, ∃ world,
    surroundings.call call session = (outcomes (made session.world), { session with world }) ∧
      made world = made session.world + 1
  reading : ∀ world, made (surroundings.now world).2 = made world
  sleeping : ∀ span world, made (surroundings.sleep span world) = made world

/-- In one world a call is answered, which leads to another. -/
def Answers (surroundings : Surroundings τ ω) (call : RemoteCall) (world : ω)
    (outcome : Except Fault Value) (after : ω) : Prop :=
  ∃ session : Session τ ω, session.world = world ∧
    surroundings.call call session = (outcome, { session with world := after })

theorem Plays.next {surroundings : Surroundings τ ω} {made : ω → Nat}
    {outcomes : Nat → Except Fault Value} (plays : surroundings.Plays made outcomes)
    {call : RemoteCall} {world after : ω} {outcome : Except Fault Value}
    (answers : surroundings.Answers call world outcome after) :
    outcome = outcomes (made world) ∧ made after = made world + 1 := by
  obtain ⟨session, rfl, answered⟩ := answers
  obtain ⟨other, given, counted⟩ := plays.answers call session
  rw [given] at answered
  cases answered
  exact ⟨rfl, counted⟩

theorem Plays.solitary {surroundings : Surroundings τ ω} {made : ω → Nat}
    {outcomes : Nat → Except Fault Value} (plays : surroundings.Plays made outcomes) :
    surroundings.Solitary := by
  intro call session
  obtain ⟨world, answered, _⟩ := plays.answers call session
  exact ⟨world, by rw [answered]⟩

/-- Surroundings that play a sequence, with a clock that reads how often they were called and how
long they were slept in. -/
def playing [Timescale τ] (outcomes : Nat → Except Fault Value) (reading : Nat × τ → τ) :
    Surroundings τ (Nat × τ) :=
  .ofAnswers (fun _ world => (outcomes world.1, world.1 + 1, world.2))
    (fun world => (reading world, world))
    (fun span world => (world.1, Timescale.plus world.2 span)) toString

theorem playing_plays [Timescale τ] (outcomes : Nat → Except Fault Value)
    (reading : Nat × τ → τ) : (playing outcomes reading).Plays Prod.fst outcomes where
  answers _ session := ⟨(session.world.1 + 1, session.world.2), rfl, rfl⟩
  reading _ := rfl
  sleeping _ _ := rfl

end Surroundings

namespace Run

/-- From a session, a run does what `goal` says, ends as it says and leaves such a world. -/
def Does (run : Run τ ω α) (before : Session τ ω)
    (goal : List (Deed τ) → Except Halt α → ω → Prop) : Prop :=
  ∃ added, (run before).2.events = before.events ++ added ∧
    callsOf added = (deedsOf added).filterMap Deed.call? ∧
    goal (deedsOf added) (run before).1 (run before).2.world

namespace Does

variable {run : Run τ ω α} {before : Session τ ω}
  {goal : List (Deed τ) → Except Halt α → ω → Prop}
  {next : α → Run τ ω β} {whole : List (Deed τ) → Except Halt β → ω → Prop}

theorem weaken {weaker : List (Deed τ) → Except Halt α → ω → Prop} (does : run.Does before goal)
    (implies : ∀ deeds outcome world, goal deeds outcome world → weaker deeds outcome world) :
    run.Does before weaker := by
  obtain ⟨added, extended, called, holds⟩ := does
  exact ⟨added, extended, called, implies _ _ _ holds⟩

theorem bind (first : run.Does before goal)
    (stops : ∀ halt deeds world, goal deeds (.error halt) world → whole deeds (.error halt) world)
    (goesOn : ∀ a deeds after, goal deeds (.ok a) after.world →
      (next a).Does after fun more outcome world => whole (deeds ++ more) outcome world) :
    (run >>= next).Does before whole := by
  obtain ⟨added, extended, called, holds⟩ := first
  cases ran : run before with
  | mk outcome after =>
      rw [ran] at extended holds
      cases outcome with
      | error halt =>
          refine ⟨added, ?_, called, ?_⟩
          · rw [bind_error ran]
            exact extended
          · rw [bind_error ran]
            exact stops halt _ _ holds
      | ok a =>
          obtain ⟨more, further, calledMore, rest⟩ := goesOn a _ after holds
          refine ⟨added ++ more, ?_, ?_, ?_⟩
          · rw [bind_ok ran, further, extended, List.append_assoc]
          · simp only [callsOf, deedsOf, List.filterMap_append] at called calledMore ⊢
            rw [called, calledMore]
          · rw [bind_ok ran, deedsOf, List.filterMap_append]
            exact rest

theorem pure {a : α} (holds : goal [] (.ok a) before.world) :
    (Pure.pure a : Run τ ω α).Does before goal :=
  ⟨[], (List.append_nil _).symm, rfl, holds⟩

theorem fail {fault : Fault} (holds : goal [] (.error (.fault fault)) before.world) :
    (Run.fail fault : Run τ ω α).Does before goal :=
  ⟨[], (List.append_nil _).symm, rfl, holds⟩

theorem failThen {fault : Fault} (holds : whole [] (.error (.fault fault)) before.world) :
    (Run.fail fault >>= next).Does before whole :=
  ⟨[], (List.append_nil _).symm, rfl, holds⟩

theorem afterExcept {result : Except Fault α}
    (fails : ∀ fault, result = .error fault → whole [] (.error (.fault fault)) before.world)
    (goesOn : ∀ a, result = .ok a → (next a).Does before whole) :
    (Run.ofExcept result >>= next).Does before whole := by
  cases result with
  | ok a => exact goesOn a rfl
  | error fault => exact failThen (fails fault rfl)

theorem afterCheck {result : Except Fault α} {next : PUnit → Run τ ω β}
    (fails : ∀ fault, result = .error fault → whole [] (.error (.fault fault)) before.world)
    (goesOn : (next ⟨⟩).Does before whole) :
    (Functor.discard (Run.ofExcept result) >>= next).Does before whole := by
  rw [discard_eq, bind_assoc]
  refine afterExcept fails fun a _ => ?_
  rw [pure_bind]
  exact goesOn

/-- A record leaves the world alone and is no deed. -/
theorem afterLog {record : LogRecord} {next : Unit → Run τ ω β}
    (goesOn : ∀ after, after.world = before.world → (next ()).Does after whole) :
    (Run.log record >>= next).Does before whole := by
  obtain ⟨added, extended, called, holds⟩ := goesOn (before.note (.logged record)) rfl
  have ran : Run.log record before = (.ok (), before.note (.logged record)) := rfl
  refine ⟨.logged record :: added, ?_, called, ?_⟩
  · rw [bind_ok ran, extended, Session.events_note, List.append_assoc]
    rfl
  · rw [bind_ok ran]
    exact holds

theorem afterLogs {records : List LogRecord} {next : PUnit → Run τ ω β}
    (goesOn : ∀ after, after.world = before.world → (next ⟨⟩).Does after whole) :
    (records.forM Run.log >>= next).Does before whole := by
  induction records generalizing before with
  | nil => exact goesOn before rfl
  | cons record rest ih =>
      change ((Run.log record >>= fun _ => rest.forM Run.log) >>= next).Does before whole
      rw [bind_assoc]
      exact afterLog fun noted same => ih fun after kept => goesOn after (kept.trans same)

theorem afterNow {surroundings : Surroundings τ ω} {next : τ → Run τ ω β}
    (goesOn : ∀ after, after.world = (surroundings.now before.world).2 →
      (next (surroundings.now before.world).1).Does after whole) :
    (Run.now surroundings >>= next).Does before whole :=
  goesOn { before with world := (surroundings.now before.world).2 } rfl

theorem afterElapsed [Timescale τ] {surroundings : Surroundings τ ω} {start : τ}
    {next : τ → Run τ ω β}
    (goesOn : ∀ after, after.world = (surroundings.now before.world).2 →
      (next (Timescale.minus (surroundings.now before.world).1 start)).Does after whole) :
    (Run.elapsed surroundings start >>= next).Does before whole :=
  goesOn { before with world := (surroundings.now before.world).2 } rfl

theorem afterSleep {surroundings : Surroundings τ ω} {span : τ} {next : Unit → Run τ ω β}
    (goesOn : ∀ after, after.world = surroundings.sleep span before.world →
      (next ()).Does after fun deeds outcome world =>
        whole (.slept span :: deeds) outcome world) :
    (Run.sleep surroundings span >>= next).Does before whole := by
  let after : Session τ ω :=
    Session.note (.slept span) { before with world := surroundings.sleep span before.world }
  obtain ⟨added, extended, called, holds⟩ := goesOn after rfl
  have ran : Run.sleep surroundings span before = (.ok (), after) := rfl
  refine ⟨.slept span :: added, ?_, called, ?_⟩
  · rw [bind_ok ran, extended, Session.events_note, List.append_assoc]
    rfl
  · rw [bind_ok ran]
    exact holds

/-- Where no operation runs inside of calls, a call is one deed. -/
theorem afterCall {surroundings : Surroundings τ ω} (solitary : surroundings.Solitary)
    {call : RemoteCall} {next : Except Fault Value → Run τ ω β}
    (goesOn : ∀ outcome after, surroundings.Answers call before.world outcome after.world →
      (next outcome).Does after fun deeds result world =>
        whole (.asked call outcome :: deeds) result world) :
    (Run.remote surroundings call >>= next).Does before whole := by
  let pending := call.instanceId?.bind before.inFlight.pending?
  let asked := before.note (.called call pending)
  let outcome := (surroundings.call call asked).1
  obtain ⟨world, left⟩ := solitary call asked
  have answered : surroundings.call call asked = (outcome, { asked with world }) :=
    Prod.ext rfl left
  let after : Session τ ω := Session.note (.answered call outcome) { asked with world }
  obtain ⟨added, extended, called, holds⟩ := goesOn outcome after ⟨asked, rfl, answered⟩
  have ran : Run.remote surroundings call before = (.ok outcome, after) := by
    change (Except.ok (surroundings.call call asked).1,
      (surroundings.call call asked).2.note (.answered call (surroundings.call call asked).1)) = _
    rw [answered]
  have asking : ({ asked with world } : Session τ ω).events = asked.events := rfl
  refine ⟨.called call pending :: .answered call outcome :: added, ?_, ?_, ?_⟩
  · rw [bind_ok ran, extended, Session.events_note, asking, Session.events_note,
      List.append_assoc, List.append_assoc]
    rfl
  · exact congrArg (call :: ·) called
  · rw [bind_ok ran]
    exact holds

theorem afterDraw {surroundings : Surroundings τ ω} {next : String → Run τ ω β}
    (goesOn : ∀ after, after.world = before.world →
      (next (surroundings.token before.drawn)).Does after whole) :
    (Run.draw surroundings >>= next).Does before whole :=
  goesOn { before with drawn := before.drawn + 1 } rfl

theorem afterSetPending {instanceId : Value} {pending : Option (PendingOperation τ)}
    {next : Unit → Run τ ω β}
    (goesOn : ∀ after, after.world = before.world → (next ()).Does after whole) :
    (Run.setPending instanceId pending >>= next).Does before whole :=
  goesOn { before with inFlight := before.inFlight.hold instanceId pending } rfl

/-- The result of a computation is dropped. -/
theorem discard {goal : List (Deed τ) → Except Halt PUnit → ω → Prop}
    (does : run.Does before fun deeds outcome world =>
      goal deeds (outcome.map fun _ => ⟨⟩) world) :
    (Functor.discard run).Does before goal := by
  rw [discard_eq]
  refine bind does (fun _ _ _ holds => holds) fun a deeds after holds => pure ?_
  simpa only [List.append_nil, Except.map] using holds

/-- What runs afterwards is no deed and leaves the world alone. -/
theorem followedBy {last : Session τ ω → Session τ ω}
    (unseen : ∀ session, (last session).events = session.events)
    (still : ∀ session, (last session).world = session.world) (does : run.Does before goal) :
    (run.followedBy last).Does before goal := by
  obtain ⟨added, extended, called, holds⟩ := does
  exact ⟨added, (unseen _).trans extended, called, (still _).symm ▸ holds⟩

/-- A handler continues what failed. -/
theorem catching {run : Run τ ω β} {goal : List (Deed τ) → Except Halt β → ω → Prop}
    {handler : Halt → Run τ ω β} (does : run.Does before goal)
    (returns : ∀ b deeds world, goal deeds (.ok b) world → whole deeds (.ok b) world)
    (handles : ∀ halt deeds after, goal deeds (.error halt) after.world →
      (handler halt).Does after fun more outcome world => whole (deeds ++ more) outcome world) :
    (tryCatch run handler).Does before whole := by
  obtain ⟨added, extended, called, holds⟩ := does
  cases ran : run before with
  | mk outcome after =>
      rw [ran] at extended holds
      cases outcome with
      | ok b =>
          refine ⟨added, ?_, called, ?_⟩
          · rw [tryCatch_ok ran]
            exact extended
          · rw [tryCatch_ok ran]
            exact returns b _ _ holds
      | error halt =>
          obtain ⟨more, further, calledMore, rest⟩ := handles halt _ after holds
          refine ⟨added ++ more, ?_, ?_, ?_⟩
          · rw [tryCatch_error ran, further, extended, List.append_assoc]
          · simp only [callsOf, deedsOf, List.filterMap_append] at called calledMore ⊢
            rw [called, calledMore]
          · rw [tryCatch_error ran, deedsOf, List.filterMap_append]
            exact rest

/-- A notice about a fault is no deed. -/
theorem noticing {entry : Fault → AuditEntry} (does : run.Does before goal) :
    (run.onKnownFault fun fault => Run.audit (entry fault)).Does before goal := by
  refine catching does (fun _ _ _ holds => holds) fun reason deeds after holds => ?_
  have ended : ∀ world, world = after.world → goal (deeds ++ []) (.error reason) world := by
    intro world same
    rw [List.append_nil, same]
    exact holds
  have rethrown : ∀ later : Session τ ω, later.world = after.world →
      (throw reason : Run τ ω α).Does later fun more outcome world =>
        goal (deeds ++ more) outcome world :=
    fun later same => ⟨[], (List.append_nil _).symm, rfl, ended _ same⟩
  cases reason with
  | unfinished => exact rethrown after rfl
  | fault fault =>
      by_cases known : fault.isKnown
      · simp only [known, if_true]
        exact afterLog rethrown
      · simp only [known]
        exact rethrown after rfl

/-- A claim is refused, or the instance is held and its operation runs. -/
theorem claiming {instanceId : Value}
    (refused : ∀ fault, Unclaimed before.inFlight instanceId fault →
      goal [] (.error (.fault fault)) before.world)
    (goesOn : ∀ after, after.world = before.world → run.Does after goal) :
    (Run.claiming instanceId run).Does before goal := by
  unfold Does
  cases keyed : instanceId.isKey with
  | false =>
      rw [claiming_unkeyed keyed]
      exact ⟨[], (List.append_nil _).symm, rfl, refused _ (.unkeyed keyed)⟩
  | true =>
      cases found : before.inFlight.find? instanceId with
      | some held =>
          rw [claiming_held keyed found]
          exact ⟨[], (List.append_nil _).symm, rfl, refused _ (.taken keyed found)⟩
      | none =>
          rw [claiming_free keyed found]
          exact followedBy (fun _ => rfl) (fun _ => rfl) (goesOn _ rfl)

/-- A call that is answered from a sequence takes the next outcome of it. -/
theorem afterPlayed {surroundings : Surroundings τ ω} {made : ω → Nat}
    {outcomes : Nat → Except Fault Value} (plays : surroundings.Plays made outcomes)
    {call : RemoteCall} {next : Except Fault Value → Run τ ω β}
    (goesOn : ∀ after,
      surroundings.Answers call before.world (outcomes (made before.world)) after.world →
      made after.world = made before.world + 1 →
      (next (outcomes (made before.world))).Does after fun deeds result world =>
        whole (.asked call (outcomes (made before.world)) :: deeds) result world) :
    (Run.remote surroundings call >>= next).Does before whole := by
  refine afterCall plays.solitary fun outcome after answers => ?_
  obtain ⟨rfl, counted⟩ := plays.next answers
  exact goesOn after answers counted

end Does

end Run

end CacheSteward
