import CacheSteward.Proofs.History

namespace CacheSteward

/-! What computations leave in the history of a session.

A computation is told by its exchanges with the control plane, its audit records and its ending.
The rules below put the tale of a sequence together from the tales of its parts; everything that is
neither a call nor an audit record is passed over.
-/

variable {τ ω α β : Type}

/-- Calls add balanced histories, of which `inside` says more. -/
def Surroundings.Encloses (inside : Enclosure τ) (surroundings : Surroundings τ ω) : Prop :=
  ∀ call session, ∃ inner, (surroundings.call call session).2.events = session.events ++ inner ∧
    Balanced inner ∧ inside call (call.instanceId?.bind session.inFlight.pending?) inner

/-- Calls touch only the world: no operation runs inside them. -/
def Surroundings.Solitary (surroundings : Surroundings τ ω) : Prop :=
  ∀ call session, ∃ world, (surroundings.call call session).2 = { session with world }

namespace Surroundings

theorem Solitary.encloses {surroundings : Surroundings τ ω} (solitary : surroundings.Solitary) :
    surroundings.Encloses Bare := by
  intro call session
  obtain ⟨world, answered⟩ := solitary call session
  refine ⟨[], ?_, .nil, rfl⟩
  rw [answered, List.append_nil]
  rfl

theorem ofAnswers_solitary (answer : RemoteCall → StateM ω (Except Fault Value))
    (now : StateM ω τ) (sleep : τ → ω → ω) (token : Nat → String) :
    (ofAnswers answer now sleep token).Solitary :=
  fun _ _ => ⟨_, rfl⟩

end Surroundings

/-- Why an instance cannot be claimed. -/
inductive Unclaimed (table : InFlight τ) (instanceId : Value) : Fault → Prop where
  | unkeyed (unkeyed : instanceId.isKey = false) : Unclaimed table instanceId (.noKey instanceId)
  | taken {held : Held τ} (keyed : instanceId.isKey)
      (found : table.find? instanceId = some held) :
      Unclaimed table instanceId (.operationInProgress instanceId
        (held.pending.map fun pending => pending.kind.word))

theorem Unclaimed.not_of_free {table : InFlight τ} {instanceId : Value} (keyed : instanceId.isKey)
    (free : table.find? instanceId = none) (fault : Fault) :
    ¬ Unclaimed table instanceId fault := by
  intro unclaimed
  cases unclaimed with
  | unkeyed unkeyed =>
      rw [keyed] at unkeyed
      cases unkeyed
  | taken _ found =>
      rw [free] at found
      cases found

theorem Unclaimed.eq_noKey {table : InFlight τ} {instanceId : Value} {fault : Fault}
    (unclaimed : Unclaimed table instanceId fault) (unkeyed : instanceId.isKey = false) :
    fault = .noKey instanceId := by
  cases unclaimed with
  | unkeyed => rfl
  | taken keyed found =>
      rw [unkeyed] at keyed
      cases keyed

namespace Session

@[simp] theorem events_note (event : Event τ) (session : Session τ ω) :
    (session.note event).events = session.events ++ [event] := by
  simp only [note, events, List.reverse_cons]

end Session

namespace Run

theorem bind_ok {run : Run τ ω α} {next : α → Run τ ω β} {before after : Session τ ω} {a : α}
    (ran : run before = (.ok a, after)) : (run >>= next) before = next a after := by
  change ExceptT.bindCont next (run before).1 (run before).2 = _
  rw [ran]
  rfl

theorem bind_error {run : Run τ ω α} {next : α → Run τ ω β} {before after : Session τ ω}
    {halt : Halt} (ran : run before = (.error halt, after)) :
    (run >>= next) before = (.error halt, after) := by
  change ExceptT.bindCont next (run before).1 (run before).2 = _
  rw [ran]
  rfl

theorem tryCatch_ok {run : Run τ ω α} {handler : Halt → Run τ ω α} {before after : Session τ ω}
    {a : α} (ran : run before = (.ok a, after)) : tryCatch run handler before = (.ok a, after) := by
  change (ExceptT.tryCatch run handler : StateM (Session τ ω) (Except Halt α)) before = _
  simp only [ExceptT.tryCatch, ExceptT.mk, bind, StateT.bind]
  rw [ran]
  rfl

theorem tryCatch_error {run : Run τ ω α} {handler : Halt → Run τ ω α}
    {before after : Session τ ω} {halt : Halt} (ran : run before = (.error halt, after)) :
    tryCatch run handler before = handler halt after := by
  change (ExceptT.tryCatch run handler : StateM (Session τ ω) (Except Halt α)) before = _
  simp only [ExceptT.tryCatch, ExceptT.mk, bind, StateT.bind]
  rw [ran]

theorem discard_eq (run : Run τ ω α) :
    (Functor.discard run : Run τ ω PUnit) = run >>= fun _ => pure ⟨⟩ := by
  simp only [Functor.discard, map_const, Function.comp_apply, bind_pure_comp]

/-- Holding a free instance, a computation runs and releases it at its end. -/
theorem claiming_free {instanceId : Value} {body : Run τ ω α} {before : Session τ ω}
    (keyed : instanceId.isKey) (free : before.inFlight.find? instanceId = none) :
    claiming instanceId body before =
      followedBy body
        (fun session => { session with inFlight := session.inFlight.release instanceId })
        { before with inFlight := before.inFlight.hold instanceId none } := by
  have looked : (get : Run τ ω (Session τ ω)) before = (.ok before, before) := rfl
  simp only [claiming, keyed, if_true]
  rw [bind_ok looked]
  simp only [free]
  exact bind_ok rfl

/-- A held instance is refused, and nothing happens. -/
theorem claiming_held {instanceId : Value} {body : Run τ ω α} {before : Session τ ω}
    {held : Held τ} (keyed : instanceId.isKey)
    (taken : before.inFlight.find? instanceId = some held) :
    claiming instanceId body before =
      (.error (.fault (.operationInProgress instanceId
        (held.pending.map fun pending => pending.kind.word))), before) := by
  have looked : (get : Run τ ω (Session τ ω)) before = (.ok before, before) := rfl
  simp only [claiming, keyed, if_true]
  rw [bind_ok looked]
  simp only [taken]
  rfl

theorem claiming_unkeyed {instanceId : Value} {body : Run τ ω α} {before : Session τ ω}
    (unkeyed : instanceId.isKey = false) :
    claiming instanceId body before = (.error (.fault (.noKey instanceId)), before) := by
  simp only [claiming, unkeyed, Bool.false_eq_true, if_false]
  exact bind_error rfl

/-- From a session, a computation adds exchanges and audit records, and ends, as `tale` says. -/
def Tells (run : Run τ ω α) (inside : Enclosure τ) (before : Session τ ω)
    (tale : List (Exchange τ) → List LogRecord → Except Halt α → Prop) : Prop :=
  ∃ added exchanges audits, (run before).2.events = before.events ++ added ∧
    Told inside added exchanges audits ∧ tale exchanges audits (run before).1

/-- A computation that succeeds, adds nothing to be told and leaves the held instances alone. -/
def Quiet (run : Run τ ω α) : Prop :=
  ∀ before, ∃ a after added, run before = (.ok a, after) ∧ after.inFlight = before.inFlight ∧
    after.events = before.events ++ added ∧ ∀ inside, Told inside added [] []

theorem log_quiet {record : LogRecord} (ordinary : record.channel ≠ .audit) :
    (log record : Run τ ω Unit).Quiet :=
  fun _ => ⟨(), _, [.logged record], rfl, rfl, Session.events_note _ _,
    fun _ => .logged ordinary .nil⟩

theorem logs_quiet {records : List LogRecord}
    (ordinary : ∀ record ∈ records, record.channel ≠ .audit) :
    (records.forM log : Run τ ω Unit).Quiet := by
  induction records with
  | nil => exact fun before => ⟨(), before, [], rfl, rfl, (List.append_nil _).symm, fun _ => .nil⟩
  | cons record rest ih =>
      intro before
      obtain ⟨_, middle, first, ran, same, extended, told⟩ :=
        log_quiet (ordinary record List.mem_cons_self) before
      obtain ⟨_, after, more, ranRest, sameRest, further, toldRest⟩ :=
        ih (fun other member => ordinary other (List.mem_cons_of_mem _ member)) middle
      refine ⟨(), after, first ++ more, (bind_ok ran).trans ranRest, sameRest.trans same, ?_,
        fun inside => (told inside).append (toldRest inside)⟩
      rw [further, extended, List.append_assoc]

theorem sleep_quiet (surroundings : Surroundings τ ω) (span : τ) :
    (sleep surroundings span).Quiet :=
  fun _ => ⟨(), _, [.slept span], rfl, rfl, Session.events_note _ _, fun _ => .slept span .nil⟩

theorem now_quiet (surroundings : Surroundings τ ω) : (now surroundings).Quiet :=
  fun _ => ⟨_, _, [], rfl, rfl, (List.append_nil _).symm, fun _ => .nil⟩

theorem elapsed_quiet [Timescale τ] (surroundings : Surroundings τ ω) (start : τ) :
    (elapsed surroundings start).Quiet :=
  fun _ => ⟨_, _, [], rfl, rfl, (List.append_nil _).symm, fun _ => .nil⟩

theorem draw_quiet (surroundings : Surroundings τ ω) : (draw surroundings).Quiet :=
  fun _ => ⟨_, _, [], rfl, rfl, (List.append_nil _).symm, fun _ => .nil⟩

/-- What notices of known faults leave in the audit trail. -/
def notices (entry : Fault → AuditEntry) : Except Halt α → List LogRecord
  | .ok _ => []
  | .error .unfinished => []
  | .error (.fault fault) => if fault.isKnown then [(entry fault).record] else []

namespace Tells

variable {run : Run τ ω α} {inside : Enclosure τ} {before : Session τ ω}
  {tale : List (Exchange τ) → List LogRecord → Except Halt α → Prop}
  {next : α → Run τ ω β} {whole : List (Exchange τ) → List LogRecord → Except Halt β → Prop}

theorem weaken {weaker : List (Exchange τ) → List LogRecord → Except Halt α → Prop}
    (told : run.Tells inside before tale)
    (implies : ∀ xs rs outcome, tale xs rs outcome → weaker xs rs outcome) :
    run.Tells inside before weaker := by
  obtain ⟨added, xs, rs, extended, shape, holds⟩ := told
  exact ⟨added, xs, rs, extended, shape, implies xs rs _ holds⟩

/-- The rest of a sequence is told from where its first part ends. -/
theorem bind (first : run.Tells inside before tale)
    (stops : ∀ halt xs rs, tale xs rs (.error halt) → whole xs rs (.error halt))
    (goesOn : ∀ a after xs rs, run before = (.ok a, after) → tale xs rs (.ok a) →
      (next a).Tells inside after fun ys ss outcome => whole (xs ++ ys) (rs ++ ss) outcome) :
    (run >>= next).Tells inside before whole := by
  obtain ⟨added, xs, rs, extended, shape, holds⟩ := first
  cases ran : run before with
  | mk outcome after =>
      rw [ran] at extended holds
      cases outcome with
      | error halt =>
          refine ⟨added, xs, rs, ?_, shape, ?_⟩
          · rw [bind_error ran]
            exact extended
          · rw [bind_error ran]
            exact stops halt xs rs holds
      | ok a =>
          obtain ⟨more, ys, ss, further, restShape, rest⟩ := goesOn a after xs rs ran holds
          refine ⟨added ++ more, xs ++ ys, rs ++ ss, ?_, shape.append restShape, ?_⟩
          · rw [bind_ok ran, further, extended, List.append_assoc]
          · rw [bind_ok ran]
            exact rest

/-- A quiet first part is passed over. -/
theorem afterQuiet (quiet : run.Quiet)
    (goesOn : ∀ a after, run before = (.ok a, after) → after.inFlight = before.inFlight →
      (next a).Tells inside after whole) :
    (run >>= next).Tells inside before whole := by
  obtain ⟨a, middle, added, ran, same, extended, shape⟩ := quiet before
  obtain ⟨more, xs, rs, further, restShape, rest⟩ := goesOn a middle ran same
  refine ⟨added ++ more, xs, rs, ?_, (shape inside).append restShape, ?_⟩
  · rw [bind_ok ran, further, extended, List.append_assoc]
  · rw [bind_ok ran]
    exact rest

/-- A judgement in front of a computation leaves no trace when it passes. -/
theorem afterExcept {result : Except Fault α}
    (fails : ∀ fault, result = .error fault → whole [] [] (.error (.fault fault)))
    (goesOn : ∀ a, result = .ok a → (next a).Tells inside before whole) :
    (ofExcept result >>= next).Tells inside before whole := by
  cases result with
  | ok a => exact goesOn a rfl
  | error fault =>
      exact ⟨[], [], [], (List.append_nil _).symm, .nil, fails fault rfl⟩

/-- A judgement of which only the failure matters. -/
theorem afterCheck {result : Except Fault α} {next : PUnit → Run τ ω β}
    (fails : ∀ fault, result = .error fault → whole [] [] (.error (.fault fault)))
    (goesOn : (next ⟨⟩).Tells inside before whole) :
    (Functor.discard (ofExcept result) >>= next).Tells inside before whole := by
  rw [discard_eq, bind_assoc]
  refine afterExcept fails fun a _ => ?_
  rw [pure_bind]
  exact goesOn

theorem afterSetPending {instanceId : Value} {pending : Option (PendingOperation τ)}
    {next : Unit → Run τ ω β}
    (goesOn : (next ()).Tells inside
      { before with inFlight := before.inFlight.hold instanceId pending } whole) :
    (setPending instanceId pending >>= next).Tells inside before whole :=
  goesOn

theorem pure {a : α} (holds : tale [] [] (.ok a)) :
    (Pure.pure a : Run τ ω α).Tells inside before tale :=
  ⟨[], [], [], (List.append_nil _).symm, .nil, holds⟩

theorem halt {halt : Halt} (holds : tale [] [] (.error halt)) :
    (throw halt : Run τ ω α).Tells inside before tale :=
  ⟨[], [], [], (List.append_nil _).symm, .nil, holds⟩

theorem fail {fault : Fault} (holds : tale [] [] (.error (.fault fault))) :
    (Run.fail fault : Run τ ω α).Tells inside before tale :=
  halt holds

/-- The result of a computation is dropped. -/
theorem discard {tale : List (Exchange τ) → List LogRecord → Except Halt PUnit → Prop}
    (told : run.Tells inside before fun xs rs outcome => tale xs rs (outcome.map fun _ => ⟨⟩)) :
    (Functor.discard run).Tells inside before tale := by
  rw [discard_eq]
  refine bind told (fun _ _ _ holds => holds) fun a after xs rs _ holds => pure ?_
  simpa only [List.append_nil, Except.map] using holds

theorem audit {entry : AuditEntry}
    {tale : List (Exchange τ) → List LogRecord → Except Halt Unit → Prop}
    (holds : tale [] [entry.record] (.ok ())) :
    (Run.audit entry : Run τ ω Unit).Tells inside before tale :=
  ⟨[.logged entry.record], [], [entry.record], Session.events_note _ _, .audited rfl .nil, holds⟩

theorem afterAudit {entry : AuditEntry} {next : Unit → Run τ ω β}
    (goesOn : (next ()).Tells inside (before.note (.logged entry.record))
      fun xs rs outcome => whole xs (entry.record :: rs) outcome) :
    (Run.audit entry >>= next).Tells inside before whole := by
  obtain ⟨more, xs, rs, further, shape, rest⟩ := goesOn
  have ran : Run.audit entry before = (.ok (), before.note (.logged entry.record)) := rfl
  refine ⟨.logged entry.record :: more, xs, entry.record :: rs, ?_, .audited rfl shape, ?_⟩
  · rw [bind_ok ran, further, Session.events_note, List.append_assoc]
    rfl
  · rw [bind_ok ran]
    exact rest

/-- A call is one exchange, whatever its outcome. -/
theorem afterRemote {surroundings : Surroundings τ ω} (encloses : surroundings.Encloses inside)
    {call : RemoteCall} {next : Except Fault Value → Run τ ω β}
    (goesOn : ∀ pending outcome after, (next outcome).Tells inside after fun xs rs result =>
      whole (⟨call, pending, outcome⟩ :: xs) rs result) :
    (Run.remote surroundings call >>= next).Tells inside before whole := by
  let pending := call.instanceId?.bind before.inFlight.pending?
  let asked := before.note (.called call pending)
  let outcome := (surroundings.call call asked).1
  let after := (surroundings.call call asked).2.note (.answered call outcome)
  obtain ⟨inner, answered, balanced, allowed⟩ := encloses call asked
  have ran : Run.remote surroundings call before = (.ok outcome, after) := rfl
  obtain ⟨more, xs, rs, further, restShape, rest⟩ := goesOn pending outcome after
  refine ⟨.called call pending :: (inner ++ .answered call outcome :: more), _, rs, ?_,
    .exchanged call pending outcome balanced allowed restShape, ?_⟩
  · rw [bind_ok ran, further, Session.events_note, answered, Session.events_note]
    simp only [List.append_assoc, List.cons_append, List.nil_append]
  · rw [bind_ok ran]
    exact rest

/-- A handler continues the tale of what failed. -/
theorem catching {run : Run τ ω β}
    {tale : List (Exchange τ) → List LogRecord → Except Halt β → Prop}
    {handler : Halt → Run τ ω β} (told : run.Tells inside before tale)
    (returns : ∀ b xs rs, tale xs rs (.ok b) → whole xs rs (.ok b))
    (handles : ∀ halt after xs rs, tale xs rs (.error halt) →
      (handler halt).Tells inside after fun ys ss outcome =>
        whole (xs ++ ys) (rs ++ ss) outcome) :
    (tryCatch run handler).Tells inside before whole := by
  obtain ⟨added, xs, rs, extended, shape, holds⟩ := told
  cases ran : run before with
  | mk outcome after =>
      rw [ran] at extended holds
      cases outcome with
      | ok b =>
          refine ⟨added, xs, rs, ?_, shape, ?_⟩
          · rw [tryCatch_ok ran]
            exact extended
          · rw [tryCatch_ok ran]
            exact returns b xs rs holds
      | error halt =>
          obtain ⟨more, ys, ss, further, restShape, rest⟩ := handles halt after xs rs holds
          refine ⟨added ++ more, xs ++ ys, rs ++ ss, ?_, shape.append restShape, ?_⟩
          · rw [tryCatch_error ran, further, extended, List.append_assoc]
          · rw [tryCatch_error ran]
            exact rest

/-- What runs afterwards leaves no trace in the history. -/
theorem followedBy {last : Session τ ω → Session τ ω}
    (unseen : ∀ session, (last session).events = session.events)
    (told : run.Tells inside before tale) : (run.followedBy last).Tells inside before tale := by
  obtain ⟨added, xs, rs, extended, shape, holds⟩ := told
  exact ⟨added, xs, rs, (unseen _).trans extended, shape, holds⟩

/-- A notice about a fault leaves a record behind those of the computation that it leaves. -/
theorem noting {entry : Fault → AuditEntry}
    (told : run.Tells inside before fun xs rs outcome =>
      tale xs (rs ++ notices entry outcome) outcome) :
    (run.onKnownFault fun fault => Run.audit (entry fault)).Tells inside before tale := by
  refine catching told (fun _ xs rs holds => ?_) fun reason _ xs rs holds => ?_
  · rw [notices, List.append_nil] at holds
    exact holds
  · rw [← List.append_nil xs] at holds
    cases reason with
    | unfinished => exact halt holds
    | fault fault =>
        simp only [notices] at holds
        by_cases known : fault.isKnown
        · simp only [known, if_true] at holds ⊢
          exact afterAudit (halt holds)
        · simp only [known, Bool.false_eq_true, if_false] at holds ⊢
          exact halt holds

/-- A notice about a fault leaves only audit records. -/
theorem noticing {tale : List (Exchange τ) → Except Halt α → Prop} {entry : Fault → AuditEntry}
    (told : run.Tells inside before fun xs _ outcome => tale xs outcome) :
    (run.onKnownFault fun fault => Run.audit (entry fault)).Tells inside before
      fun xs _ outcome => tale xs outcome :=
  noting told

/-- The notice is the only record of a computation that leaves none itself. -/
theorem notingOnly {tale : List (Exchange τ) → Except Halt α → Prop} {entry : Fault → AuditEntry}
    (told : run.Tells inside before fun xs rs outcome => rs = [] ∧ tale xs outcome) :
    (run.onKnownFault fun fault => Run.audit (entry fault)).Tells inside before
      fun xs rs outcome => rs = notices entry outcome ∧ tale xs outcome := by
  refine noting (told.weaken fun xs rs outcome holds => ?_)
  obtain ⟨rfl, holds⟩ := holds
  exact ⟨rfl, holds⟩

/-- A claim is refused, or the instance is held and its operation is told from there. -/
theorem claiming {instanceId : Value}
    (refused : ∀ fault, Unclaimed before.inFlight instanceId fault →
      tale [] [] (.error (.fault fault)))
    (goesOn : instanceId.isKey → before.inFlight.find? instanceId = none → run.Tells inside
      { before with inFlight := before.inFlight.hold instanceId none } tale) :
    (Run.claiming instanceId run).Tells inside before tale := by
  unfold Tells
  cases keyed : instanceId.isKey with
  | false =>
      rw [claiming_unkeyed keyed]
      exact ⟨[], [], [], (List.append_nil _).symm, .nil, refused _ (.unkeyed keyed)⟩
  | true =>
      cases found : before.inFlight.find? instanceId with
      | some held =>
          rw [claiming_held keyed found]
          exact ⟨[], [], [], (List.append_nil _).symm, .nil, refused _ (.taken keyed found)⟩
      | none =>
          rw [claiming_free keyed found]
          exact followedBy (fun _ => rfl) (goesOn keyed found)

end Tells

end Run

end CacheSteward
