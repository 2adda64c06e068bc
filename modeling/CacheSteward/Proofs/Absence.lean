import CacheSteward.Proofs.CallOrder
import CacheSteward.Proofs.Trying

namespace CacheSteward

/-! When a read says that an instance is gone.

A read makes nothing but reads of its instance and leaves no trace in the table of held instances,
whoever holds the instance meanwhile.  What it comes to is decided by the first answer after which
it is not tried again: only when that answer says that there is no such instance does the read say
so.
-/

variable {τ ω α : Type}

/-- An answer after which an action of this kind is not tried again. -/
def isLasting (kind : OperationKind) : Except Fault Value → Bool
  | .ok _ => true
  | .error raw => raw.disposition kind != .transient

/-- The first of the answers that is not followed by another attempt. -/
def lastingAnswer? (kind : OperationKind) (exchanges : List (Exchange τ)) :
    Option (Except Fault Value) :=
  (exchanges.map Exchange.outcome).find? (isLasting kind)

/-- Attempts stop at their first lasting answer. -/
theorem Attempts.lastingAnswer?_eq {call : RemoteCall} {kind : OperationKind}
    {exchanges : List (Exchange τ)} {outcome : Except Fault Value}
    (tried : Attempts call kind exchanges outcome) :
    lastingAnswer? kind exchanges = if isLasting kind outcome then some outcome else none := by
  unfold lastingAnswer?
  induction tried with
  | last pending outcome =>
      rw [List.map_singleton, List.find?_singleton]
  | again pending transient rest ih =>
      have passing : ∀ raw : Fault, raw.disposition kind = .transient →
          isLasting kind (.error raw) = false := by
        intro raw passes
        simp [isLasting, passes]
      rw [List.map_cons, List.find?_cons, passing _ transient]
      exact ih

theorem Attempts.lastingAnswer?_of_lasting {call : RemoteCall} {kind : OperationKind}
    {exchanges : List (Exchange τ)} {raw : Fault}
    (tried : Attempts call kind exchanges (.error raw))
    (lasting : raw.disposition kind ≠ .transient) :
    lastingAnswer? kind exchanges = some (.error raw) := by
  rw [tried.lastingAnswer?_eq]
  simp [isLasting, lasting]

theorem Attempts.lastingAnswer?_of_transient {call : RemoteCall} {kind : OperationKind}
    {exchanges : List (Exchange τ)} {raw : Fault}
    (tried : Attempts call kind exchanges (.error raw))
    (transient : raw.disposition kind = .transient) : lastingAnswer? kind exchanges = none := by
  rw [tried.lastingAnswer?_eq]
  simp [isLasting, transient]

/-- The number of exchanges does not depend on how the history is read. -/
theorem Run.Tells.within {run : Run τ ω α} {inside : Enclosure τ} {before : Session τ ω}
    {tale : List (Exchange τ) → List LogRecord → Except Halt α → Prop} {most : Nat}
    (told : run.Tells inside before tale)
    (counted : run.Tells inside before fun exchanges _ _ => exchanges.length ≤ most) :
    run.Tells inside before fun exchanges audits result =>
      tale exchanges audits result ∧ exchanges.length ≤ most := by
  obtain ⟨added, xs, rs, extended, shape, holds⟩ := told
  obtain ⟨same, ys, _, extendedToo, shapeToo, few⟩ := counted
  obtain rfl : same = added := List.append_cancel_left (extendedToo.symm.trans extended)
  have shown : xs.map Exchange.shown = ys.map Exchange.shown :=
    shape.ownCalls.symm.trans shapeToo.ownCalls
  have lengths : xs.length = ys.length := by
    simpa only [List.length_map] using congrArg List.length shown
  exact ⟨same, xs, rs, extended, shape, holds, lengths ▸ few⟩

namespace Service

variable [Timescale τ] {inside : Enclosure τ} {service : Service τ ω} {instanceId : Value}
  {budget : Budget τ}

/-- A read makes no more calls than its budget counts. -/
theorem read_tells_within (encloses : service.surroundings.Encloses inside) {most : Nat}
    (accepted : service.timeouts.budget .read none = .ok budget)
    (counted : budget.maxAttempts = .ok most) (positive : 0 < most) (before : Session τ ω) :
    (service.read instanceId).Tells inside before fun exchanges _ _ =>
      exchanges.length ≤ most := by
  unfold read
  refine .afterExcept (fun _ _ => Nat.zero_le most) fun chosen same => ?_
  obtain rfl : budget = chosen := Except.ok.inj (accepted.symm.trans same)
  have limit : (readAction instanceId budget).budget.maxAttempts = .ok most := counted
  have performed := Action.perform_tells_within encloses (.getInstanceDetail instanceId) limit
    positive before
  refine .bind performed (fun _ _ _ few => few) fun detail done xs _ _ few => ?_
  have kept : (xs ++ []).length ≤ most := by
    rw [List.append_nil]
    exact few
  have shown : Run.Tells (some <$> Run.ofExcept (InstanceHandle.ofDetail instanceId detail))
      inside done fun ys _ _ => (xs ++ ys).length ≤ most := by
    rw [map_eq_pure_bind]
    exact .afterExcept (fun _ _ => kept) fun _ _ => .pure kept
  cases detail with
  | null => exact .afterQuiet (Run.log_quiet LogChannel.noConfusion) fun _ _ _ _ => .pure kept
  | _ => exact shown

/-- Where the instance has to exist, a reading is only judged again. -/
theorem readExisting_eq (kind : OperationKind) (before : Session τ ω) :
    service.readExisting instanceId kind before =
      (existing instanceId kind (service.read instanceId before).1,
        (service.read instanceId before).2) := by
  unfold readExisting
  cases ran : service.read instanceId before with
  | mk seen after =>
      cases seen with
      | error halt => rw [Run.bind_error ran, existing]
      | ok found =>
          rw [Run.bind_ok ran]
          cases found <;> rfl

/-- A read draws no token itself. -/
theorem read_drawn (drawless : ∀ call session,
      (service.surroundings.call call session).2.drawn = session.drawn)
    (before : Session τ ω) : (service.read instanceId before).2.drawn = before.drawn := by
  let SameDrawn (before after : Session τ ω) : Prop := after.drawn = before.drawn
  have steady : Steady SameDrawn :=
    ⟨fun _ => rfl, fun first second => second.trans first, fun _ _ => rfl, fun _ _ => rfl,
      fun _ _ => rfl⟩
  have reads : (Run.remote service.surroundings (.getInstanceDetail instanceId)).Upholds
      SameDrawn := fun session => drawless _ (session.note _)
  exact read_upholds steady reads before

/-- What a read of an instance comes to, and what one comes to that takes the instance over, by the
first answer that is lasting.  Without one the time is over behind the last of the exchanges, and
the failure of that one is the cause. -/
inductive Verdict (instanceId : Value) (budget : Budget τ) (exchanges : List (Exchange τ)) :
    Option (Except Fault Value) → Except Halt (Option InstanceHandle) →
    Except Halt InstanceHandle → Prop where
  | gone {raw : Fault} (missing : raw.disposition .read = .notFound) :
      Verdict instanceId budget exchanges (some (.error raw)) (.ok none)
        (.error (.fault (.instanceNotFound instanceId (some "read") none)))
  | shown (detail : Value) :
      Verdict instanceId budget exchanges (some (.ok detail))
        (judged ((InstanceHandle.ofDetail instanceId detail).map some))
        (judged (InstanceHandle.ofDetail instanceId detail))
  | failed {raw : Fault} (lasting : raw.disposition .read ≠ .transient)
      (present : raw.disposition .read ≠ .notFound) :
      Verdict instanceId budget exchanges (some (.error raw))
        (.error (.fault (raw.recast (raw.disposition .read) .read instanceId)))
        (.error (.fault (raw.recast (raw.disposition .read) .read instanceId)))
  | spent {last : Exchange τ} {raw fault : Fault} {elapsed : τ}
      (atEnd : exchanges.getLast? = some last) (answered : last.outcome = .error raw)
      (passing : raw.disposition .read = .transient)
      (late : (readAction instanceId budget).OutOfTime elapsed
        (raw.recast .transient .read instanceId) fault) :
      Verdict instanceId budget exchanges none (.error (.fault fault)) (.error (.fault fault))

/-- An instance is said to be gone in one case only. -/
theorem Verdict.none_iff {exchanges : List (Exchange τ)} {answer : Option (Except Fault Value)}
    {seen : Except Halt (Option InstanceHandle)} {taken : Except Halt InstanceHandle}
    (verdict : Verdict instanceId budget exchanges answer seen taken) :
    seen = .ok none ↔ ∃ raw, answer = some (.error raw) ∧ raw.disposition .read = .notFound := by
  cases verdict with
  | gone missing => exact iff_of_true rfl ⟨_, rfl, missing⟩
  | shown detail =>
      refine iff_of_false (fun absent => ?_) ?_
      · obtain ⟨_, _, impossible⟩ := Fault.ok_of_map (judged_eq_ok_iff.mp absent)
        cases impossible
      · rintro ⟨_, same, _⟩
        cases same
  | failed lasting present =>
      refine iff_of_false nofun ?_
      rintro ⟨_, same, missing⟩
      cases same
      exact present missing
  | spent atEnd answered passing late =>
      refine iff_of_false nofun ?_
      rintro ⟨_, same, _⟩
      cases same

/-- How a read ends after its last answer, by the class of a failure. -/
theorem readAction_ends {raw : Fault} {result : Except Halt Value}
    (ended : (readAction instanceId budget).Ends (.error raw) result) (usable : budget.Usable) :
    (raw.disposition .read = .transient ∧ ∃ elapsed fault,
      (readAction instanceId budget).OutOfTime elapsed (raw.recast .transient .read instanceId)
        fault ∧ result = .error (.fault fault)) ∨
    (raw.disposition .read = .notFound ∧ result = .ok .null) ∨
    (raw.disposition .read ≠ .transient ∧ raw.disposition .read ≠ .notFound ∧
      result = .error (.fault (raw.recast (raw.disposition .read) .read instanceId))) := by
  unfold Action.Ends Action.judge readAction at ended
  cases meaning : raw.disposition .read with
  | transient =>
      simp only [meaning, Disposition.resolve] at ended
      obtain ⟨fault, fails, _⟩ | ⟨elapsed, spent⟩ := ended
      · exact absurd fails (usable.not_fails fault)
      · exact Or.inl ⟨rfl, elapsed, _, Action.outOfTime_exhausted _ elapsed _, spent⟩
  | notFound =>
      simp only [meaning, Disposition.resolve] at ended
      exact Or.inr (Or.inl ⟨rfl, ended⟩)
  | conflictState | fatal =>
      simp only [meaning, Disposition.resolve] at ended
      exact Or.inr (Or.inr ⟨nofun, nofun, ended⟩)

/-- A reading comes to what its first lasting answer decides. -/
theorem Reading.verdict {exchanges : List (Exchange τ)}
    {seen : Except Halt (Option InstanceHandle)}
    (reading : service.Reading instanceId exchanges seen)
    (accepted : service.timeouts.budget .read none = .ok budget) (usable : budget.Usable)
    (there : ∀ exchange ∈ exchanges, exchange.outcome ≠ .ok .null) :
    Verdict instanceId budget exchanges (lastingAnswer? .read exchanges) seen
      (existing instanceId .read seen) := by
  cases reading with
  | refused unaccepted =>
      rw [accepted] at unaccepted
      cases unaccepted
  | failed chosen tried ended =>
      obtain rfl := Except.ok.inj (accepted.symm.trans chosen)
      obtain ⟨raw, rfl⟩ := Action.failed_of_ends_error ended
      obtain ⟨last, atEnd, _, answered⟩ := tried.getLast?
      obtain ⟨passing, elapsed, fault, late, spent⟩ | ⟨_, done⟩ | ⟨lasting, present, recast⟩ :=
        readAction_ends ended usable
      · cases spent
        rw [tried.lastingAnswer?_of_transient passing]
        exact .spent atEnd answered passing late
      · cases done
      · cases recast
        rw [tried.lastingAnswer?_of_lasting lasting]
        exact .failed lasting present
  | missing chosen tried ended =>
      obtain rfl := Except.ok.inj (accepted.symm.trans chosen)
      obtain ⟨last, atEnd, _, rfl⟩ := tried.getLast?
      cases answered : last.outcome with
      | ok value =>
          rw [answered] at ended
          cases ended
          exact absurd answered (there last (List.mem_of_getLast? atEnd))
      | error raw =>
          rw [answered] at ended tried
          obtain ⟨_, _, _, _, impossible⟩ | ⟨missing, _⟩ | ⟨_, _, impossible⟩ :=
            readAction_ends ended usable
          · cases impossible
          · have lasting : raw.disposition .read ≠ .transient := by
              rw [missing]
              nofun
            rw [tried.lastingAnswer?_of_lasting lasting]
            exact .gone missing
          · cases impossible
  | found chosen tried ended detailed =>
      obtain rfl := Action.answered_of_ends_given ended detailed
      rw [existing_judged, tried.lastingAnswer?_eq]
      exact .shown _

/-- Reading an instance, and taking it over, make only reads of it, no more than their budget
counts.  They draw no token and leave the table of held instances as it is, whoever holds the
instance.  Both come to what the first lasting answer decides, and the instance is said to be gone
exactly when that answer says that there is none. -/
theorem read_none_iff_gone (keeps : service.surroundings.Keeps)
    (accepted : service.timeouts.budget .read none = .ok budget) (usable : budget.Usable)
    {most : Nat} (counted : budget.maxAttempts = .ok most) (positive : 0 < most)
    (instanceId : Value) (before : Session τ ω) :
    let read := service.read instanceId before
    let adopted := service.adopt instanceId before
    ∃ added exchanges,
      read.2.events = before.events ++ added ∧ Told Undisturbed added exchanges [] ∧
      (∀ exchange ∈ exchanges, exchange.call = .getInstanceDetail instanceId) ∧
      exchanges ≠ [] ∧ exchanges.length ≤ most ∧
      adopted.2 = read.2 ∧ read.2.inFlight = before.inFlight ∧
      ((∀ call session, (service.surroundings.call call session).2.drawn = session.drawn) →
        read.2.drawn = before.drawn) ∧
      ((∀ exchange ∈ exchanges, exchange.outcome ≠ .ok .null) →
        Verdict instanceId budget exchanges (lastingAnswer? .read exchanges) read.1 adopted.1 ∧
        (read.1 = .ok none ↔ ∃ raw, lastingAnswer? .read exchanges = some (.error raw) ∧
          raw.disposition .read = .notFound)) := by
  intro read adopted
  have adopts : adopted = (existing instanceId .read read.1, read.2) := readExisting_eq _ before
  obtain ⟨added, exchanges, audits, extended, told, ⟨rfl, reading⟩, few⟩ :=
    (read_tells keeps.encloses instanceId before).within
      (read_tells_within keeps.encloses accepted counted positive before)
  have kept : Kept none before read.2 := read_keeps keeps instanceId before
  refine ⟨added, exchanges, extended, told, reading.calls, reading.ne_nil accepted, few,
    congrArg Prod.snd adopts, kept.table, fun drawless => read_drawn drawless before,
    fun there => ?_⟩
  have verdict := reading.verdict accepted usable there
  rw [adopts]
  exact ⟨verdict, verdict.none_iff⟩

/-- An instance that goes while an operation holds it. -/
def heldAndGone : Session Rat (List (Except Fault Value)) where
  world := [.error (.plain .connection []), .error (.remote "InstanceNotExist" "" none none)]
  inFlight := [⟨.text "scs-1", some ⟨.delete, some "scs-1", "t-0", 1200⟩⟩]

/-- A lost connection is not taken for an instance that is gone, but what follows it is. -/
theorem read_none_iff_gone_held :
    let read := Sample.scripted.read (.text "scs-1") heldAndGone
    read.1 = .ok none ∧ read.2.inFlight = heldAndGone.inFlight ∧
      ∃ exchanges : List (Exchange Rat), exchanges.length ≤ 6 ∧
        ∃ raw, lastingAnswer? .read exchanges = some (.error raw) ∧
          raw.disposition .read = .notFound := by
  intro read
  have accepted : Sample.scripted.timeouts.budget .read none = .ok ⟨60, 10⟩ := rfl
  have counted : (⟨60, 10⟩ : Budget Rat).maxAttempts = .ok 6 :=
    congrArg Except.ok (by decide +kernel : max 1 ((60 : Rat) / 10).ceil.toNat = 6)
  have failing : ∀ answer ∈ answersOf read.2.events, answer.2.toOption.isNone = true :=
    List.all_eq_true.mp (by decide +kernel)
  obtain ⟨added, exchanges, extended, told, _, _, few, _, table, _, decided⟩ :=
    read_none_iff_gone Sample.scripted_solitary.keeps accepted (Budget.usable_exact _) counted
      (by decide) (.text "scs-1") heldAndGone
  have gone : read.1 = .ok none := by decide +kernel
  refine ⟨gone, table, exchanges, few, (decided fun exchange member null => ?_).2.mp gone⟩
  have noted : Event.answered exchange.call exchange.outcome ∈ read.2.events :=
    extended ▸ told.answered_mem exchange member
  have fails := failing exchange.answer (List.mem_filterMap.mpr ⟨_, noted, rfl⟩)
  rw [Exchange.answer, null] at fails
  cases fails

end Service

end CacheSteward
