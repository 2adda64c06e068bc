import CacheSteward.Proofs.Endings
import CacheSteward.Proofs.Failures

namespace CacheSteward

/-! How the deletion of an instance ends.

One and the same failure means different things to the two loops of a deletion.  A state that does
not allow the release, or an instance that is gone already, is as good as a success for the call
that asks for it.  Behind that call the first ends the wait with a failure, and the second with the
status that was waited for.
-/

variable {τ ω : Type}

/-- A known fault of a kind. -/
def Fault.IsOf (kind : FaultKind) (fault : Fault) : Prop :=
  ∃ message details cause, fault = .known kind message details cause

/-- The kind of fault as which a failure of the machinery is reported. -/
def Disposition.faultKind : Disposition → FaultKind
  | .transient => .transientRemote
  | .conflictState => .conflictState
  | .notFound => .instanceNotFound
  | .fatal => .remoteOperation

namespace Fault

variable {fault : Fault} {kind other : FaultKind}

theorem IsOf.unique (first : fault.IsOf kind) (second : fault.IsOf other) : kind = other := by
  obtain ⟨_, _, _, rfl⟩ := first
  obtain ⟨_, _, _, same⟩ := second
  cases same
  rfl

theorem not_isOf_of_raw (raw : fault.isKnown = false) : ¬ fault.IsOf kind := by
  intro is
  obtain ⟨_, _, _, rfl⟩ := is
  cases raw

theorem isOf_recast (raw : fault.isKnown = false) (disposition : Disposition)
    (operation : OperationKind) (instanceId : Value) :
    (fault.recast disposition operation instanceId).IsOf disposition.faultKind := by
  cases fault with
  | known about message details cause => cases raw
  | remote | plain | unlisted | invalidRecord => cases disposition <;> exact ⟨_, _, _, rfl⟩

end Fault

/-- Outcomes of the call that asks for a release with which it counts as granted. -/
inductive GrantsRelease : Except Fault Value → Prop where
  | answered (answer : Value) : GrantsRelease (.ok answer)
  | conflicting {raw : Fault} (conflicts : raw.disposition .delete = .conflictState) :
      GrantsRelease (.error raw)
  | missing {raw : Fault} (missing : raw.disposition .delete = .notFound) :
      GrantsRelease (.error raw)

/-- Outcomes of a poll that show an instance gone, with its final status. -/
inductive ShowsGone : Except Fault Value → InstanceStatus → Prop where
  | shown {detail : Value} {status : InstanceStatus}
      (given : detail.get? "instanceStatus" = some (.text status.word))
      (gone : status = .paused ∨ status = .deleted ∨ status = .isolated) :
      ShowsGone (.ok detail) status
  | missing {raw : Fault} (missing : raw.disposition .delete = .notFound) :
      ShowsGone (.error raw) .deleted

theorem InstanceStatus.mem_gone_iff {status : InstanceStatus} :
    status ∈ gone ↔ status = .paused ∨ status = .deleted ∨ status = .isolated := by
  simp [gone]

namespace Sample

/-- A conflict for the release, and two polls. -/
def pausing : Session Rat (List (Except Fault Value)) where
  world := [.error (.remote "InvalidInstanceStatus" "" none none),
    .ok (.fields [("instanceStatus", .text "Deleting")]),
    .ok (.fields [("instanceStatus", .text "Paused")])]

end Sample

namespace Service

variable {instanceId : Value} {budget : Budget τ} {rest : τ}

theorem goneWait_decides_ok_iff {outcome : Except Fault Value} {status : InstanceStatus} :
    (goneWait instanceId budget rest).Decides outcome (.ok status) ↔ ShowsGone outcome status := by
  constructor
  · intro decides
    cases decides with
    | reached given target passes => exact .shown given (InstanceStatus.mem_gone_iff.mp target)
    | gone missing targeted => exact .missing missing
  · intro shows
    cases shows with
    | shown given gone => exact .reached given (InstanceStatus.mem_gone_iff.mpr gone) rfl
    | missing missing => exact .gone missing rfl

theorem grantsRelease_iff {clientToken : String} {outcome : Except Fault Value} :
    GrantsRelease outcome ↔
      ∃ value, (deleteAction instanceId budget clientToken).Decides outcome (.ok value) := by
  constructor
  · intro grants
    cases grants with
    | answered answer => exact ⟨answer, .answered answer⟩
    | conflicting met | missing met =>
        refine ⟨.null, .counted ?_⟩
        change (Fault.disposition _ .delete).resolve .delete = .success
        rw [met]
        rfl
  · intro decided
    obtain ⟨value, decides⟩ := decided
    cases decides with
    | answered => exact .answered _
    | @counted raw resolved =>
        change (raw.disposition .delete).resolve .delete = .success at resolved
        cases met : raw.disposition .delete with
        | conflictState => exact .conflicting met
        | notFound => exact .missing met
        | transient | fatal =>
            rw [met] at resolved
            cases resolved

/-- The last call for a release counts as granted. -/
def Granted (tries : List (Exchange τ)) : Prop :=
  ∃ last, tries.getLast? = some last ∧ GrantsRelease last.outcome

/-- What the faults of a deletion say. -/
structure ReleaseFault (polls : List (Exchange τ)) (fault : Fault) : Prop where
  /-- Only a status that is not known is unexpected. -/
  unexpected : ∀ shown, fault.IsOf (.unexpectedState shown) →
    ∃ last es, polls.getLast? = some last ∧ last.outcome = .ok (.mapping es) ∧
      ∀ status : InstanceStatus, Value.lookup "instanceStatus" es ≠ some (.text status.word)
  /-- A state that does not allow the release was met by the last poll. -/
  conflict : fault.IsOf .conflictState →
    ∃ last raw, polls.getLast? = some last ∧ last.outcome = .error raw ∧
      raw.disposition .delete = .conflictState
  present : ¬ fault.IsOf .instanceNotFound

namespace ReleaseFault

variable {polls : List (Exchange τ)} {fault : Fault} {kind : FaultKind}

theorem of_kind (is : fault.IsOf kind)
    (other : kind = .remoteOperation ∨ ∃ elapsed, kind = .operationTimeout elapsed) :
    ReleaseFault polls fault := by
  have apart : ∀ {wanted : FaultKind}, fault.IsOf wanted →
      wanted = .remoteOperation ∨ ∃ elapsed, wanted = .operationTimeout elapsed := by
    intro wanted also
    exact is.unique also ▸ other
  refine ⟨fun shown met => ?_, fun met => ?_, fun met => ?_⟩
  all_goals
    rcases apart met with same | ⟨_, same⟩
    · cases same
    · cases same

theorem of_raw (raw : fault.isKnown = false) : ReleaseFault polls fault where
  unexpected _ is := absurd is (Fault.not_isOf_of_raw raw)
  conflict is := absurd is (Fault.not_isOf_of_raw raw)
  present := Fault.not_isOf_of_raw raw

/-- A failure that the machinery reported, and that ends the loop that met it. -/
theorem of_recast {reason : Fault} (raw : reason.isKnown = false)
    (lasting : reason.disposition .delete ≠ .transient)
    (present : reason.disposition .delete ≠ .notFound)
    (conflicts : reason.disposition .delete = .conflictState →
      ∃ last raw, polls.getLast? = some last ∧ last.outcome = .error raw ∧
        raw.disposition .delete = .conflictState) :
    ReleaseFault polls (reason.recast (reason.disposition .delete) .delete instanceId) := by
  have is := Fault.isOf_recast raw (reason.disposition .delete) .delete instanceId
  cases met : reason.disposition .delete with
  | transient => exact absurd met lasting
  | notFound => exact absurd met present
  | fatal =>
      rw [met] at is
      exact of_kind is (.inl rfl)
  | conflictState =>
      rw [met] at is
      refine ⟨fun _ other => ?_, fun _ => conflicts met, fun other => ?_⟩
      · cases is.unique other
      · cases is.unique other

end ReleaseFault

variable [Timescale τ] {service : Service τ ω} {horizon : Nat} {tries polls : List (Exchange τ)}
  {result : Except Halt InstanceStatus} {fault : Fault}

/-! ### Waiting for the end -/

theorem returns_iff_of_polls
    (polled : (goneWait instanceId budget rest).Polls horizon polls result)
    (status : InstanceStatus) :
    result = .ok status ↔ ∃ last, polls.getLast? = some last ∧ ShowsGone last.outcome status := by
  constructor
  · intro returned
    subst returned
    obtain ⟨last, atEnd, decides⟩ := polled.reached
    exact ⟨last, atEnd, goneWait_decides_ok_iff.mp decides⟩
  · intro shown
    obtain ⟨last, atEnd, shows⟩ := shown
    exact polled.of_decides (List.mem_of_getLast? atEnd) (goneWait_decides_ok_iff.mpr shows)

/-- Behind a status that is known and not final there is another poll, unless time is over. -/
theorem passes_of_polls (polled : (goneWait instanceId budget rest).Polls horizon polls result)
    {earlier later : List (Exchange τ)} {poll : Exchange τ} {detail : Value}
    {status : InstanceStatus} (cut : polls = earlier ++ poll :: later)
    (answered : poll.outcome = .ok detail)
    (given : detail.get? "instanceStatus" = some (.text status.word))
    (remains : status ∉ InstanceStatus.gone) :
    later ≠ [] ∨ result = .error .unfinished ∨ ∃ elapsed last fault,
      (goneWait instanceId budget rest).OutOfTime elapsed last fault ∧
        result = .error (.fault fault) := by
  cases later with
  | cons next others => exact .inl (List.cons_ne_nil _ _)
  | nil =>
      refine .inr ?_
      rcases polled.decided with ⟨unfinished, _⟩ | ⟨last, atEnd, ended⟩
      · exact .inl unfinished
      · rw [cut, List.getLast?_concat] at atEnd
        obtain rfl := Option.some.inj atEnd
        have passing : (goneWait instanceId budget rest).judge poll.outcome = .passing status := by
          rw [answered, Wait.judge_of_given _ given]
          exact (if_neg remains).trans (if_neg List.not_mem_nil)
        rcases ended.decided with ⟨ending, judged, _⟩ | ⟨_, elapsed, seen, same⟩
        · rw [passing] at judged
          cases judged
        · exact .inr ⟨elapsed, seen, _, Wait.outOfTime_exhausted _ elapsed seen, same⟩

/-- A state that does not allow the release ends the wait. -/
theorem conflicts_of_polls (polled : (goneWait instanceId budget rest).Polls horizon polls result)
    {poll : Exchange τ} (member : poll ∈ polls) {raw : Fault} (failed : poll.outcome = .error raw)
    (conflicts : raw.disposition .delete = .conflictState) :
    result = .error (.fault (raw.recast .conflictState .delete instanceId)) := by
  have met : raw.disposition (goneWait instanceId budget rest).kind = .conflictState := conflicts
  have decides : (goneWait instanceId budget rest).Decides poll.outcome
      (.error (raw.recast (raw.disposition (goneWait instanceId budget rest).kind) .delete
        instanceId)) := by
    rw [failed]
    refine .failed ?_ ?_
    · rw [met]
      exact Disposition.noConfusion
    · rw [met]
      exact Disposition.noConfusion
  rw [met] at decides
  exact polled.of_decides member decides

/-- A wait for the end fails with an unknown status, with a failure of a poll, or out of time. -/
theorem releaseFault_of_polls
    (polled : (goneWait instanceId budget rest).Polls horizon polls (.error (.fault fault)))
    (raw : ∀ poll ∈ polls, poll.Raw) : ReleaseFault polls fault := by
  obtain ⟨last, atEnd, decides | foreign | ⟨_, elapsed, seen, rfl⟩⟩ := polled.failed
  · have own := raw last (List.mem_of_getLast? atEnd)
    generalize answered : last.outcome = outcome at decides
    cases decides with
    | bad given bad => cases bad
    | @unknown es unknown =>
        refine ⟨fun _ _ => ⟨last, es, atEnd, answered, unknown⟩, fun other => ?_, fun other => ?_⟩
        · cases other.unique ⟨_, _, _, rfl⟩
        · cases other.unique ⟨_, _, _, rfl⟩
    | missing missing untargeted => cases untargeted
    | failed lasting present =>
        exact .of_recast (own _ answered) lasting present fun met => ⟨last, _, atEnd, answered, met⟩
  · exact .of_raw foreign
  · exact .of_kind ⟨_, _, _, rfl⟩ (.inr ⟨_, rfl⟩)

/-- An action that asks for a release and ends with a failure was refused, or ran out of time. -/
theorem releaseFault_of_ends [LawfulTimescale τ] {clientToken : String}
    {outcome : Except Fault Value}
    (ended : (deleteAction instanceId budget clientToken).Ends outcome (.error (.fault fault)))
    (raw : ∀ reason, outcome = .error reason → reason.isKnown = false) :
    ReleaseFault polls fault := by
  rcases ended.decided with ⟨ending, decides, same⟩ | ⟨cause, retries, ⟨reason, fails, same⟩ |
    ⟨elapsed, same⟩⟩
  · cases decides with
    | answered | counted => cases same
    | @failed reason resolved =>
        cases same
        have fatal : reason.disposition .delete = .fatal := by
          change (reason.disposition .delete).resolve .delete = .fail at resolved
          cases met : reason.disposition .delete with
          | fatal => rfl
          | transient | conflictState | notFound =>
              rw [met] at resolved
              cases resolved
        refine .of_recast (raw reason rfl) ?_ ?_ fun met => ?_
        · exact fatal ▸ Disposition.noConfusion
        · exact fatal ▸ Disposition.noConfusion
        · cases fatal.symm.trans met
  · cases same
    exact .of_raw (raw_of_fails fails)
  · cases same
    exact .of_kind ⟨_, _, _, rfl⟩ (.inr ⟨_, rfl⟩)

/-! ### The deletion -/

/-- How a deletion goes on an instance that is free: the calls for the release, the polls behind
them, and the result. -/
structure Released (service : Service τ ω) (instanceId : Value) (budget : Budget τ)
    (tries polls : List (Exchange τ)) (result : Except Halt InstanceStatus) : Prop where
  /-- Nothing is asked for only when the timeout cannot be kept while the deletion is pending. -/
  asks : (∃ clientToken outcome,
      Attempts (.deleteInstance instanceId clientToken) .delete tries outcome) ∨
    tries = [] ∧ ∃ fault, Timescale.settled budget.timeout = .error fault ∧
      result = .error (.fault fault)
  reads : ∀ poll ∈ polls, poll.call = .getInstanceDetail instanceId
  returns_iff : ∀ status, result = .ok status ↔
    Granted tries ∧ ∃ last, polls.getLast? = some last ∧ ShowsGone last.outcome status
  /-- Once the release counts as granted, whatever the answer was, the wait gives the result. -/
  waits : Granted tries →
    ∃ rest, (goneWait instanceId budget rest).Polls service.horizon polls result
  refused : ¬ Granted tries → polls = []
  /-- Behind a status that is known and not final there is another poll, unless time is over. -/
  passes : ∀ earlier poll later detail (status : InstanceStatus),
    polls = earlier ++ poll :: later → poll.outcome = .ok detail →
    detail.get? "instanceStatus" = some (.text status.word) → status ∉ InstanceStatus.gone →
    later ≠ [] ∨ result = .error .unfinished ∨ ∃ rest elapsed last fault,
      (goneWait instanceId budget rest).OutOfTime elapsed last fault ∧ result = .error (.fault fault)
  /-- A poll that meets a state that does not allow the release ends the deletion. -/
  conflicts : ∀ poll ∈ polls, ∀ raw, poll.outcome = .error raw →
    raw.disposition .delete = .conflictState →
    result = .error (.fault (raw.recast .conflictState .delete instanceId))
  fails : (∀ exchange ∈ tries ++ polls, exchange.Raw) →
    ∀ fault, result = .error (.fault fault) → ReleaseFault polls fault

namespace Released

/-- No call was granted, and nothing is polled. -/
theorem of_refused {halt : Halt}
    (asks : (∃ clientToken outcome,
        Attempts (.deleteInstance instanceId clientToken) .delete tries outcome) ∨
      tries = [] ∧ ∃ fault, Timescale.settled budget.timeout = .error fault ∧
        (.error halt : Except Halt InstanceStatus) = .error (.fault fault))
    (ungranted : ¬ Granted tries)
    (fails : (∀ exchange ∈ tries, exchange.Raw) → ∀ fault, halt = .fault fault →
      ReleaseFault ([] : List (Exchange τ)) fault) :
    service.Released instanceId budget tries [] (.error halt) where
  asks := asks
  reads := List.forall_mem_nil _
  returns_iff _ := ⟨nofun, fun returned => absurd returned.1 ungranted⟩
  waits granted := absurd granted ungranted
  refused _ := rfl
  passes earlier poll later _ _ cut := absurd cut.symm (by simp)
  conflicts := nofun
  fails raw fault same := by
    cases same
    exact fails (fun exchange member => raw exchange (List.mem_append_left _ member)) fault rfl

theorem of_waited {clientToken : String} {outcome : Except Fault Value}
    (tried : Attempts (.deleteInstance instanceId clientToken) .delete tries outcome)
    (granted : Granted tries)
    (polled : (goneWait instanceId budget rest).Polls service.horizon polls result) :
    service.Released instanceId budget tries polls result where
  asks := .inl ⟨clientToken, outcome, tried⟩
  reads := polled.reads
  returns_iff status := by rw [returns_iff_of_polls polled, and_iff_right granted]
  waits _ := ⟨rest, polled⟩
  refused ungranted := absurd granted ungranted
  passes earlier poll later detail status cut answered given remains := by
    rcases passes_of_polls polled cut answered given remains with more | unfinished | late
    · exact .inl more
    · exact .inr (.inl unfinished)
    · exact .inr (.inr ⟨rest, late⟩)
  conflicts poll member raw failed conflicts := conflicts_of_polls polled member failed conflicts
  fails raw fault same := by
    subst same
    exact releaseFault_of_polls polled
      fun poll member => raw poll (List.mem_append_right _ member)

theorem of_mutation [LawfulTimescale τ] {clientToken : String} {exchanges : List (Exchange τ)}
    (mutation : Mutation (deleteAction instanceId budget clientToken)
      (.deleteInstance instanceId clientToken)
      (fun polls result =>
        ∃ rest, (goneWait instanceId budget rest).Polls service.horizon polls result)
      exchanges result) :
    ∃ tries polls, exchanges = tries ++ polls ∧
      service.Released instanceId budget tries polls result := by
  cases mutation with
  | @refused _ outcome halt tried ended =>
      obtain ⟨last, atEnd, _, same⟩ := tried.getLast?
      refine ⟨exchanges, [], (List.append_nil _).symm,
        .of_refused (.inl ⟨clientToken, outcome, tried⟩) ?_ fun raw fault failed => ?_⟩
      · intro granted
        -- A call that counts as granted ends the action with a value.
        obtain ⟨other, atEndToo, grants⟩ := granted
        obtain rfl := Option.some.inj (atEnd.symm.trans atEndToo)
        rw [same] at grants
        obtain ⟨value, decides⟩ := grantsRelease_iff.mp grants
        cases ended.of_decides decides
      · subst failed
        exact releaseFault_of_ends ended (tried.last_raw raw)
  | @accepted tries polls outcome value _ tried ended waited =>
      obtain ⟨rest, polled⟩ := waited
      obtain ⟨last, atEnd, _, same⟩ := tried.getLast?
      refine ⟨tries, polls, rfl, .of_waited tried ⟨last, atEnd, ?_⟩ polled⟩
      rw [same]
      rcases ended.decided with ⟨ending, decides, concluded⟩ |
        ⟨_, _, ⟨_, _, failed⟩ | ⟨_, failed⟩⟩
      · cases ending with
        | ok given => exact grantsRelease_iff.mpr ⟨given, decides⟩
        | error fault => cases concluded
      · cases failed
      · cases failed

end Released

theorem Deleting.released [LawfulTimescale τ] {table : InFlight τ} {timeout : Option τ}
    {exchanges : List (Exchange τ)}
    (accepted : service.timeouts.budget .delete timeout = .ok budget) (keyed : instanceId.isKey)
    (free : table.find? instanceId = none)
    (deleting : service.Deleting table instanceId timeout exchanges result) :
    ∃ tries polls, exchanges = tries ++ polls ∧
      service.Released instanceId budget tries polls result := by
  cases deleting with
  | unaccepted unaccepted =>
      rw [accepted] at unaccepted
      cases unaccepted
  | unclaimed _ unclaimed => exact absurd unclaimed (Unclaimed.not_of_free keyed free _)
  | @unsettled other _ same _ failed =>
      obtain rfl : other = budget := Except.ok.inj (same.symm.trans accepted)
      refine ⟨[], [], rfl, .of_refused (.inr ⟨rfl, _, failed, rfl⟩) ?_ fun _ fault same => ?_⟩
      · intro granted
        obtain ⟨_, impossible, _⟩ := granted
        cases impossible
      · cases same
        exact .of_raw (LawfulTimescale.settled_raw failed)
  | @mutated other _ _ _ _ same _ _ mutation =>
      obtain rfl : other = budget := Except.ok.inj (same.symm.trans accepted)
      exact Released.of_mutation mutation

/-- A deletion returns a status exactly when the last call for the release counts as granted and the
last poll shows the instance gone with that status.  A state that does not allow the release is told
apart by the loop that meets it: the call for the release is granted with it, and a poll fails. -/
theorem delete_releases [LawfulTimescale τ] (keeps : service.surroundings.Keeps)
    {timeout : Option τ} (accepted : service.timeouts.budget .delete timeout = .ok budget)
    (keyed : instanceId.isKey) (before : Session τ ω)
    (free : before.inFlight.find? instanceId = none) :
    ∃ added tries polls audits,
      (service.delete instanceId timeout before).2.events = before.events ++ added ∧
      Told Undisturbed added (tries ++ polls) audits ∧
      service.Released instanceId budget tries polls
        (service.delete instanceId timeout before).1 := by
  obtain ⟨added, exchanges, audits, extended, told, deleting⟩ :=
    delete_tells keeps.encloses keeps instanceId timeout before
  obtain ⟨tries, polls, rfl, released⟩ := deleting.released accepted keyed free
  exact ⟨added, tries, polls, audits, extended, told, released⟩

/-- The release is refused for the state of the instance, which is polled until it is paused. -/
theorem delete_releases_paused :
    let after := Sample.scripted.delete (.text "scs-1") none Sample.pausing
    (after.1 matches .ok .paused) ∧
      ∃ added tries polls audits, after.2.events = Sample.pausing.events ++ added ∧
        Told Undisturbed added (tries ++ polls) audits ∧
        Sample.scripted.Released (.text "scs-1") ⟨1200, 10⟩ tries polls after.1 := by
  have accepted : Sample.scripted.timeouts.budget .delete none = .ok ⟨1200, 10⟩ := rfl
  have keyed : (Value.text "scs-1").isKey = true := rfl
  refine ⟨by decide +kernel, ?_⟩
  exact delete_releases Sample.scripted_solitary.keeps accepted keyed Sample.pausing rfl

end Service

end CacheSteward
