import CacheSteward.Proofs.Endings
import CacheSteward.Proofs.Failures

namespace CacheSteward

/-! Failures that blame the caller.

A fault of validation or configuration says that what was given cannot work, and suggests that
nothing was asked for.  Two such faults come behind calls: the budget of the read at the end of an
operation is judged only then, and an unknown cluster type is a fault of validation although it was
read from the control plane.
-/

variable {τ ω : Type}

/-- Faults of validation or of configuration. -/
def Fault.BlamesCaller : Fault → Prop
  | .known .validation _ _ _ => True
  | .known .configuration _ _ _ => True
  | _ => False

namespace Fault

variable {fault : Fault}

theorem not_blames_of_raw (raw : fault.isKnown = false) : ¬ fault.BlamesCaller := by
  cases fault with
  | known about message details cause => cases raw
  | remote | plain | unlisted | invalidRecord => exact id

theorem not_blames_recast (raw : fault.isKnown = false) (disposition : Disposition)
    (kind : OperationKind) (instanceId : Value) :
    ¬ (fault.recast disposition kind instanceId).BlamesCaller := by
  cases fault with
  | known about message details cause => cases raw
  | remote | plain | unlisted | invalidRecord => cases disposition <;> exact id

/-- Details say nothing about who is to blame. -/
theorem blames_mapDetails_iff (f : List (String × Value) → List (String × Value)) :
    (fault.mapDetails f).BlamesCaller ↔ fault.BlamesCaller := by
  cases fault with
  | known about message details cause => cases about <;> exact Iff.rfl
  | remote | plain | unlisted | invalidRecord => exact Iff.rfl

end Fault

theorem Unclaimed.not_blames {table : InFlight τ} {instanceId : Value} {fault : Fault}
    (refused : Unclaimed table instanceId fault) : ¬ fault.BlamesCaller := by
  cases refused <;> exact id

theorem Detail.blames_of_clusterType_eq_error {es : List (Value × Value)} {fault : Fault}
    (unknown : Detail.clusterType es = .error fault) : fault.BlamesCaller := by
  unfold Detail.clusterType at unknown
  dsimp only at unknown
  split at unknown
  · cases unknown
  · cases unknown
    trivial

/-- Of all that can be wrong with a document, only its cluster type is blamed on the caller. -/
theorem InstanceHandle.unknown_of_blames {instanceId detail : Value} {fault : Fault}
    (failed : InstanceHandle.ofDetail instanceId detail = .error fault)
    (blames : fault.BlamesCaller) :
    ∃ es, detail = .mapping es ∧ Detail.clusterType es = .error fault := by
  cases detail with
  | mapping es =>
      rcases wrong_of_ofDetail_eq_error failed with ⟨_, parsed⟩ | unknown | ⟨_, _, rfl⟩
      · unfold InstanceStatus.parse at parsed
        split at parsed
        · cases parsed
        · cases parsed
          exact blames.elim
      · exact ⟨es, rfl, unknown⟩
      · exact blames.elim
  | _ =>
      cases failed
      exact blames.elim

variable [Timescale τ]

theorem Budget.blames_of_make_eq_error {timeout interval : τ} {fault : Fault}
    (refused : Budget.make timeout interval = .error fault) : fault.BlamesCaller := by
  unfold Budget.make at refused
  split at refused
  · cases refused
    trivial
  · split at refused
    · cases refused
      trivial
    · cases refused

section Loops

variable {fault : Fault}

theorem Wait.Polls.not_blames {wait : Wait τ} {horizon : Nat} {polls : List (Exchange τ)}
    (polled : wait.Polls horizon polls (.error (.fault fault)))
    (raw : ∀ poll ∈ polls, poll.Raw) : ¬ fault.BlamesCaller := by
  obtain ⟨last, atEnd, decides | foreign | ⟨_, elapsed, seen, rfl⟩⟩ := polled.failed
  · have own := raw last (List.mem_of_getLast? atEnd)
    generalize answered : last.outcome = outcome at decides
    cases decides with
    | bad | unknown => exact id
    | missing | failed => exact Fault.not_blames_recast (own _ answered) _ _ _
  · exact Fault.not_blames_of_raw foreign
  · exact id

variable [LawfulTimescale τ]

theorem Action.Ends.not_blames {action : Action τ} {outcome : Except Fault Value}
    (ended : action.Ends outcome (.error (.fault fault)))
    (raw : ∀ reason, outcome = .error reason → reason.isKnown = false) :
    ¬ fault.BlamesCaller := by
  rcases ended.decided with
    ⟨ending, decides, same⟩ | ⟨cause, retries, ⟨_, fails, same⟩ | ⟨elapsed, same⟩⟩
  · cases decides with
    | answered | counted => cases same
    | failed resolved =>
        cases same
        exact Fault.not_blames_recast (raw _ rfl) _ _ _
  · cases same
    exact Fault.not_blames_of_raw (Service.raw_of_fails fails)
  · cases same
    exact id

theorem Mutation.not_blames {action : Action τ} {call : RemoteCall} {horizon : Nat}
    {wait : τ → Wait τ} {exchanges : List (Exchange τ)}
    (mutation : Mutation action call
      (fun polls result => ∃ rest, (wait rest).Polls horizon polls result) exchanges
      (.error (.fault fault)))
    (raw : ∀ exchange ∈ exchanges, exchange.Raw) : ¬ fault.BlamesCaller := by
  cases mutation with
  | refused tried ended => exact ended.not_blames (tried.last_raw raw)
  | accepted tried ended waited =>
      obtain ⟨rest, polled⟩ := waited
      exact polled.not_blames fun poll member => raw poll (List.mem_append_right _ member)

end Loops

/-! ### A sample -/

namespace Sample

/-- Reads have no time in this sample. -/
def unreadable : Service Rat (List (Except Fault Value)) :=
  { scripted with timeouts := { scripted.timeouts with read := 0 } }

/-- Only the name differs from that of the pair. -/
def namesake : DesiredSpec := { grown with nodeType := "small" }

def rename : Step := ⟨.rename, "scs-1", [("instance_name", .text "after")]⟩

/-- The rename is accepted and shows at once. -/
def accepting : Session Rat (List (Except Fault Value)) where
  world := [.ok .null, .ok (runningDetail "after" "small")]

/-- The run of the rename, and the session behind it. -/
def renameRun : Except Halt Unit × Session Rat (List (Except Fault Value)) :=
  Run.claiming (.text "scs-1") (unreadable.runSteps [] [(rename, ⟨1800, 10⟩)])
    (accepting.note (.logged (Service.startEntry "scs-1" [rename]).record))

end Sample

/-! ### Operations -/

namespace Service

variable {service : Service τ ω} {table : InFlight τ} {operation : Operation τ}
  {instanceId : Value} {exchanges : List (Exchange τ)} {fault : Fault}

/-- A detail was read last, and its cluster type is unknown. -/
def Misread (exchanges : List (Exchange τ)) (fault : Fault) : Prop :=
  ∃ last instanceId es, exchanges.getLast? = some last ∧
    last.call = .getInstanceDetail instanceId ∧ last.outcome = .ok (.mapping es) ∧
    Detail.clusterType es = .error fault

omit [Timescale τ] in
theorem Misread.append {reads : List (Exchange τ)} (misread : Misread reads fault)
    (before : List (Exchange τ)) : Misread (before ++ reads) fault := by
  obtain ⟨last, instanceId, es, atEnd, rest⟩ := misread
  refine ⟨last, instanceId, es, ?_, rest⟩
  rw [List.getLast?_append, atEnd]
  rfl

/-- The faults that blame the caller behind calls. -/
inductive BlamedLate (service : Service τ ω) :
    Operation τ → List (Exchange τ) → Fault → Prop where
  /-- All steps are done, and the read behind them is refused its budget. -/
  | updated {handle : InstanceHandle} {spec : DesiredSpec} {timeout : Option τ}
      {steps : List Step} {exchanges : List (Exchange τ)} {fault : Fault}
      (plan : Plan.steps handle spec = .ok steps) (changes : steps ≠ [])
      (applied : Applied steps exchanges)
      (unaccepted : service.timeouts.budget .read none = .error fault) :
      BlamedLate service (.reconcile handle spec timeout) exchanges fault
  /-- The new instance is running, and the read behind that is refused its budget. -/
  | created {spec : DesiredSpec} {timeout : Option τ} {clientToken : String} {instanceId : Value}
      {tries polls : List (Exchange τ)} {last : Exchange τ} {detail : Value} {fault : Fault}
      (tried : Attempts (.createInstance spec.createArgs clientToken) .create tries
        (.ok instanceId))
      (reads : ∀ poll ∈ polls, poll.call = .getInstanceDetail instanceId)
      (atEnd : polls.getLast? = some last) (answered : last.outcome = .ok detail)
      (runs : detail.get? "instanceStatus" = some (.text InstanceStatus.running.word))
      (unaccepted : service.timeouts.budget .read none = .error fault) :
      BlamedLate service (.create spec timeout) (tries ++ polls) fault
  | misread {operation : Operation τ} {exchanges : List (Exchange τ)} {fault : Fault}
      (misread : Misread exchanges fault) : BlamedLate service operation exchanges fault

omit [Timescale τ] in
/-- Nothing is called for only when there is nothing to apply. -/
theorem Applied.ne_nil {steps : List Step} (applied : Applied steps exchanges)
    (changes : steps ≠ []) : exchanges ≠ [] := by
  cases applied with
  | none => exact absurd rfl changes
  | next shows goesOn => exact fun none => shows.ne_nil (List.append_eq_nil_iff.mp none).1

theorem BlamedLate.blames (late : service.BlamedLate operation exchanges fault) :
    fault.BlamesCaller ∧ exchanges ≠ [] := by
  cases late with
  | updated plan changes applied unaccepted =>
      exact ⟨Budget.blames_of_make_eq_error unaccepted, applied.ne_nil changes⟩
  | created tried reads atEnd answered runs unaccepted =>
      refine ⟨Budget.blames_of_make_eq_error unaccepted, fun none => ?_⟩
      exact tried.ne_nil (List.append_eq_nil_iff.mp none).1
  | misread misread =>
      obtain ⟨last, _, es, atEnd, _, _, unknown⟩ := misread
      refine ⟨Detail.blames_of_clusterType_eq_error unknown, fun none => ?_⟩
      rw [none] at atEnd
      cases atEnd

variable [LawfulTimescale τ]

/-- A reading that blames the caller does so before its call, or for a cluster type. -/
theorem Reading.blames {seen : Except Halt (Option InstanceHandle)} {kind : OperationKind}
    {reads : List (Exchange τ)} (reading : service.Reading instanceId reads seen)
    (failed : existing instanceId kind seen = .error (.fault fault))
    (raw : ∀ exchange ∈ reads, exchange.Raw) (blames : fault.BlamesCaller) :
    service.timeouts.budget .read none = .error fault ∧ reads = [] ∨ Misread reads fault := by
  cases reading with
  | refused unaccepted =>
      cases failed
      exact .inl ⟨unaccepted, rfl⟩
  | failed accepted tried ended =>
      cases failed
      exact absurd blames (ended.not_blames (tried.last_raw raw))
  | missing accepted tried ended =>
      cases failed
      exact blames.elim
  | found accepted tried ended there =>
      rw [existing_judged, judged_eq_error_iff] at failed
      obtain ⟨_, read, same⟩ := failed
      cases same
      -- What was decoded is the answer to the last attempt.
      obtain rfl := Action.answered_of_ends_given ended there
      obtain ⟨last, atEnd, called, answered⟩ := tried.getLast?
      obtain ⟨es, rfl, unknown⟩ := InstanceHandle.unknown_of_blames read blames
      exact .inr ⟨last, instanceId, es, atEnd, called, answered, unknown⟩

theorem StepRun.not_blames {step : Step} {budget : Budget τ}
    (run : service.StepRun step budget exchanges (.error (.fault fault)))
    (raw : ∀ exchange ∈ exchanges, exchange.Raw) : ¬ fault.BlamesCaller := by
  cases run with
  | unsettled failed => exact Fault.not_blames_of_raw (LawfulTimescale.settled_raw failed)
  | mutated intent shown mutation announced => exact mutation.not_blames raw

/-- The report of a failed step blames whom its fault blames. -/
theorem Stops.not_blames {budget : Budget τ} {completed steps : List Step}
    {trail : List LogRecord}
    (stops : service.Stops budget completed steps exchanges trail (.fault fault))
    (raw : ∀ exchange ∈ exchanges, exchange.Raw) : ¬ fault.BlamesCaller := by
  generalize ended : Halt.fault fault = halt at stops
  cases stops with
  | @behind done rest step earlier last reason applied run =>
      cases reason with
      | unfinished => cases ended
      | fault reason =>
          cases ended
          rw [Fault.blames_mapDetails_iff]
          exact run.not_blames fun exchange member => raw exchange (List.mem_append_right _ member)

/-- Whoever is blamed behind calls is blamed in one of the known ways. -/
def BlamesLate (service : Service τ ω) (operation : Operation τ) (exchanges : List (Exchange τ))
    (result : Except Halt Unit) : Prop :=
  ∀ fault, result = .error (.fault fault) → (∀ exchange ∈ exchanges, exchange.Raw) →
    fault.BlamesCaller → exchanges ≠ [] → service.BlamedLate operation exchanges fault

theorem Reading.blamesLate_read {seen : Except Halt (Option InstanceHandle)}
    (reading : service.Reading instanceId exchanges seen) :
    service.BlamesLate (.read instanceId) exchanges (seen.map fun _ => ()) := by
  intro fault failed raw blames called
  have seenFailed := error_of_map failed
  subst seenFailed
  have failedToo : existing instanceId .read (.error (.fault fault)) = .error (.fault fault) := rfl
  rcases reading.blames failedToo raw blames with ⟨_, silent⟩ | misread
  · exact absurd silent called
  · exact .misread misread

theorem Reading.blamesLate_adopt {seen : Except Halt (Option InstanceHandle)}
    (reading : service.Reading instanceId exchanges seen) :
    service.BlamesLate (.adopt instanceId) exchanges
      ((existing instanceId .read seen).map fun _ => ()) := by
  intro fault failed raw blames called
  rcases reading.blames (error_of_map failed) raw blames with ⟨_, silent⟩ | misread
  · exact absurd silent called
  · exact .misread misread

theorem Deleting.blamesLate {timeout : Option τ} {status : Except Halt InstanceStatus}
    (deleting : service.Deleting table instanceId timeout exchanges status) :
    service.BlamesLate (.delete instanceId timeout) exchanges (status.map fun _ => ()) := by
  intro fault failed raw blames called
  have statusFailed := error_of_map failed
  subst statusFailed
  cases deleting with
  | unaccepted | unclaimed | unsettled => exact absurd rfl called
  | mutated accepted free shown mutation announced =>
      exact absurd blames (mutation.not_blames raw)

theorem Reconciling.blamesLate {handle : InstanceHandle} {spec : DesiredSpec}
    {timeout : Option τ} {trail : List LogRecord} {reconciled : Except Halt Reconciled}
    (reconciling : service.Reconciling table handle spec timeout exchanges trail reconciled) :
    service.BlamesLate (.reconcile handle spec timeout) exchanges
      (reconciled.map fun _ => ()) := by
  intro fault failed raw blames called
  have reconciledFailed := error_of_map failed
  cases reconciling with
  | unplanned | unchanged | unaccepted | unclaimed => exact absurd rfl called
  | claimed plan changes accepted free updating =>
      cases updating with
      | stopped run =>
          cases reconciledFailed
          exact absurd blames (run.stops.not_blames raw)
      | finished run reading =>
          rcases reading.blames (error_of_map reconciledFailed)
            (fun exchange member => raw exchange (List.mem_append_right _ member)) blames with
            ⟨unaccepted, rfl⟩ | misread
          · rw [List.append_nil]
            exact .updated plan changes run.applies.1 unaccepted
          · exact .misread (misread.append _)

theorem Obtained.blamesLate {budget : Budget τ} {spec : DesiredSpec} {timeout : Option τ}
    {clientToken : String} {tries : List (Exchange τ)} {created : Except Halt InstanceHandle}
    (tried : Attempts (.createInstance spec.createArgs clientToken) .create tries
      (.ok instanceId))
    (obtained : service.Obtained table budget clientToken instanceId exchanges created)
    (failed : created = .error (.fault fault)) (raw : ∀ exchange ∈ exchanges, exchange.Raw)
    (blames : fault.BlamesCaller) :
    service.BlamedLate (.create spec timeout) (tries ++ exchanges) fault := by
  cases obtained with
  | unclaimed unclaimed =>
      cases failed
      exact absurd blames unclaimed.not_blames
  | unsettled free failedToo =>
      cases failed
      exact absurd blames (Fault.not_blames_of_raw (LawfulTimescale.settled_raw failedToo))
  | unready free shown waited announced =>
      cases failed
      exact absurd blames (waited.not_blames raw)
  | ready free shown waited announced reading =>
      rcases reading.blames failed
        (fun exchange member => raw exchange (List.mem_append_right _ member)) blames with
        ⟨unaccepted, rfl⟩ | misread
      · rw [List.append_nil]
        obtain ⟨last, detail, atEnd, answered, runs⟩ := createdWait_runs waited
        exact .created tried waited.reads atEnd answered runs unaccepted
      · exact .misread ((misread.append _).append _)

theorem Creating.blamesLate {spec : DesiredSpec} {timeout : Option τ}
    {created : Except Halt InstanceHandle}
    (creating : service.Creating table spec timeout exchanges created) :
    service.BlamesLate (.create spec timeout) exchanges (created.map fun _ => ()) := by
  intro fault failed raw blames called
  have createdFailed := error_of_map failed
  cases creating with
  | unaccepted => exact absurd rfl called
  | refused accepted tried ended =>
      cases createdFailed
      exact absurd blames (ended.not_blames (tried.last_raw raw))
  | nameless =>
      cases createdFailed
      exact blames.elim
  | obtained accepted tried given goesOn =>
      exact goesOn.blamesLate tried createdFailed
        (fun exchange member => raw exchange (List.mem_append_right _ member)) blames

theorem Operating.blamesLate {result : Except Halt Unit}
    (operating : service.Operating table operation exchanges result) :
    service.BlamesLate operation exchanges result := by
  cases operating with
  | create creating => exact creating.blamesLate
  | read reading => exact reading.blamesLate_read
  | adopt reading => exact reading.blamesLate_adopt
  | reconcile reconciling => exact reconciling.blamesLate
  | delete deleting => exact deleting.blamesLate

/-- A failure blames the caller behind calls exactly in two ways: everything is done and the read at
the end is refused its budget, or the detail that was read last gives an unknown cluster type. -/
theorem blames_behind_calls_iff (keeps : service.surroundings.Keeps) (operation : Operation τ)
    (before : Session τ ω) :
    ∃ added exchanges audits,
      (service.operate operation before).2.events = before.events ++ added ∧
      Told Undisturbed added exchanges audits ∧
      ∀ fault, (∀ exchange ∈ exchanges, exchange.Raw) →
        (service.operate operation before).1 = .error (.fault fault) →
        (fault.BlamesCaller ∧ exchanges ≠ [] ↔ service.BlamedLate operation exchanges fault) := by
  obtain ⟨added, exchanges, audits, extended, told, operating⟩ :=
    operate_tells keeps.encloses keeps operation before
  refine ⟨added, exchanges, audits, extended, told, fun fault raw failed => ?_⟩
  constructor
  · intro late
    obtain ⟨blames, called⟩ := late
    exact operating.blamesLate fault failed raw blames called
  · exact BlamedLate.blames

omit [LawfulTimescale τ] in
/-- Where reads are refused their budget, the steps are done and the reconciliation fails. -/
theorem reconcile_unread (unaccepted : service.timeouts.budget .read none = .error fault)
    {handle : InstanceHandle} {spec : DesiredSpec} {timeout : Option τ} {steps : List Step}
    {budgeted : List (Step × Budget τ)} (plan : Plan.steps handle spec = .ok steps)
    (changes : steps ≠ []) (accepted : service.budgets timeout steps = .ok budgeted)
    {before after : Session τ ω}
    (applied : Run.claiming (.text handle.instanceId) (service.runSteps [] budgeted)
      (before.note (.logged (startEntry handle.instanceId steps).record)) = (.ok (), after)) :
    service.reconcile handle spec timeout before = (.error (.fault fault), after) := by
  have unread : service.readExisting (.text handle.instanceId) .read after =
      (.error (.fault fault), after) := by
    unfold readExisting read
    rw [unaccepted]
    rfl
  unfold reconcile
  rw [plan]
  simp only [Run.ofExcept, pure_bind, List.isEmpty_iff, changes, if_false, accepted]
  exact (Run.bind_ok rfl).trans ((Run.bind_ok applied).trans (Run.bind_error unread))

/-- A read of an unknown cluster type blames the caller behind its call. -/
theorem blames_behind_calls_iff_mistyped :
    let before : Session Rat (List (Except Fault Value)) := { world := [.ok Sample.mistypedDetail] }
    let operation : Operation Rat := .read (.text "scs-1")
    (∃ fault, (Sample.scripted.operate operation before).1 = .error (.fault fault) ∧
      fault.BlamesCaller) ∧
      ∃ added exchanges audits,
        (Sample.scripted.operate operation before).2.events = before.events ++ added ∧
        Told Undisturbed added exchanges audits ∧
        ∀ fault, (∀ exchange ∈ exchanges, exchange.Raw) →
          (Sample.scripted.operate operation before).1 = .error (.fault fault) →
          (fault.BlamesCaller ∧ exchanges ≠ [] ↔
            Sample.scripted.BlamedLate operation exchanges fault) := by
  intro before operation
  refine ⟨⟨.validation ("Unknown cluster type '" ++ (Value.text "sharded").shown ++ "'")
    (some "clusterType") (.text "sharded"), ?_, trivial⟩,
    blames_behind_calls_iff Sample.scripted_solitary.keeps operation before⟩
  unfold operate read Action.perform Action.tryFrom
  rfl

/-- The instance is renamed, and then the caller is blamed for the timeout of reads. -/
theorem blame_behind_rename :
    let after := Sample.unreadable.reconcile Sample.pair Sample.namesake none Sample.accepting
    callsOf after.2.events = [.updateInstanceName (.text "scs-1") (.text "after") "0",
      .getInstanceDetail (.text "scs-1")] ∧
      ∃ fault, after.1 = .error (.fault fault) ∧ fault.BlamesCaller := by
  intro after
  have unaccepted : Sample.unreadable.timeouts.budget .read none =
      .error (Budget.notPositive "timeout" (0 : Rat)) := rfl
  have plan : Plan.steps Sample.pair Sample.namesake = .ok [Sample.rename] := rfl
  have done : Sample.renameRun.1 = .ok () := by
    decide +kernel
  have calls : callsOf Sample.renameRun.2.events =
      [.updateInstanceName (.text "scs-1") (.text "after") "0",
        .getInstanceDetail (.text "scs-1")] := by
    decide +kernel
  have ran : after = (.error (.fault (Budget.notPositive "timeout" (0 : Rat))),
      Sample.renameRun.2) :=
    reconcile_unread unaccepted plan (List.cons_ne_nil _ _) rfl (Prod.ext done rfl)
  rw [ran]
  exact ⟨calls, _, rfl, trivial⟩

end Service

end CacheSteward
