import CacheSteward.Proofs.Endings
import CacheSteward.Proofs.Failures

namespace CacheSteward

/-! That an instance is created at most once.

A creation repeats one call with one token while it fails transiently, so the control plane can tell
that it is asked for the same instance.  Behind the answer nothing is asked for but details: first
until the instance runs, and then for the handle.
-/

variable {τ ω : Type}

/-- Outcomes of a poll behind which a new instance is polled again. -/
inductive Starting : Except Fault Value → Prop where
  | unknown {raw : Fault} (transient : raw.disposition .create = .transient) :
      Starting (.error raw)
  | known {detail : Value} {status : InstanceStatus}
      (given : detail.get? "instanceStatus" = some (.text status.word))
      (untargeted : status ∉ InstanceStatus.runningOnly)
      (harmless : status ∉ InstanceStatus.badForCreate) : Starting (.ok detail)

/-- No mutation follows an answered one. -/
def Unrepeated (exchanges : List (Exchange τ)) : Prop :=
  exchanges.Pairwise fun earlier later => ∀ answer, earlier.call.isMutation = true →
    earlier.outcome = .ok answer → later.call.isMutation = false

theorem Attempts.unrepeated {call : RemoteCall} {kind : OperationKind}
    {exchanges : List (Exchange τ)} {outcome : Except Fault Value}
    (tried : Attempts call kind exchanges outcome) : Unrepeated exchanges := by
  induction tried with
  | last pending outcome => exact List.pairwise_singleton _ _
  | again pending transient rest ih =>
      refine List.pairwise_cons.mpr ⟨fun later _ answer _ answered => ?_, ih⟩
      cases answered

theorem Unrepeated.append {mutations others : List (Exchange τ)} (unrepeated : Unrepeated mutations)
    (reads : ∀ exchange ∈ others, exchange.call.isMutation = false) :
    Unrepeated (mutations ++ others) := by
  refine List.pairwise_append.mpr ⟨unrepeated, ?_, ?_⟩
  · exact List.pairwise_of_forall_mem_list fun _ _ later member _ _ _ => reads later member
  · exact fun _ _ later member _ _ _ => reads later member

namespace Sample

/-- A lost connection, an id, two polls, and a read. -/
def starting : Session Rat (List (Except Fault Value)) where
  world := [.error (.plain .connection []), .ok (.text "scs-9"),
    .ok (.fields [("instanceStatus", .text "Creating")]),
    .ok (runningDetail "after" "large"), .ok (runningDetail "after" "large")]

end Sample

namespace Service

variable [Timescale τ] {service : Service τ ω} {instanceId : Value} {budget : Budget τ}

theorem starting_of_polls {rest : τ} {horizon : Nat} {polls : List (Exchange τ)}
    {result : Except Halt InstanceStatus}
    (polled : (createdWait instanceId budget rest).Polls horizon polls result) :
    ∀ poll ∈ polls.dropLast, Starting poll.outcome := by
  intro poll member
  have leavesOpen := Wait.leavesOpen_of_isOpen (polled.early poll member)
  generalize poll.outcome = outcome at leavesOpen
  cases leavesOpen with
  | stale given target unshown => cases unshown
  | passing given untargeted harmless => exact .known given untargeted harmless
  | transient passes => exact .unknown passes

/-- The last poll shows the instance running. -/
def ShownRunning (polls : List (Exchange τ)) : Prop :=
  ∃ last detail, polls.getLast? = some last ∧ last.outcome = .ok detail ∧
    detail.get? "instanceStatus" = some (.text InstanceStatus.running.word)

/-- How a creation goes when its timeout is accepted: the attempts, of which the last had the given
outcome, then the polls, then the reads, and the result. -/
structure Creates (service : Service τ ω) (table : InFlight τ) (spec : DesiredSpec)
    (budget : Budget τ) (clientToken : String) (outcome : Except Fault Value)
    (tries polls reads : List (Exchange τ)) (result : Except Halt InstanceHandle) : Prop where
  /-- All attempts are one call with one token, and all but the last failed transiently. -/
  tried : Attempts (.createInstance spec.createArgs clientToken) .create tries outcome
  once : Unrepeated (tries ++ polls ++ reads)
  /-- Details are asked for of the instance in the answer only. -/
  asks : ∀ exchange ∈ polls ++ reads, ∃ instanceId, outcome = .ok instanceId ∧
    exchange.call = .getInstanceDetail instanceId
  /-- Only an instance that has an id, and that no other operation holds, is polled. -/
  polled : polls ≠ [] → ∃ instanceId, outcome = .ok instanceId ∧ instanceId.isGiven = true ∧
    table.find? instanceId = none
  follows : ∀ instanceId, outcome = .ok instanceId → instanceId.isGiven = true →
    instanceId.isKey → table.find? instanceId = none →
    polls ≠ [] ∨ service.horizon = 0 ∨ ∃ fault, Timescale.settled budget.timeout = .error fault
  starting : ∀ poll ∈ polls.dropLast, Starting poll.outcome
  /-- Only an instance that the last poll showed running is read. -/
  runs : reads ≠ [] → ShownRunning polls
  rereads : ShownRunning polls →
    reads ≠ [] ∨ ∃ fault, service.timeouts.budget .read none = .error fault
  returns_iff : ∀ handle, result = .ok handle ↔ ∃ instanceId last detail,
    outcome = .ok instanceId ∧ reads.getLast? = some last ∧ last.outcome = .ok detail ∧
    InstanceHandle.ofDetail instanceId detail = .ok handle
  nameless : ∀ answer, outcome = .ok answer → answer.isGiven = false →
    polls = [] ∧ reads = [] ∧ result = .error (.fault (.remoteOperation
      "Create returned no instance id" (some OperationKind.create.word) .null none))

namespace Creates

variable {table : InFlight τ} {spec : DesiredSpec} {clientToken : String}
  {outcome : Except Fault Value} {tries exchanges : List (Exchange τ)}
  {created : Except Halt InstanceHandle}

omit [Timescale τ] in
/-- Where nothing is read, nothing is returned. -/
theorem unread_iff (halt : Halt) (outcome : Except Fault Value) (handle : InstanceHandle) :
    (.error halt : Except Halt InstanceHandle) = .ok handle ↔ ∃ instanceId last detail,
      outcome = .ok instanceId ∧ ([] : List (Exchange τ)).getLast? = some last ∧
      last.outcome = .ok detail ∧ InstanceHandle.ofDetail instanceId detail = .ok handle := by
  constructor
  · intro found
    cases found
  · intro shown
    obtain ⟨_, _, _, _, impossible, _⟩ := shown
    cases impossible

/-- Without an id of a free instance nothing follows. -/
theorem of_unasked {halt : Halt}
    (tried : Attempts (.createInstance spec.createArgs clientToken) .create tries outcome)
    (stuck : ∀ instanceId, outcome = .ok instanceId → instanceId.isGiven = true →
      instanceId.isKey → table.find? instanceId = none →
      ∃ fault, Timescale.settled budget.timeout = .error fault)
    (nameless : ∀ answer, outcome = .ok answer → answer.isGiven = false →
      halt = .fault (.remoteOperation "Create returned no instance id"
        (some OperationKind.create.word) .null none)) :
    service.Creates table spec budget clientToken outcome tries [] [] (.error halt) where
  tried := tried
  once := by
    rw [List.append_nil, List.append_nil]
    exact tried.unrepeated
  asks := List.forall_mem_nil _
  polled called := absurd rfl called
  follows instanceId answered given keyed free :=
    .inr (.inr (stuck instanceId answered given keyed free))
  starting := List.forall_mem_nil _
  runs called := absurd rfl called
  rereads shown := by
    obtain ⟨_, _, impossible, _⟩ := shown
    cases impossible
  returns_iff := unread_iff halt outcome
  nameless answer answered blank := ⟨rfl, rfl, by rw [nameless answer answered blank]⟩

/-- The wait ended with a failure, and nothing is read. -/
theorem of_unready {rest : τ} {polls : List (Exchange τ)} {halt : Halt}
    (tried : Attempts (.createInstance spec.createArgs clientToken) .create tries
      (.ok instanceId))
    (given : instanceId.isGiven = true) (free : table.find? instanceId = none)
    (waited : (createdWait instanceId budget rest).Polls service.horizon polls (.error halt)) :
    service.Creates table spec budget clientToken (.ok instanceId) tries polls []
      (.error halt) where
  tried := tried
  once := by
    rw [List.append_nil]
    refine tried.unrepeated.append fun poll member => ?_
    rw [waited.reads poll member]
    rfl
  asks poll member :=
    ⟨instanceId, rfl, waited.reads poll (List.append_nil polls ▸ member)⟩
  polled _ := ⟨instanceId, rfl, given, free⟩
  follows _ _ _ _ _ := waited.asks.imp_right .inl
  starting := starting_of_polls waited
  runs called := absurd rfl called
  rereads shown := by
    obtain ⟨last, detail, atEnd, answered, running⟩ := shown
    -- Such a poll would have ended the wait with a success.
    have decides : (createdWait instanceId budget rest).Decides last.outcome (.ok .running) := by
      rw [answered]
      exact .reached running (List.mem_singleton_self _) rfl
    cases waited.of_decides (List.mem_of_getLast? atEnd) decides
  returns_iff := unread_iff halt (.ok instanceId)
  nameless answer answered blank := by
    cases answered
    rw [given] at blank
    cases blank

/-- The wait ended with the instance running, and the instance is read. -/
theorem of_ready {rest : τ} {polls reads : List (Exchange τ)} {status : InstanceStatus}
    {seen : Except Halt (Option InstanceHandle)}
    (tried : Attempts (.createInstance spec.createArgs clientToken) .create tries
      (.ok instanceId))
    (given : instanceId.isGiven = true) (free : table.find? instanceId = none)
    (waited : (createdWait instanceId budget rest).Polls service.horizon polls (.ok status))
    (reading : service.Reading instanceId reads seen) :
    service.Creates table spec budget clientToken (.ok instanceId) tries polls reads
      (existing instanceId .create seen) where
  tried := tried
  once := by
    refine (tried.unrepeated.append fun poll member => ?_).append fun read member => ?_
    · rw [waited.reads poll member]
      rfl
    · rw [reading.calls read member]
      rfl
  asks exchange member := by
    refine ⟨instanceId, rfl, ?_⟩
    rcases List.mem_append.mp member with poll | read
    · exact waited.reads exchange poll
    · exact reading.calls exchange read
  polled _ := ⟨instanceId, rfl, given, free⟩
  follows _ _ _ _ _ := waited.asks.imp_right .inl
  starting := starting_of_polls waited
  runs _ := createdWait_runs waited
  rereads _ := by
    rcases reading.readBack with ⟨_, tried⟩ | ⟨fault, unaccepted, _⟩
    · exact .inl tried.ne_nil
    · exact .inr ⟨fault, unaccepted⟩
  returns_iff handle := by
    constructor
    · intro found
      obtain ⟨_, last, detail, atEnd, answer, decoded⟩ := reading.found_last found
      exact ⟨instanceId, last, detail, rfl, atEnd, congrArg Prod.snd answer, decoded⟩
    · intro shown
      obtain ⟨_, last, detail, same, atEnd, answered, decoded⟩ := shown
      cases same
      exact reading.found_of_last atEnd answered decoded .create
  nameless answer answered blank := by
    cases answered
    rw [given] at blank
    cases blank

theorem of_obtained
    (tried : Attempts (.createInstance spec.createArgs clientToken) .create tries
      (.ok instanceId))
    (given : instanceId.isGiven = true)
    (obtained : service.Obtained table budget clientToken instanceId exchanges created) :
    ∃ polls reads, exchanges = polls ++ reads ∧
      service.Creates table spec budget clientToken (.ok instanceId) tries polls reads
        created := by
  have named : ∀ {P : Prop} (answer : Value), (.ok instanceId : Except Fault Value) = .ok answer →
      answer.isGiven = false → P := by
    intro P answer same blank
    cases same
    rw [given] at blank
    cases blank
  cases obtained with
  | unclaimed unclaimed =>
      refine ⟨[], [], rfl, .of_unasked tried (fun id same _ keyed free => ?_) named⟩
      cases same
      exact absurd unclaimed (Unclaimed.not_of_free keyed free _)
  | unsettled _ failed =>
      exact ⟨[], [], rfl, .of_unasked tried (fun _ _ _ _ _ => ⟨_, failed⟩) named⟩
  | unready free _ waited =>
      exact ⟨exchanges, [], (List.append_nil _).symm, .of_unready tried given free waited⟩
  | @ready _ _ polls reads _ _ free _ waited _ reading =>
      exact ⟨polls, reads, rfl, .of_ready tried given free waited reading⟩

theorem of_creating {timeout : Option τ}
    (accepted : service.timeouts.budget .create timeout = .ok budget)
    (creating : service.Creating table spec timeout exchanges created) :
    ∃ clientToken outcome tries polls reads, exchanges = tries ++ polls ++ reads ∧
      service.Creates table spec budget clientToken outcome tries polls reads created := by
  cases creating with
  | unaccepted unaccepted =>
      rw [accepted] at unaccepted
      cases unaccepted
  | refused _ tried ended =>
      exact ⟨_, _, exchanges, [], [], by simp, .of_unasked tried nofun nofun⟩
  | nameless _ tried blank =>
      refine ⟨_, _, exchanges, [], [], by simp, .of_unasked tried ?_ fun _ _ _ => rfl⟩
      intro instanceId same given
      cases same
      rw [blank] at given
      cases given
  | @obtained other _ tries exchanges instanceId _ same tried given goesOn =>
      obtain rfl : other = budget := Except.ok.inj (same.symm.trans accepted)
      obtain ⟨polls, reads, rfl, creates⟩ := of_obtained tried given goesOn
      exact ⟨_, _, tries, polls, reads, (List.append_assoc _ _ _).symm, creates⟩

end Creates

/-- A creation never asks for a second instance once a call has been answered, and succeeds only
with what it reads of the instance in the answer behind a poll that shows it running. -/
theorem create_creates_once (keeps : service.surroundings.Keeps) (spec : DesiredSpec)
    {timeout : Option τ} (accepted : service.timeouts.budget .create timeout = .ok budget)
    (before : Session τ ω) :
    ∃ added clientToken outcome tries polls reads audits,
      (service.create spec timeout before).2.events = before.events ++ added ∧
      Told Undisturbed added (tries ++ polls ++ reads) audits ∧
      service.Creates before.inFlight spec budget clientToken outcome tries polls reads
        (service.create spec timeout before).1 := by
  obtain ⟨added, exchanges, audits, extended, told, creating⟩ :=
    create_tells keeps.encloses keeps spec timeout before
  obtain ⟨clientToken, outcome, tries, polls, reads, rfl, creates⟩ :=
    Creates.of_creating accepted creating
  exact ⟨added, clientToken, outcome, tries, polls, reads, audits, extended, told, creates⟩

/-- After a lost connection the same call is made again, and then only details are asked for. -/
theorem create_creates_once_starting :
    let after := Sample.scripted.create Sample.grown none Sample.starting
    (callsOf after.2.events).map RemoteCall.method = [.createInstance, .createInstance,
        .getInstanceDetail, .getInstanceDetail, .getInstanceDetail] ∧
      (after.1 matches .ok _) ∧
      ∃ added clientToken outcome tries polls reads audits,
        after.2.events = Sample.starting.events ++ added ∧
        Told Undisturbed added (tries ++ polls ++ reads) audits ∧
        Sample.scripted.Creates [] Sample.grown ⟨1200, 10⟩ clientToken outcome tries polls reads
          after.1 := by
  have accepted : Sample.scripted.timeouts.budget .create none = .ok ⟨1200, 10⟩ := rfl
  refine ⟨by decide +kernel, by decide +kernel, ?_⟩
  exact create_creates_once Sample.scripted_solitary.keeps Sample.grown accepted Sample.starting

end Service

end CacheSteward
