import CacheSteward.Proofs.Malformed
import CacheSteward.Service

namespace CacheSteward

/-! Faults that say where they happened.

A fault locates an instance when its details name the instance and an operation.  Operations put the
details together in one way wherever a fault arises, and everything that is added later keeps them.
-/

/-- The details name the instance and an operation on it. -/
def Fault.Locates (instanceId : Value) (fault : Fault) : Prop :=
  fault.detail? "instance_id" = some instanceId ∧
    ∃ operation, fault.detail? "operation" = some operation

namespace Fault

variable {kind : OperationKind} {instanceId : Value} {fault : Fault}

theorem mapDetails_of_raw (raw : fault.isKnown = false)
    (f : List (String × Value) → List (String × Value)) : fault.mapDetails f = fault := by
  cases fault with
  | known about message details cause => cases raw
  | remote | plain | unlisted | invalidRecord => rfl

theorem detail?_eq_none {names : List String}
    (listed : ∀ detail ∈ fault.details, detail.1 ∈ names) {name : String}
    (foreign : name ∉ names) : fault.detail? name = none := by
  refine List.lookup_eq_none_iff.mpr fun detail member => ?_
  have apart : name ≠ detail.1 := fun same => foreign (same ▸ listed detail member)
  simpa using apart

theorem detail?_of_raw (raw : fault.isKnown = false) (name : String) :
    fault.detail? name = none := by
  cases fault with
  | known about message details cause => cases raw
  | remote | plain | unlisted | invalidRecord => rfl

theorem not_locates_of_unnamed (unnamed : fault.detail? "instance_id" = none) :
    ¬ fault.Locates instanceId := by
  intro locates
  rw [Locates, unnamed] at locates
  cases locates.1

theorem not_locates_of_raw (raw : fault.isKnown = false) : ¬ fault.Locates instanceId :=
  not_locates_of_unnamed (detail?_of_raw raw _)

theorem operationDetails_eq (kind : OperationKind) (given : instanceId.isGiven = true) :
    operationDetails (some kind.word) instanceId =
      [("operation", .text kind.word), ("instance_id", instanceId)] := by
  rw [operationDetails_word, if_pos given]

theorem operationDetails_names (operation : Option String) (instanceId : Value) :
    ∀ detail ∈ operationDetails operation instanceId,
      detail.1 ∈ ["operation", "instance_id"] := by
  intro detail member
  rcases List.mem_append.mp member with named | placed
  · split at named
    · split at named
      · cases named
      · rw [List.mem_singleton.mp named]
        exact .head _
    · cases named
  · split at placed
    · rw [List.mem_singleton.mp placed]
      exact .tail _ (.head _)
    · cases placed

/-- The details that a fault may have besides the operation and its instance. -/
def furtherNames : List String := ["status", "elapsed_seconds", "last_status"]

/-- Faults as operations raise them on an instance. -/
inductive Arises (instanceId : Value) : Fault → Prop where
  | known (about : FaultKind) (message : String) (kind : OperationKind)
      {more : List (String × Value)} (further : ∀ detail ∈ more, detail.1 ∈ furtherNames)
      (cause : Option Fault) :
      Arises instanceId
        (.known about message (operationDetails (some kind.word) instanceId ++ more) cause)

namespace Arises

theorem isKnown (arises : fault.Arises instanceId) : fault.isKnown = true := by
  cases arises
  rfl

/-- Further details behind the operation and the instance do not hide them. -/
theorem locates (arises : fault.Arises instanceId) (given : instanceId.isGiven = true) :
    fault.Locates instanceId := by
  cases arises with
  | known about message kind further cause =>
      rw [operationDetails_eq kind given]
      exact ⟨rfl, _, rfl⟩

theorem detail?_eq_none (arises : fault.Arises instanceId) {name : String}
    (foreign : name ∉ ["operation", "instance_id"] ++ furtherNames) :
    fault.detail? name = none := by
  cases arises with
  | known about message kind further cause =>
      refine Fault.detail?_eq_none (fun detail member => List.mem_append.mpr ?_) foreign
      rcases List.mem_append.mp member with located | later
      · exact .inl (operationDetails_names _ _ detail located)
      · exact .inr (further detail later)

end Arises

theorem arises_located (about : FaultKind) (message : String) (kind : OperationKind)
    (cause : Option Fault) :
    (Fault.known about message (operationDetails (some kind.word) instanceId) cause).Arises
      instanceId := by
  rw [← List.append_nil (operationDetails _ instanceId)]
  exact .known about message kind (List.forall_mem_nil _) cause

theorem arises_unexpectedState (status : Value) (kind : OperationKind) :
    (unexpectedState status (some kind.word) instanceId).Arises instanceId :=
  .known _ _ kind (List.forall_mem_singleton.mpr (.head _)) none

theorem arises_operationTimeout (kind : OperationKind) (message : String)
    (elapsed rounded : Value) (last : Option String) (cause : Option Fault) :
    (operationTimeout message elapsed rounded (some kind.word) instanceId last cause).Arises
      instanceId := by
  unfold operationTimeout
  rw [List.append_assoc]
  refine .known _ message kind
    (List.forall_mem_cons.mpr ⟨.tail _ (.head _), fun detail member => ?_⟩) cause
  split at member
  · split at member
    · cases member
    · rw [List.mem_singleton.mp member]
      exact .tail _ (.tail _ (.head _))
  · cases member

/-- Recasting a fault of the machinery says what it was met with. -/
theorem arises_recast (raw : fault.isKnown = false) (disposition : Disposition)
    (kind : OperationKind) : (fault.recast disposition kind instanceId).Arises instanceId := by
  cases fault with
  | known about message details cause => cases raw
  | remote | plain | unlisted | invalidRecord =>
      cases disposition <;> exact arises_located _ _ kind _

/-- A refused claim names the instance but not the operation that was refused. -/
theorem not_locates_operationInProgress (pending : Option String) :
    ¬ (operationInProgress instanceId pending).Locates instanceId := by
  intro locates
  obtain ⟨_, operation, named⟩ := locates
  cases pending with
  | none => cases named
  | some word =>
      simp only [operationInProgress, detail?, details] at named
      cases blank : word.isEmpty <;> simp [blank, List.lookup_cons] at named

theorem lookup_putDetail_of_ne {name other : String} (apart : name ≠ other) (v : Value)
    (details : List (String × Value)) :
    (putDetail other v details).lookup name = details.lookup name := by
  have different : (name == other) = false := by simpa using apart
  induction details with
  | nil => simp [putDetail, List.lookup_cons, different]
  | cons detail rest ih =>
      obtain ⟨k, w⟩ := detail
      by_cases same : k = other
      · subst same
        simp [putDetail, List.lookup_cons, different]
      · simp only [putDetail, same, if_false, List.lookup_cons, ih]

/-- The report of a step keeps what the fault says. -/
theorem Locates.report (located : fault.Locates instanceId) (step : Step)
    (completed : List Step) :
    (fault.mapDetails (Service.stepReport step completed)).Locates instanceId := by
  have kept : ∀ name, name ≠ "rolled_back" → name ≠ "completed_steps" → name ≠ "step" →
      (fault.mapDetails (Service.stepReport step completed)).detail? name = fault.detail? name := by
    intro name notRolledBack notCompleted notStep
    cases fault with
    | known about message entries cause =>
        simp only [mapDetails, detail?, details, Service.stepReport,
          lookup_putDetail_of_ne notRolledBack, lookup_putDetail_of_ne notCompleted,
          lookup_putDetail_of_ne notStep]
    | remote | plain | unlisted | invalidRecord => rfl
  obtain ⟨instanceNamed, operation, operationNamed⟩ := located
  refine ⟨?_, operation, ?_⟩
  · rw [kept "instance_id" (by decide) (by decide) (by decide), instanceNamed]
  · rw [kept "operation" (by decide) (by decide) (by decide), operationNamed]

end Fault

/-! ### Faults of a detail document -/

variable {instanceId detail : Value} {fault : Fault}

theorem InstanceStatus.arises_of_parse_eq_error {raw : Value} {kind : OperationKind}
    (failed : InstanceStatus.parse raw instanceId (some kind.word) = .error fault) :
    fault.Arises instanceId := by
  unfold InstanceStatus.parse at failed
  split at failed
  · cases failed
  · cases failed
    exact Fault.arises_unexpectedState _ kind

/-- A document can be wrong in its status, in its cluster type, or in anything else. -/
theorem InstanceHandle.wrong_of_ofDetail_eq_error {es : List (Value × Value)}
    (failed : InstanceHandle.ofDetail instanceId (.mapping es) = .error fault) :
    (∃ raw, InstanceStatus.parse raw instanceId (some OperationKind.read.word) = .error fault) ∨
      Detail.clusterType es = .error fault ∨
      ∃ message cause, fault =
        .remoteOperation message (some OperationKind.read.word) instanceId (some cause) := by
  rw [InstanceHandle.ofDetail_mapping] at failed
  obtain parsed | ⟨status, _, failed⟩ := Fault.error_of_bind failed
  · exact .inl ⟨_, parsed⟩
  obtain typed | ⟨clusterType, _, failed⟩ := Fault.error_of_bind failed
  · exact .inr (.inl typed)
  obtain ⟨cause, _, rfl⟩ := Fault.error_of_mapError failed
  exact .inr (.inr ⟨_, cause, rfl⟩)

/-- Of all that can be wrong with a document, only its cluster type is reported without a place. -/
theorem InstanceHandle.arises_of_ofDetail_eq_error {es : List (Value × Value)}
    (failed : InstanceHandle.ofDetail instanceId (.mapping es) = .error fault) :
    fault.Arises instanceId ∨ Detail.clusterType es = .error fault := by
  rcases wrong_of_ofDetail_eq_error failed with ⟨_, parsed⟩ | typed | ⟨_, _, rfl⟩
  · exact .inl (InstanceStatus.arises_of_parse_eq_error parsed)
  · exact .inr typed
  · exact .inl (Fault.arises_located _ _ .read _)

theorem Detail.validation_of_clusterType_eq_error {es : List (Value × Value)}
    (failed : Detail.clusterType es = .error fault) :
    ∃ message v, fault = .validation message (some "clusterType") v := by
  unfold Detail.clusterType at failed
  dsimp only at failed
  split at failed
  · cases failed
  · cases failed
    exact ⟨_, _, rfl⟩

/-- Whatever is wrong with a document is reported as a known fault. -/
theorem InstanceHandle.isKnown_of_ofDetail_eq_error {es : List (Value × Value)}
    (failed : InstanceHandle.ofDetail instanceId (.mapping es) = .error fault) :
    fault.isKnown = true := by
  rcases arises_of_ofDetail_eq_error failed with arises | unknown
  · exact arises.isKnown
  · obtain ⟨_, _, rfl⟩ := Detail.validation_of_clusterType_eq_error unknown
    rfl

/-- What is wrong with a cluster type names the field and the value, and nothing else. -/
theorem Detail.detail?_of_clusterType_eq_error {es : List (Value × Value)}
    (failed : Detail.clusterType es = .error fault) {name : String}
    (foreign : name ∉ ["field", "value"]) : fault.detail? name = none := by
  obtain ⟨message, v, rfl⟩ := validation_of_clusterType_eq_error failed
  refine Fault.detail?_eq_none (fun detail member => ?_) foreign
  rcases List.mem_append.mp member with field | value
  · rw [List.mem_singleton.mp field]
    exact .head _
  · split at value
    · cases value
    · rw [List.mem_singleton.mp value]
      exact .tail _ (.head _)

theorem Detail.not_locates_of_clusterType_eq_error {es : List (Value × Value)}
    (failed : Detail.clusterType es = .error fault) : ¬ fault.Locates instanceId :=
  Fault.not_locates_of_unnamed (detail?_of_clusterType_eq_error failed (by decide))

theorem Budget.notPositive_of_make_eq_error {τ : Type} [Timescale τ] {timeout interval : τ}
    (failed : Budget.make timeout interval = .error fault) :
    ∃ key given, fault = (notPositive key (given : τ)) := by
  unfold Budget.make at failed
  split at failed
  · cases failed
    exact ⟨_, _, rfl⟩
  · split at failed
    · cases failed
      exact ⟨_, _, rfl⟩
    · cases failed

/-- A refused budget names the time that is wrong, and nothing else. -/
theorem Budget.detail?_of_make_eq_error {τ : Type} [Timescale τ] {timeout interval : τ}
    (failed : Budget.make timeout interval = .error fault) {name : String}
    (foreign : name ∉ ["config_key"]) : fault.detail? name = none := by
  obtain ⟨key, given, rfl⟩ := notPositive_of_make_eq_error failed
  refine Fault.detail?_eq_none (fun detail member => ?_) foreign
  unfold Fault.details notPositive Fault.configuration at member
  dsimp only at member
  split at member
  · cases member
  · rw [List.mem_singleton.mp member]
    exact .head _

theorem Budget.not_locates_of_make_eq_error {τ : Type} [Timescale τ] {timeout interval : τ}
    (failed : Budget.make timeout interval = .error fault) : ¬ fault.Locates instanceId :=
  Fault.not_locates_of_unnamed (detail?_of_make_eq_error failed (by decide))

end CacheSteward
