import CacheSteward.Proofs.Location
import CacheSteward.Proofs.Specification

namespace CacheSteward

/-! How documents are refused.

A detail document that cannot be read as a handle ends in one of three faults, and which one is
settled by the entries for the status and the cluster type alone.  A configuration that cannot be
read as a specification ends in one.  Nothing else comes out of either, whatever values a document
holds.
-/

namespace Detail

variable {es : List (Value × Value)}

/-- The document gives a status, and there is such a status. -/
def StatusKnown (es : List (Value × Value)) : Prop :=
  ∃ status : InstanceStatus, Value.lookup "instanceStatus" es = some (.text status.word)

/-- The document leaves the cluster type out or gives one that there is. -/
def TypeKnown (es : List (Value × Value)) : Prop :=
  ∀ given, Value.lookup "clusterType" es = some given →
    given = .text "cluster" ∨ given = .text "master_slave"

theorem clusterType_of_known (known : TypeKnown es) :
    ∃ type : ClusterType, clusterType es = .ok type := by
  unfold clusterType
  cases found : Value.lookup "clusterType" es with
  | none => exact ⟨.masterSlave, rfl⟩
  | some given =>
      obtain rfl | rfl := known given found
      · exact ⟨.cluster, rfl⟩
      · exact ⟨.masterSlave, rfl⟩

theorem clusterType_of_unknown (unknown : ¬ TypeKnown es) :
    ∃ message given, clusterType es = .error (.validation message (some "clusterType") given) := by
  have listed : ∃ given, Value.lookup "clusterType" es = some given ∧
      given ≠ .text "cluster" ∧ given ≠ .text "master_slave" := by
    simpa [TypeKnown] using unknown
  obtain ⟨given, found, notCluster, notPair⟩ := listed
  cases type : given.text?.bind (Enumerated.ofWord? : String → Option ClusterType) with
  | none =>
      refine ⟨"Unknown cluster type '" ++ given.shown ++ "'", given, ?_⟩
      unfold clusterType
      simp only [found, Option.getD_some, type]
  | some named =>
      cases given with
      | text s =>
          have word := Enumerated.word_of_ofWord? type
          cases named with
          | cluster => exact absurd (congrArg Value.text word.symm) notCluster
          | masterSlave => exact absurd (congrArg Value.text word.symm) notPair
      | _ => cases type

end Detail

namespace InstanceHandle

open Detail

variable {es : List (Value × Value)}

/-- What reading the detail document of an instance may come to: a fault about the status exactly
when that is not known, else one about the cluster type exactly when that is not known, and else a
handle, or a fault of the control plane that says where it arose and why. -/
structure Bounded (id : String) (es : List (Value × Value))
    (result : Except Fault InstanceHandle) : Prop where
  unexpected : (∃ status, result = .error (.unexpectedState status (some "read") (.text id))) ↔
    ¬ StatusKnown es
  mistyped : (∃ message given,
      result = .error (.validation message (some "clusterType") given)) ↔
    StatusKnown es ∧ ¬ TypeKnown es
  otherwise : StatusKnown es → TypeKnown es →
    (∃ handle, result = .ok handle) ∨
    ∃ message cause, result = .error (.known .remoteOperation message
      [("operation", .text "read"), ("instance_id", .text id)] (some cause))

theorem ofDetail_of_strangeStatus (id : Value) (strange : ¬ StatusKnown es) :
    ∃ status, ofDetail id (.mapping es) =
      .error (.unexpectedState (.text status) (some OperationKind.read.word) id) := by
  have unknown := not_exists.mp strange
  rw [ofDetail_mapping, InstanceStatus.parse_entry_of_unknown unknown]
  exact ⟨_, rfl⟩

theorem ofDetail_of_strangeType (id : Value) (known : StatusKnown es) (strange : ¬ TypeKnown es) :
    ∃ message given, ofDetail id (.mapping es) =
      .error (.validation message (some "clusterType") given) := by
  obtain ⟨status, given⟩ := known
  obtain ⟨message, type, refused⟩ := clusterType_of_unknown strange
  rw [ofDetail_mapping, Fault.bind_of_ok (InstanceStatus.parse_entry_eq_ok_iff.mpr given), refused]
  exact ⟨message, type, rfl⟩

theorem ofDetail_of_known (id : Value) (known : StatusKnown es) (typed : TypeKnown es) :
    (∃ handle, ofDetail id (.mapping es) = .ok handle) ∨
    ∃ message cause, ofDetail id (.mapping es) =
      .error (.remoteOperation message (some OperationKind.read.word) id (some cause)) := by
  obtain ⟨status, given⟩ := known
  obtain ⟨type, named⟩ := clusterType_of_known typed
  rw [ofDetail_mapping, Fault.bind_of_ok (InstanceStatus.parse_entry_eq_ok_iff.mpr given),
    Fault.bind_of_ok named]
  cases Detail.assemble id status type es with
  | ok handle => exact Or.inl ⟨handle, rfl⟩
  | error cause => exact Or.inr ⟨_, cause, rfl⟩

variable {id : String} {result : Except Fault InstanceHandle}

/-- The three faults are told apart by their kinds, so each arises in its own case only. -/
theorem Bounded.of_strangeStatus {status : Value} (strange : ¬ StatusKnown es) :
    Bounded id es (.error (.unexpectedState status (some "read") (.text id))) := by
  constructor
  case unexpected => exact iff_of_true ⟨status, rfl⟩ strange
  case mistyped =>
    refine iff_of_false ?_ (fun both => strange both.1)
    rintro ⟨message, given, same⟩
    cases same
  case otherwise => exact fun known => absurd known strange

theorem Bounded.of_strangeType {message : String} {given : Value} (known : StatusKnown es)
    (strange : ¬ TypeKnown es) :
    Bounded id es (.error (.validation message (some "clusterType") given)) := by
  constructor
  case unexpected =>
    refine iff_of_false ?_ (not_not_intro known)
    rintro ⟨status, same⟩
    cases same
  case mistyped => exact iff_of_true ⟨message, given, rfl⟩ ⟨known, strange⟩
  case otherwise => exact fun _ typed => absurd typed strange

theorem Bounded.of_known (known : StatusKnown es) (typed : TypeKnown es)
    (ends : (∃ handle, result = .ok handle) ∨
      ∃ message cause, result = .error (.known .remoteOperation message
        [("operation", .text "read"), ("instance_id", .text id)] (some cause))) :
    Bounded id es result := by
  have remote : ∀ fault, result = .error fault → ∃ message cause,
      fault = .known .remoteOperation message
        [("operation", .text "read"), ("instance_id", .text id)] (some cause) := by
    intro fault failed
    obtain ⟨handle, read⟩ | ⟨message, cause, refused⟩ := ends
    · cases failed.symm.trans read
    · exact ⟨message, cause, Except.error.inj (failed.symm.trans refused)⟩
  constructor
  case unexpected =>
    refine iff_of_false ?_ (not_not_intro known)
    rintro ⟨status, failed⟩
    obtain ⟨_, _, same⟩ := remote _ failed
    cases same
  case mistyped =>
    refine iff_of_false ?_ (fun both => both.2 typed)
    rintro ⟨message, given, failed⟩
    obtain ⟨_, _, same⟩ := remote _ failed
    cases same
  case otherwise => exact fun _ _ => ends

theorem ofDetail_bounded (identified : id ≠ "") (es : List (Value × Value)) :
    Bounded id es (ofDetail (.text id) (.mapping es)) := by
  by_cases known : StatusKnown es
  · by_cases typed : TypeKnown es
    · have given : (Value.text id).isGiven = true := by
        simpa [Value.isGiven] using identified
      have details : Fault.operationDetails (some OperationKind.read.word) (.text id) =
          [("operation", .text "read"), ("instance_id", .text id)] :=
        Fault.operationDetails_eq .read given
      have ends := ofDetail_of_known (.text id) known typed
      simp only [Fault.remoteOperation, details] at ends
      exact .of_known known typed ends
    · obtain ⟨message, given, failed⟩ := ofDetail_of_strangeType (.text id) known typed
      rw [failed]
      exact .of_strangeType known typed
  · obtain ⟨status, failed⟩ := ofDetail_of_strangeStatus (.text id) known
    rw [failed]
    exact .of_strangeStatus known

end InstanceHandle

/-- A configuration that is refused is refused as invalid. -/
theorem DesiredSpec.ofConfig_bounded (data : Value) :
    (∃ spec, ofConfig data = .ok spec) ∨
    ∃ reason field, ofConfig data = .error (rejected reason field) := by
  cases data with
  | mapping es =>
      unfold ofConfig
      dsimp only
      split
      · cases ofEntries es with
        | valid spec => exact Or.inl ⟨spec, rfl⟩
        | invalid first rest => exact Or.inr ⟨_, _, rfl⟩
      · exact Or.inr ⟨_, _, rfl⟩
  | _ => exact Or.inr ⟨_, _, rfl⟩

/-- Whatever a document holds, reading it gives what was asked for or one of the faults that a
caller knows. -/
theorem documents_refused_as_known {id : String} (identified : id ≠ "") :
    (∀ es, InstanceHandle.Bounded id es (InstanceHandle.ofDetail (.text id) (.mapping es))) ∧
    ∀ data, (∃ spec, DesiredSpec.ofConfig data = .ok spec) ∨
      ∃ reason field, DesiredSpec.ofConfig data =
        .error (.validation ("Invalid desired spec: " ++ reason) field .null) :=
  ⟨InstanceHandle.ofDetail_bounded identified, DesiredSpec.ofConfig_bounded⟩

/-- The detail of a running instance, with a number among its tags. -/
def numberTag : List (Value × Value) :=
  [(.text "instanceStatus", .text "Running"), (.text "clusterType", .text "cluster"),
    (.text "tags", .list [.fields [("tagKey", .text "env")], .whole 7])]

theorem documents_refused_as_known_numberTag :
    "scs-1" ≠ "" ∧ ∃ message cause, InstanceHandle.ofDetail (.text "scs-1") (.mapping numberTag) =
      .error (.known .remoteOperation message
        [("operation", .text "read"), ("instance_id", .text "scs-1")] (some cause)) := by
  have identified : "scs-1" ≠ "" := by decide
  have bounded := (documents_refused_as_known identified).1 numberTag
  have typed : Detail.TypeKnown numberTag := by
    intro given found
    cases found
    exact Or.inl rfl
  obtain ⟨handle, read⟩ | refused := bounded.otherwise ⟨.running, rfl⟩ typed
  · cases read
  · exact ⟨identified, refused⟩

end CacheSteward
