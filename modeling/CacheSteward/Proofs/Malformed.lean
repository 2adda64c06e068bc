import CacheSteward.Instance.Detail

namespace CacheSteward

/-! What can be wrong with a detail document beyond its status and its cluster type.

Only failures that say so count as a malformed document; any other would leave the reader as it is.
Every part of the reader fails in no other way, whatever values the document holds.
-/

namespace Detail

variable {α β : Type} {key : String} {v : Value} {es tags : List (Value × Value)}

/-- The computation fails in no other way than by finding the document malformed. -/
def FailsMalformed (ran : Except Fault α) : Prop :=
  ∀ fault, ran = .error fault → isMalformation fault = true

theorem failsMalformed_ok (a : α) : FailsMalformed (.ok a) := by
  intro fault failed
  cases failed

theorem failsMalformed_error {fault : Fault} (malformed : isMalformation fault = true) :
    FailsMalformed (.error fault : Except Fault α) := by
  intro reason failed
  cases failed
  exact malformed

theorem FailsMalformed.bind {first : Except Fault α} {next : α → Except Fault β}
    (malformed : FailsMalformed first) (followed : ∀ a, FailsMalformed (next a)) :
    FailsMalformed (first >>= next) := by
  cases first with
  | ok a => exact followed a
  | error reason => exact failsMalformed_error (malformed reason rfl)

theorem failsMalformed_mapM {read : Value → Except Fault α} (each : ∀ v, FailsMalformed (read v))
    (items : List Value) : FailsMalformed (items.mapM read) := by
  induction items with
  | nil => exact failsMalformed_ok []
  | cons head tail ih =>
      rw [List.mapM_cons]
      exact (each head).bind fun a => ih.bind fun rest => failsMalformed_ok (a :: rest)

theorem failsMalformed_foldlM {add : β → Value → Except Fault β}
    (each : ∀ b v, FailsMalformed (add b v)) (items : List Value) (b : β) :
    FailsMalformed (items.foldlM add b) := by
  induction items generalizing b with
  | nil => exact failsMalformed_ok b
  | cons head tail ih =>
      rw [List.foldlM_cons]
      exact (each b head).bind fun next => ih next

/-! ### The parts of the reader -/

theorem failsMalformed_get : FailsMalformed (get key v) := by
  cases v with
  | mapping es => exact failsMalformed_ok _
  | _ => exact failsMalformed_error rfl

theorem failsMalformed_items : FailsMalformed (items v) := by
  cases v with
  | list | text | mapping => exact failsMalformed_ok _
  | _ => exact failsMalformed_error rfl

theorem failsMalformed_checked {record : String} (read : Checked α) :
    FailsMalformed (checked record read) := by
  cases read with
  | valid a => exact failsMalformed_ok a
  | invalid first rest => exact failsMalformed_error rfl

theorem failsMalformed_topology {clusterType : ClusterType} :
    FailsMalformed (topology clusterType es) := by
  cases clusterType <;> exact failsMalformed_checked _

theorem failsMalformed_subnet : FailsMalformed (subnet v) :=
  failsMalformed_get.bind fun _ => failsMalformed_get.bind fun _ => failsMalformed_checked _

theorem failsMalformed_hasTagKey : FailsMalformed (hasTagKey v) := by
  cases v with
  | list | text | mapping => exact failsMalformed_ok _
  | _ => exact failsMalformed_error rfl

theorem failsMalformed_addTag : FailsMalformed (addTag tags v) := by
  refine failsMalformed_hasTagKey.bind fun held => ?_
  cases held with
  | false => exact failsMalformed_ok tags
  | true =>
      cases v with
      | mapping es =>
          by_cases usable : ((Value.lookup "tagKey" es).getD .null).isKey = true
          · simp only [usable, if_true]
            exact failsMalformed_ok _
          · simp only [usable]
            exact failsMalformed_error rfl
      | _ => exact failsMalformed_error rfl

theorem failsMalformed_assemble {instanceId : Value} {status : InstanceStatus}
    {clusterType : ClusterType} : FailsMalformed (assemble instanceId status clusterType es) :=
  failsMalformed_topology.bind fun _ =>
    failsMalformed_items.bind fun subnets =>
      (failsMalformed_mapM (fun _ => failsMalformed_subnet) subnets).bind fun _ =>
        failsMalformed_items.bind fun tags =>
          (failsMalformed_foldlM (fun _ _ => failsMalformed_addTag) tags []).bind fun _ =>
            failsMalformed_checked _

end Detail

/-- A document is judged by its status, then by its cluster type; then it is read or found
malformed. -/
theorem InstanceHandle.ofDetail_mapping {instanceId : Value} {es : List (Value × Value)} :
    ofDetail instanceId (.mapping es) =
      (InstanceStatus.parse ((Value.lookup "instanceStatus" es).getD .null) instanceId
        (some OperationKind.read.word) >>= fun status =>
      Detail.clusterType es >>= fun clusterType =>
      (Detail.assemble instanceId status clusterType es).mapError
        (Detail.malformed instanceId)) := by
  unfold ofDetail
  change (InstanceStatus.parse ((Value.lookup "instanceStatus" es).getD .null) instanceId
    (some OperationKind.read.word) >>= _) = _
  refine bind_congr fun status => ?_
  change (Detail.clusterType es >>= _) = _
  refine bind_congr fun clusterType => ?_
  cases assembled : Detail.assemble instanceId status clusterType es with
  | ok handle => rfl
  | error cause =>
      have malformed := Detail.failsMalformed_assemble cause assembled
      simp only [if_pos malformed]
      rfl

end CacheSteward
