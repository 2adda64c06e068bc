import CacheSteward.Plan
import CacheSteward.Proofs.Decoding
import CacheSteward.Proofs.Entries

namespace CacheSteward

/-! Where the check that a step was applied agrees with the plan.

The plan compares what was read from a detail, the check compares what the detail literally says.
They agree on every detail in which the step is still to be done, and on those that write the
changed entry as the step does.
-/

namespace Value

theorem whole_of_same {v : Value} {n : Int} (same : v.same (.whole n) = true) :
    Field.whole v = .valid n := by
  cases v with
  | flag b =>
      simp only [Value.same, sameNumber, amount?, Option.getD_some, Amount.equal,
        Amount.compare?, Amount.whole?, beq_iff_eq, Option.some.injEq,
        Std.compare_eq_iff_eq] at same
      simp only [Field.whole, same]
  | whole m =>
      simp only [Value.same, sameNumber, amount?, Option.getD_some, Amount.equal,
        Amount.compare?, Amount.whole?, beq_iff_eq, Option.some.injEq,
        Std.compare_eq_iff_eq] at same
      simp only [Field.whole, same]
  | real x =>
      have equal : Decimal.compareWhole n x = some .eq := by
        simpa [Value.same, sameNumber, amount?, Amount.equal, Amount.compare?, Amount.whole?,
          Amount.toFloat] using same
      simp [Field.whole, Decimal.truncate?_of_compareWhole equal]
  | _ => simp [Value.same, sameNumber, amount?] at same

end Value

theorem AppliedCheck.holds_eq_of_lookup_eq {check : AppliedCheck} {es others : List (Value × Value)}
    (same : Value.lookup check.detailKey es = Value.lookup check.detailKey others) :
    check.holds (.mapping es) = check.holds (.mapping others) := by
  simp only [holds, Value.getOrNull, Value.get?, same]

/-- The entry that a step changes is written as steps write it: as text, or as a number that is
equal to an integer. -/
def OperationKind.WrittenIn (detail : Value) : OperationKind → Prop
  | .rename => ∃ s, detail.get? "instanceName" = some (.text s)
  | .resizeNodeType => ∃ s, detail.get? "nodeType" = some (.text s)
  | .resizeShardNum => ∃ v n, detail.get? "shardNum" = some v ∧ v.same (.whole n) = true
  | _ => False

/-- A text entry is the desired one exactly when it is read as the desired text and is a text. -/
theorem text_entry_agrees {entry : Option Value} {desired seen : String}
    (read : Field.text (entry.getD (.text "")) = .valid seen) :
    (entry.getD .null).same (.text desired) = true ↔
      desired = seen ∧ ∃ s, entry = some (.text s) := by
  rw [Value.same_text_iff]
  constructor
  · intro given
    cases entry with
    | none => cases given
    | some v =>
        cases given
        cases read
        exact ⟨rfl, _, rfl⟩
  · intro written
    obtain ⟨rfl, s, rfl⟩ := written
    cases read
    rfl

theorem whole_entry_agrees {entry : Option Value} {desired seen : Int}
    (read : Field.wholeAtLeast 1 (entry.getD (.whole 1)) = .valid seen) :
    (entry.getD .null).same (.whole desired) = true ↔
      desired = seen ∧ ∃ v n, entry = some v ∧ v.same (.whole n) = true := by
  have whole := (Checked.ensure_eq_valid_iff.mp read).1
  cases entry with
  | none => simp [Value.same, Value.sameNumber, Value.amount?]
  | some v =>
      rw [Option.getD_some] at whole ⊢
      constructor
      · intro given
        have sameWhole := Value.whole_of_same given
        rw [whole] at sameWhole
        cases sameWhole
        exact ⟨rfl, v, _, rfl, given⟩
      · intro written
        obtain ⟨rfl, _, n, found, given⟩ := written
        cases found
        have sameWhole := Value.whole_of_same given
        rw [whole] at sameWhole
        cases sameWhole
        exact given

namespace Plan

/-- Only what is fixed at creation decides whether a configuration can be reached. -/
theorem conflict?_eq {handle later : InstanceHandle} {spec : DesiredSpec}
    (sameType : later.clusterType = handle.clusterType)
    (sameVersion : later.engineVersion = handle.engineVersion)
    (samePort : later.port = handle.port) : conflict? later spec = conflict? handle spec := by
  have same : FixedField.conflicts later spec = FixedField.conflicts handle spec := by
    funext field
    cases field <;> simp only [FixedField.conflicts, sameType, sameVersion, samePort]
  simp only [conflict?, same]

/-- A plan holds a step of a kind. -/
def Holds (kind : OperationKind) (planned : List Step) : Prop :=
  ∃ step ∈ planned, step.kind = kind

section Holds

variable {handle : InstanceHandle} {spec : DesiredSpec}

theorem holds_rename_iff :
    Holds .rename (renameSteps handle spec ++ resizeSteps handle spec) ↔
      spec.instanceName ≠ handle.instanceName := by
  constructor
  · intro held
    obtain ⟨step, member, kind⟩ := held
    rcases List.mem_append.mp member with renamed | resized
    · exact (mem_renameSteps_iff.mp renamed).1
    · rcases mem_resizeSteps_iff.mp resized with ⟨_, _, _, rfl⟩ | ⟨_, _, _, rfl⟩ <;> cases kind
  · intro differs
    exact ⟨_, List.mem_append_left _ (mem_renameSteps_iff.mpr ⟨differs, rfl⟩), rfl⟩

theorem holds_resizeNodeType_iff {nodeType : String}
    (shape : handle.topology = .masterSlave nodeType) :
    Holds .resizeNodeType (renameSteps handle spec ++ resizeSteps handle spec) ↔
      spec.nodeType ≠ nodeType := by
  constructor
  · intro held
    obtain ⟨step, member, kind⟩ := held
    rcases List.mem_append.mp member with renamed | resized
    · obtain ⟨_, rfl⟩ := mem_renameSteps_iff.mp renamed
      cases kind
    · rcases mem_resizeSteps_iff.mp resized with ⟨_, same, differs, _⟩ | ⟨_, same, _, _⟩
      · rw [shape] at same
        cases same
        exact differs
      · rw [shape] at same
        cases same
  · intro differs
    have resized := mem_resizeSteps_iff.mpr (.inl ⟨nodeType, shape, differs, rfl⟩)
    exact ⟨_, List.mem_append_right _ resized, rfl⟩

theorem holds_resizeShardNum_iff {shardNum : Int} (shape : handle.topology = .cluster shardNum) :
    Holds .resizeShardNum (renameSteps handle spec ++ resizeSteps handle spec) ↔
      spec.shardNum ≠ shardNum := by
  constructor
  · intro held
    obtain ⟨step, member, kind⟩ := held
    rcases List.mem_append.mp member with renamed | resized
    · obtain ⟨_, rfl⟩ := mem_renameSteps_iff.mp renamed
      cases kind
    · rcases mem_resizeSteps_iff.mp resized with ⟨_, same, _, _⟩ | ⟨_, same, differs, _⟩
      · rw [shape] at same
        cases same
      · rw [shape] at same
        cases same
        exact differs
  · intro differs
    have resized := mem_resizeSteps_iff.mpr (.inr ⟨shardNum, shape, differs, rfl⟩)
    exact ⟨_, List.mem_append_right _ resized, rfl⟩

end Holds

/-- The check passes on the details in which the step is done and written as steps write it. -/
theorem check_holds_iff {handle later : InstanceHandle} {spec : DesiredSpec} {step : Step}
    (planned : step ∈ renameSteps handle spec ++ resizeSteps handle spec)
    {instanceId detail : Value} (read : InstanceHandle.ofDetail instanceId detail = .ok later)
    (sameType : later.clusterType = handle.clusterType) :
    ∃ check, step.appliedCheck = .ok check ∧
      (check.holds detail = true ↔
        ¬ Holds step.kind (renameSteps later spec ++ resizeSteps later spec) ∧
          step.kind.WrittenIn detail) := by
  obtain ⟨es, rfl, _, shape, named, _, _⟩ := InstanceHandle.ofDetail_ok read
  rcases List.mem_append.mp planned with renamed | resized
  · obtain ⟨_, rfl⟩ := mem_renameSteps_iff.mp renamed
    refine ⟨_, rfl, ?_⟩
    rw [holds_rename_iff, Decidable.not_not]
    exact text_entry_agrees named
  · rcases mem_resizeSteps_iff.mp resized with
      ⟨nodeType, pair, _, rfl⟩ | ⟨shardNum, cluster, _, rfl⟩
    · have type : later.clusterType = .masterSlave := by
        rw [sameType, InstanceHandle.clusterType, pair]
        rfl
      rw [type] at shape
      obtain ⟨seen, valid, laterPair⟩ := Detail.topology_masterSlave shape
      refine ⟨_, rfl, ?_⟩
      rw [holds_resizeNodeType_iff laterPair, Decidable.not_not]
      exact text_entry_agrees valid
    · have type : later.clusterType = .cluster := by
        rw [sameType, InstanceHandle.clusterType, cluster]
        rfl
      rw [type] at shape
      obtain ⟨seen, valid, laterCluster⟩ := Detail.topology_cluster shape
      refine ⟨_, rfl, ?_⟩
      rw [holds_resizeShardNum_iff laterCluster, Decidable.not_not]
      exact whole_entry_agrees valid

/-- The check that a step was applied agrees with planning anew on exactly those details in which
the step is still to be done, or its entry is written as steps write it. -/
theorem check_agrees_with_plan_iff {handle later : InstanceHandle} {spec : DesiredSpec}
    {planned : List Step} (plan : steps handle spec = .ok planned) {step : Step}
    (member : step ∈ planned) {instanceId detail : Value}
    (read : InstanceHandle.ofDetail instanceId detail = .ok later)
    (sameType : later.clusterType = handle.clusterType)
    (sameVersion : later.engineVersion = handle.engineVersion)
    (samePort : later.port = handle.port) :
    ∃ check replanned, step.appliedCheck = .ok check ∧ steps later spec = .ok replanned ∧
      ((check.holds detail = true ↔ ¬ Holds step.kind replanned) ↔
        Holds step.kind replanned ∨ step.kind.WrittenIn detail) := by
  obtain ⟨reachable, rfl⟩ := steps_eq_ok_iff.mp plan
  obtain ⟨check, checked, agrees⟩ := check_holds_iff member read sameType
  have stillReachable : conflict? later spec = none := by
    rw [conflict?_eq sameType sameVersion samePort]
    exact reachable
  refine ⟨check, _, checked, steps_eq_ok_iff.mpr ⟨stillReachable, rfl⟩, ?_⟩
  rw [agrees]
  by_cases held : Holds step.kind (renameSteps later spec ++ resizeSteps later spec)
  · simp [held]
  · simp [held]

/-! ### A shard count that is reported as text -/

def clusterOf (shardNum : Int) : InstanceHandle :=
  ⟨"scs-1", "shop", .running, .cluster shardNum, none, none, none, none, none, none, none, none,
    none, [], none, [], none, [], none, none⟩

def fourShards : DesiredSpec :=
  ⟨"shop", "small", .cluster, 4, .v3_2, 6379, 0, 2, 1, none, [], {}, none, none⟩

def fourAsText : Value :=
  .fields [("instanceName", .text "shop"), ("instanceStatus", .text "Running"),
    ("clusterType", .text "cluster"), ("shardNum", .text "4")]

def toFourShards : Step := ⟨.resizeShardNum, "scs-1", [("shard_num", .whole 4)]⟩

/-- The count is read as the desired one, and nothing is left to plan. -/
theorem fourAsText_read :
    InstanceHandle.ofDetail (.text "scs-1") fourAsText = .ok (clusterOf 4) ∧
      steps (clusterOf 4) fourShards = .ok [] :=
  ⟨rfl, rfl⟩

theorem check_agrees_with_plan_iff_fourAsText :
    ∃ check replanned, toFourShards.appliedCheck = .ok check ∧
      steps (clusterOf 4) fourShards = .ok replanned ∧
      ((check.holds fourAsText = true ↔ ¬ Holds .resizeShardNum replanned) ↔
        Holds .resizeShardNum replanned ∨ OperationKind.WrittenIn fourAsText .resizeShardNum) := by
  have plan : steps (clusterOf 2) fourShards = .ok [toFourShards] := rfl
  exact check_agrees_with_plan_iff plan (List.mem_singleton_self _) fourAsText_read.1 rfl rfl rfl

/-- The step is planned and its effect is read back, and still the check does not pass. -/
theorem check_disagrees_with_plan :
    ∃ check, steps (clusterOf 2) fourShards = .ok [toFourShards] ∧
      InstanceHandle.ofDetail (.text "scs-1") fourAsText = .ok (clusterOf 4) ∧
      (clusterOf 4).clusterType = (clusterOf 2).clusterType ∧
      (clusterOf 4).engineVersion = (clusterOf 2).engineVersion ∧
      (clusterOf 4).port = (clusterOf 2).port ∧ toFourShards.appliedCheck = .ok check ∧
      steps (clusterOf 4) fourShards = .ok [] ∧
      ¬ (check.holds fourAsText = true ↔ ¬ Holds .resizeShardNum []) := by
  refine ⟨⟨"shardNum", .whole 4⟩, rfl, rfl, rfl, rfl, rfl, rfl, rfl, fun agrees => ?_⟩
  have done : ¬ Holds .resizeShardNum [] := fun held => by
    obtain ⟨_, member, _⟩ := held
    cases member
  have fails : AppliedCheck.holds ⟨"shardNum", .whole 4⟩ fourAsText = false := by
    change Value.same (.text "4") (.whole 4) = false
    simp [Value.same, Value.sameNumber, Value.amount?]
  rw [agrees.mpr done] at fails
  cases fails

end Plan

end CacheSteward
