import CacheSteward.Service

namespace CacheSteward

/-! What the steps of a plan ask for.

Every planned step has one mutation and one check that it took effect, and all of them share one
budget.
-/

/-- The call of a step that carries a given token, and the check that the step took effect. -/
inductive Step.Intent (clientToken : String) : Step → RemoteCall → AppliedCheck → Prop where
  | rename (instanceId : String) (name : Value) :
      Intent clientToken ⟨.rename, instanceId, [("instance_name", name)]⟩
        (.updateInstanceName (.text instanceId) name clientToken) ⟨"instanceName", name⟩
  | resizeNodeType (instanceId : String) (nodeType : Value) :
      Intent clientToken ⟨.resizeNodeType, instanceId, [("node_type", nodeType)]⟩
        (.resizeNodeType (.text instanceId) nodeType) ⟨"nodeType", nodeType⟩
  | resizeShardNum (instanceId : String) (shardNum : Value) :
      Intent clientToken ⟨.resizeShardNum, instanceId, [("shard_num", shardNum)]⟩
        (.resizeShardNum (.text instanceId) shardNum) ⟨"shardNum", shardNum⟩

/-- A step that can be carried out under any token. -/
def Step.Sound (step : Step) : Prop :=
  ∀ clientToken, ∃ call check, Step.Intent clientToken step call check

namespace Step.Intent

variable {clientToken : String} {step : Step} {call : RemoteCall} {check : AppliedCheck}

theorem callOf (intent : Intent clientToken step call check) :
    Service.callOf step clientToken = .ok call := by
  cases intent <;> rfl

theorem appliedCheck (intent : Intent clientToken step call check) :
    step.appliedCheck = .ok check := by
  cases intent <;> rfl

/-- A step calls on its own instance. -/
theorem names (intent : Intent clientToken step call check) :
    call.instanceId? = some (.text step.instanceId) := by
  cases intent <;> rfl

theorem resolves_no_failure (intent : Intent clientToken step call check)
    (disposition : Disposition) : disposition.resolve step.kind ≠ .success := by
  intro resolved
  have kind := Disposition.delete_or_read_of_resolve_eq_success resolved
  cases intent <;> rcases kind with impossible | impossible <;> cases impossible

end Step.Intent

/-- A step is an update, whatever it changes. -/
theorem Step.Sound.timeoutOf {τ : Type} {step : Step} (sound : step.Sound)
    (timeouts : Timeouts τ) : timeouts.timeoutOf step.kind = timeouts.update := by
  obtain ⟨call, check, intent⟩ := sound ""
  cases intent <;> rfl

namespace Plan

theorem steps_sound {handle : InstanceHandle} {spec : DesiredSpec} {planned : List Step}
    (plan : steps handle spec = .ok planned) :
    ∀ step ∈ planned, step.instanceId = handle.instanceId ∧ step.Sound := by
  intro step member
  obtain ⟨_, rfl⟩ := steps_eq_ok_iff.mp plan
  rcases List.mem_append.mp member with renamed | resized
  · obtain ⟨_, rfl⟩ := mem_renameSteps_iff.mp renamed
    exact ⟨rfl, fun _ => ⟨_, _, .rename _ _⟩⟩
  · rcases mem_resizeSteps_iff.mp resized with ⟨_, _, _, rfl⟩ | ⟨_, _, _, rfl⟩
    · exact ⟨rfl, fun _ => ⟨_, _, .resizeNodeType _ _⟩⟩
    · exact ⟨rfl, fun _ => ⟨_, _, .resizeShardNum _ _⟩⟩

theorem resizeSteps_not_rename {handle : InstanceHandle} {spec : DesiredSpec} {step : Step}
    (member : step ∈ resizeSteps handle spec) : step.kind ≠ .rename := by
  rcases mem_resizeSteps_iff.mp member with ⟨_, _, _, rfl⟩ | ⟨_, _, _, rfl⟩ <;> nofun

/-- The step that gives an instance its desired name. -/
def renameStep (handle : InstanceHandle) (spec : DesiredSpec) : Step :=
  ⟨.rename, handle.instanceId, [("instance_name", .text spec.instanceName)]⟩

/-- A plan is a rename in front of resizes, or it has resizes only. -/
theorem steps_cases {handle : InstanceHandle} {spec : DesiredSpec} {planned : List Step}
    (plan : steps handle spec = .ok planned) :
    (∀ step ∈ planned, step.kind ≠ .rename) ∨
      ∃ rest, planned = renameStep handle spec :: rest ∧ ∀ step ∈ rest, step.kind ≠ .rename := by
  obtain ⟨_, rfl⟩ := steps_eq_ok_iff.mp plan
  unfold renameSteps
  by_cases same : spec.instanceName = handle.instanceName
  · rw [if_pos same, List.nil_append]
    exact .inl fun _ => resizeSteps_not_rename
  · rw [if_neg same]
    exact .inr ⟨_, rfl, fun _ => resizeSteps_not_rename⟩

theorem steps_tail_kind {handle : InstanceHandle} {spec : DesiredSpec} {planned : List Step}
    (plan : steps handle spec = .ok planned) : ∀ step ∈ planned.tail, step.kind ≠ .rename := by
  rcases steps_cases plan with resizes | ⟨rest, rfl, resizes⟩
  · exact fun step member => resizes step (List.mem_of_mem_tail member)
  · exact resizes

end Plan

namespace Service

variable {τ ω : Type} [Timescale τ] {service : Service τ ω} {timeout : Option τ}

theorem budgets_fst {steps : List Step} {row : List (Step × Budget τ)}
    (budgeted : service.budgets timeout steps = .ok row) : row.map Prod.fst = steps := by
  induction steps generalizing row with
  | nil =>
      cases budgeted
      rfl
  | cons step rest ih =>
      obtain ⟨budget, _, budgeted⟩ := Fault.ok_of_bind budgeted
      obtain ⟨others, budgetedRest, same⟩ := Fault.ok_of_bind budgeted
      cases same
      rw [List.map_cons, ih budgetedRest]

theorem budgets_ok {budget : Budget τ}
    (accepted : Budget.make (timeout.getD service.timeouts.update) service.timeouts.interval =
      .ok budget) {steps : List Step} (sound : ∀ step ∈ steps, step.Sound) :
    service.budgets timeout steps = .ok (steps.map fun step => (step, budget)) := by
  induction steps with
  | nil => rfl
  | cons step rest ih =>
      have update := (sound step List.mem_cons_self).timeoutOf service.timeouts
      have others := ih fun other member => sound other (List.mem_cons_of_mem _ member)
      simp only [budgets, Timeouts.budget, update, accepted, others]
      rfl

/-- All steps share one budget, so that a refused one is refused for the first of them. -/
theorem budgets_error {fault : Fault}
    (unaccepted : Budget.make (timeout.getD service.timeouts.update) service.timeouts.interval =
      .error fault) {steps : List Step} (changes : steps ≠ [])
    (sound : ∀ step ∈ steps, step.Sound) : service.budgets timeout steps = .error fault := by
  cases steps with
  | nil => exact absurd rfl changes
  | cons step rest =>
      have update := (sound step List.mem_cons_self).timeoutOf service.timeouts
      simp only [budgets, Timeouts.budget, update, unaccepted]
      rfl

end Service

end CacheSteward
