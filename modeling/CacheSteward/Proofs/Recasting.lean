import CacheSteward.Proofs.Release

namespace CacheSteward

/-! That recasting a fault keeps what it means.

The class of a fault is read off the report of the control plane, the failure of the machinery or
the code of a known fault, and the fault is recast by its class.  The known fault that comes out of
it is of the same class for every kind of operation, so it is judged as the fault behind it was,
and to recast it again changes nothing.
-/

/-- The code under which faults of a class are reported stands for that class. -/
theorem Disposition.disposition_faultKind (disposition : Disposition) :
    disposition.faultKind.code.disposition = disposition := by
  cases disposition <;> rfl

namespace Fault

variable {fault : Fault} {details : List (String × Value)} {name : String}

/-! ### Details -/

theorem lookup_addDetail (added : String) (v : Value) (details : List (String × Value)) :
    (addDetail added v details).lookup name =
      (details.lookup name).or (if name = added then some v else none) := by
  unfold addDetail
  by_cases same : name = added
  · subst same
    rw [if_pos rfl]
    cases found : details.lookup name with
    | none => simp [List.lookup_append, found]
    | some w => simp [found]
  · have apart : (name == added) = false := beq_eq_false_iff_ne.mpr same
    rw [if_neg same, Option.or_none]
    split
    · rfl
    · simp [List.lookup_append, List.lookup_cons, apart]

theorem addDetail_of_isSome (given : (details.lookup name).isSome = true) (v : Value) :
    addDetail name v details = details :=
  if_pos given

section Locating

variable (kind : OperationKind) (instanceId : Value) (details : List (String × Value))

theorem lookup_locate :
    (locate kind instanceId details).lookup name =
      ((details.lookup name).or (if name = "operation" then some (.text kind.word) else none)).or
        (if instanceId.isGiven ∧ name = "instance_id" then some instanceId else none) := by
  unfold locate
  cases given : instanceId.isGiven with
  | false => simp only [Bool.false_eq_true, false_and, if_false, Option.or_none, lookup_addDetail]
  | true => simp only [true_and, if_true, lookup_addDetail]

theorem lookup_locate_operation :
    (locate kind instanceId details).lookup "operation" =
      (details.lookup "operation").or (some (.text kind.word)) := by
  simp [lookup_locate]

theorem lookup_locate_instanceId :
    (locate kind instanceId details).lookup "instance_id" =
      (details.lookup "instance_id").or
        (if instanceId.isGiven then some instanceId else none) := by
  simp [lookup_locate]

theorem lookup_locate_other (notOperation : name ≠ "operation") (notId : name ≠ "instance_id") :
    (locate kind instanceId details).lookup name = details.lookup name := by
  simp [lookup_locate, notOperation, notId]

/-- What says already where it happened is left as it is. -/
theorem locate_locate :
    locate kind instanceId (locate kind instanceId details) = locate kind instanceId details := by
  have operation : ((locate kind instanceId details).lookup "operation").isSome = true := by
    rw [lookup_locate_operation, Option.isSome_or, Option.isSome_some, Bool.or_true]
  rw [locate.eq_1 kind instanceId (locate kind instanceId details), addDetail_of_isSome operation]
  cases given : instanceId.isGiven with
  | false => rfl
  | true =>
      refine addDetail_of_isSome ?_ instanceId
      rw [lookup_locate_instanceId, given, if_pos rfl, Option.isSome_or, Option.isSome_some,
        Bool.or_true]

/-- A fault without details is located from the start. -/
theorem locate_nil : locate kind instanceId [] = operationDetails (some kind.word) instanceId := by
  rw [operationDetails_word]
  cases given : instanceId.isGiven <;> simp [locate, addDetail, List.lookup_cons, given]

end Locating

/-! ### Recasting -/

section Recasting

variable (fault : Fault) (disposition : Disposition) (kind : OperationKind) (instanceId : Value)

theorem details_recast :
    (fault.recast disposition kind instanceId).details = locate kind instanceId fault.details := by
  cases fault with
  | known about message details cause => rfl
  | remote | plain | unlisted | invalidRecord =>
      cases disposition <;> exact (locate_nil kind instanceId).symm

theorem isKnown_recast : (fault.recast disposition kind instanceId).isKnown = true := by
  cases fault with
  | known about message details cause => rfl
  | remote | plain | unlisted | invalidRecord => cases disposition <;> rfl

/-- A fault of the machinery becomes the cause of the known one. -/
theorem cause?_recast :
    (fault.recast disposition kind instanceId).cause? =
      if fault.isKnown then fault.cause? else some fault := by
  cases fault with
  | known about message details cause => rfl
  | remote | plain | unlisted | invalidRecord => cases disposition <;> rfl

theorem disposition_recast (other : OperationKind) :
    (fault.recast (fault.disposition kind) kind instanceId).disposition other =
      fault.disposition kind := by
  cases foreign : fault.isKnown with
  | true =>
      cases fault with
      | known about message details cause => rfl
      | remote | plain | unlisted | invalidRecord => cases foreign
  | false =>
      obtain ⟨message, details, cause, recasted⟩ :=
        isOf_recast foreign (fault.disposition kind) kind instanceId
      rw [recasted]
      exact (fault.disposition kind).disposition_faultKind

variable {fault}

/-- A known fault that says where it happened is recast to itself. -/
theorem recast_of_located (known : fault.isKnown = true)
    (located : locate kind instanceId fault.details = fault.details) :
    fault.recast disposition kind instanceId = fault := by
  cases fault with
  | known about message details cause => exact congrArg (Fault.known about message · cause) located
  | remote | plain | unlisted | invalidRecord => cases known

end Recasting

/-- What becomes of a fault that an operation met on an instance when it is recast as a known
one. -/
structure Recasts (kind : OperationKind) (instanceId : Value) (fault known : Fault) : Prop where
  isKnown : known.isKnown = true
  /-- Its class does not depend on the operation that it is judged for. -/
  means : ∀ other, known.disposition other = fault.disposition kind
  resolves : (known.disposition kind).resolve kind = (fault.disposition kind).resolve kind
  named : known.detail? "operation" =
    (fault.detail? "operation").or (some (.text kind.word))
  placed : known.detail? "instance_id" =
    (fault.detail? "instance_id").or (if instanceId.isGiven then some instanceId else none)
  keeps : ∀ name, name ≠ "operation" → name ≠ "instance_id" →
    known.detail? name = fault.detail? name
  cause : known.cause? = if fault.isKnown then fault.cause? else some fault
  again : ∀ disposition, known.recast disposition kind instanceId = known

/-- Recasting keeps the class of a fault for every operation that may judge it next.  The result
names the operation, and the instance where one is given, and is recast to itself. -/
theorem recast_keeps_meaning (fault : Fault) (kind : OperationKind) (instanceId : Value) :
    Recasts kind instanceId fault (fault.recast (fault.disposition kind) kind instanceId) := by
  have details := details_recast fault (fault.disposition kind) kind instanceId
  have means := disposition_recast fault kind instanceId
  refine {
    isKnown := isKnown_recast fault _ kind instanceId
    means := means
    resolves := congrArg (·.resolve kind) (means kind)
    named := ?_
    placed := ?_
    keeps := fun name notOperation notId => ?_
    cause := cause?_recast fault _ kind instanceId
    again := fun disposition => recast_of_located disposition kind instanceId ?_ ?_ }
  · rw [detail?, details]
    exact lookup_locate_operation kind instanceId fault.details
  · rw [detail?, details]
    exact lookup_locate_instanceId kind instanceId fault.details
  · rw [detail?, details]
    exact lookup_locate_other kind instanceId fault.details notOperation notId
  · exact isKnown_recast fault _ kind instanceId
  · rw [details]
    exact locate_locate kind instanceId fault.details

end Fault

end CacheSteward
