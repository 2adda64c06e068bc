import CacheSteward.Proofs.Entries
import CacheSteward.Proofs.Specification

namespace CacheSteward

/-! Which texts are taken as the name of an instance.

The grammar of names is given by the ranges of its characters.  Beside the names themselves, a name
with one line end behind it is taken, line end included; nothing else is.
-/

namespace Spec

/-- What a name starts with. -/
def Initial (c : Char) : Prop :=
  ('a' ≤ c ∧ c ≤ 'z') ∨ ('A' ≤ c ∧ c ≤ 'Z') ∨ ('\u4e00' ≤ c ∧ c ≤ '\u9fa5')

/-- What a name goes on with. -/
def Further (c : Char) : Prop := Initial c ∨ ('0' ≤ c ∧ c ≤ '9') ∨ c ∈ ['-', '_', '/', '.']

structure Named (s : String) : Prop where
  length : 1 ≤ s.length ∧ s.length ≤ 65
  first : ∀ c, s.toList.head? = some c → Initial c
  further : ∀ c ∈ s.toList.tail, Further c

/-- A name with one line end behind it. -/
def EndedName (s : String) : Prop := ∃ name, Named name ∧ s = name ++ "\n"

theorem isAlpha_iff (c : Char) :
    c.isAlpha = true ↔ ('a' ≤ c ∧ c ≤ 'z') ∨ ('A' ≤ c ∧ c ≤ 'Z') := by
  have upper : c.isUpper = true ↔ 'A' ≤ c ∧ c ≤ 'Z' := decide_eq_true_iff
  have lower : c.isLower = true ↔ 'a' ≤ c ∧ c ≤ 'z' := by
    change (decide ('a' ≤ c) && decide (c ≤ 'z')) = true ↔ _
    rw [Bool.and_eq_true, decide_eq_true_eq, decide_eq_true_eq]
  change (c.isUpper || c.isLower) = true ↔ _
  rw [Bool.or_eq_true, upper, lower, or_comm]

theorem le_iff_toNat_le (low high : Char) : low ≤ high ↔ low.toNat ≤ high.toNat :=
  UInt32.le_iff_toNat_le

theorem isIdeograph_iff (c : Char) : isIdeograph c = true ↔ '\u4e00' ≤ c ∧ c ≤ '\u9fa5' := by
  unfold isIdeograph
  rw [Bool.and_eq_true, decide_eq_true_eq, decide_eq_true_eq]
  exact and_congr (le_iff_toNat_le '\u4e00' c).symm (le_iff_toNat_le c '\u9fa5').symm

theorem isNameStart_iff (c : Char) : isNameStart c = true ↔ Initial c := by
  unfold isNameStart Initial
  rw [Bool.or_eq_true, isAlpha_iff, isIdeograph_iff, or_assoc]

theorem isNamePart_iff (c : Char) : isNamePart c = true ↔ Further c := by
  have digits : c.isDigit = true ↔ '0' ≤ c ∧ c ≤ '9' := Char.isDigit_iff_toNat
  have start := isNameStart_iff c
  simp only [isNameStart, Bool.or_eq_true] at start
  simp only [isNamePart, Char.isAlphanum, Bool.or_eq_true, beq_iff_eq, digits, Further, ← start,
    List.mem_cons, List.not_mem_nil, or_false]
  grind

theorem isPlainName_iff (s : String) : isPlainName s.toList = true ↔ Named s := by
  have counted : s.length = s.toList.length := String.length_toList.symm
  constructor
  · intro plain
    cases spelled : s.toList with
    | nil =>
        rw [spelled] at plain
        cases plain
    | cons c rest =>
        rw [spelled] at plain
        simp only [isPlainName, Bool.and_eq_true, List.all_eq_true, decide_eq_true_eq] at plain
        obtain ⟨⟨start, parts⟩, short⟩ := plain
        constructor
        · rw [counted, spelled, List.length_cons]
          omega
        · intro d first
          rw [spelled] at first
          cases first
          exact (isNameStart_iff c).mp start
        · intro d member
          rw [spelled] at member
          exact (isNamePart_iff d).mp (parts d member)
  · intro named
    have bounds := named.length
    have first := named.first
    have further := named.further
    rw [counted] at bounds
    cases spelled : s.toList with
    | nil =>
        rw [spelled] at bounds
        exact absurd bounds.1 (by simp)
    | cons c rest =>
        rw [spelled] at bounds first further
        simp only [isPlainName, Bool.and_eq_true, List.all_eq_true, decide_eq_true_eq]
        refine ⟨⟨(isNameStart_iff c).mpr (first c rfl), fun d member => ?_⟩, ?_⟩
        · exact (isNamePart_iff d).mpr (further d member)
        · rw [List.length_cons] at bounds
          omega

/-- Names are taken, and names with one line end behind them. -/
theorem isName_iff (s : String) : isName s = true ↔ Named s ∨ EndedName s := by
  unfold isName
  rw [Bool.or_eq_true, isPlainName_iff, Bool.and_eq_true, beq_iff_eq]
  refine or_congr_right ⟨fun ended => ?_, fun ended => ?_⟩
  · obtain ⟨atEnd, plain⟩ := ended
    obtain ⟨front, spelled⟩ := List.getLast?_eq_some_iff.mp atEnd
    rw [spelled, List.dropLast_concat, ← String.toList_ofList (l := front),
      isPlainName_iff] at plain
    refine ⟨String.ofList front, plain, String.toList_inj.mp ?_⟩
    rw [spelled, String.toList_append, String.toList_ofList]
    rfl
  · obtain ⟨name, named, rfl⟩ := ended
    have spelled : (name ++ "\n").toList = name.toList ++ ['\n'] := String.toList_append
    rw [spelled, List.getLast?_concat, List.dropLast_concat]
    exact ⟨rfl, (isPlainName_iff name).mpr named⟩

end Spec

/-- Setting the entry of a text key makes no other kind of key. -/
theorem Value.all_text_put {key : String} {value : Value} {es : List (Value × Value)} :
    (put (.text key) value es).all (fun (k, _) => k.text?.isSome) =
      es.all fun (k, _) => k.text?.isSome := by
  induction es with
  | nil => rfl
  | cons head tail ih =>
      obtain ⟨k, v⟩ := head
      by_cases found : k = .text key
      · subst found
        rw [put_cons_self, List.all_cons, List.all_cons]
      · rw [put_cons_other found, List.all_cons, List.all_cons, ih]

namespace Field

variable {α : Type} {key name : String} {value other : Value} {read : Value → Checked α}
  {es : List (Value × Value)}

/-- A field does not depend on what another entry is set to. -/
theorem required_put (apart : key ≠ name) :
    required name read (Value.put (.text key) value es) =
      required name read (Value.put (.text key) other es) := by
  unfold required
  rw [Value.lookup_put_other apart, Value.lookup_put_other apart]

theorem orElse_put {default : α} (apart : key ≠ name) :
    orElse name default read (Value.put (.text key) value es) =
      orElse name default read (Value.put (.text key) other es) := by
  unfold orElse
  rw [Value.lookup_put_other apart, Value.lookup_put_other apart]

end Field

namespace DesiredSpec

variable {spec : DesiredSpec} {es : List (Value × Value)} {data : Value} {name s : String}

/-- The entries of a configuration, with this name for the instance. -/
def withName (name : String) (es : List (Value × Value)) : List (Value × Value) :=
  Value.put (.text "instance_name") (.text name) es

def nameMessage : String :=
  "instance_name must start with a letter, be 1-65 characters long and " ++
    "contain only letters, digits, Chinese characters and '-', '_', '/', '.'"

theorem required_withName :
    Field.required "instance_name" readName (withName s es) =
      if Spec.isName s then .valid s
      else .invalid ⟨[.field "instance_name"], .custom nameMessage⟩ [] := by
  unfold Field.required withName
  rw [Value.lookup_put_self]
  change (if Spec.isName s then Checked.valid s else .fail (.custom nameMessage)).under _ = _
  split <;> rfl

/-- Every field but the name is read as it was under another name. -/
theorem ReadFrom.withName (read : spec.ReadFrom (withName name es))
    (taken : Spec.isName s = true) :
    ({ spec with instanceName := s } : DesiredSpec).ReadFrom (withName s es) := by
  constructor
  case instanceName => rw [required_withName, if_pos taken]
  case nodeType => exact (Field.required_put (by decide)).trans read.nodeType
  case shardNum =>
    have shardNum := read.shardNum
    unfold DesiredSpec.withName at shardNum ⊢
    rw [Value.lookup_put_other (by decide)] at shardNum ⊢
    exact shardNum
  case clusterType => exact (Field.orElse_put (by decide)).trans read.clusterType
  case engineVersion => exact (Field.orElse_put (by decide)).trans read.engineVersion
  case port => exact (Field.orElse_put (by decide)).trans read.port
  case proxyNum => exact (Field.orElse_put (by decide)).trans read.proxyNum
  case replicationNum => exact (Field.orElse_put (by decide)).trans read.replicationNum
  case purchaseCount => exact (Field.orElse_put (by decide)).trans read.purchaseCount
  case vpcId => exact (Field.orElse_put (by decide)).trans read.vpcId
  case subnets => exact (Field.orElse_put (by decide)).trans read.subnets
  case billing => exact (Field.orElse_put (by decide)).trans read.billing
  case renewalUnit => exact (Field.orElse_put (by decide)).trans read.renewalUnit
  case renewalLength => exact (Field.orElse_put (by decide)).trans read.renewalLength

/-- A refused name is the first violation, whatever else there is. -/
theorem ofEntries_withName (es : List (Value × Value)) (refused : Spec.isName s = false) :
    ∃ rest, ofEntries (withName s es) =
      .invalid ⟨[.field "instance_name"], .custom nameMessage⟩ rest := by
  unfold ofEntries
  rw [required_withName, refused]
  exact ⟨_, rfl⟩

/-- A configuration that is accepted under one name stands for a mapping whose keys are texts. -/
theorem entries_of_withName
    (accepted : ofConfig (data.set "instance_name" (.text name)) = .ok spec) :
    ∃ es, spec.ReadFrom (withName name es) ∧
      ∀ s, ofConfig (data.set "instance_name" (.text s)) =
        match ofEntries (withName s es) with
        | .valid found => .ok found
        | .invalid first _ => .error (rejected first.rule.message
            (some (".".intercalate (first.place.map Segment.text)))) := by
  cases data with
  | mapping es =>
      obtain ⟨_, same, read⟩ := ofConfig_ok accepted
      cases same
      refine ⟨es, read, fun s => ?_⟩
      unfold ofConfig Value.set at accepted ⊢
      simp only [Value.all_text_put] at accepted ⊢
      by_cases texts : es.all (fun (k, _) => k.text?.isSome) = true
      · rw [if_pos texts]
        rfl
      · rw [if_neg texts] at accepted
        cases accepted
  | _ => cases accepted

theorem ofConfig_withName
    (otherwise : ofConfig (data.set "instance_name" (.text name)) = .ok spec) (s : String) :
    ofConfig (data.set "instance_name" (.text s)) =
      if Spec.isName s then .ok { spec with instanceName := s }
      else .error (rejected nameMessage (some "instance_name")) := by
  obtain ⟨es, read, under⟩ := entries_of_withName otherwise
  rw [under]
  cases taken : Spec.isName s with
  | true =>
      rw [ofEntries_eq_valid_iff.mpr (read.withName taken)]
      rfl
  | false =>
      obtain ⟨rest, refused⟩ := ofEntries_withName es taken
      rw [refused]
      rfl

/-- In a configuration that is accepted under some name, a text is accepted as the name exactly when
it is a name, or a name with one line end behind it.  It is kept as it stands, and a refusal says
what a name has to be. -/
theorem name_accepted_iff (otherwise : ofConfig (data.set "instance_name" (.text name)) = .ok spec)
    (s : String) :
    ((∃ found, ofConfig (data.set "instance_name" (.text s)) = .ok found) ↔
      Spec.Named s ∨ Spec.EndedName s) ∧
    (∀ found, ofConfig (data.set "instance_name" (.text s)) = .ok found →
      found = { spec with instanceName := s }) ∧
    ∀ fault, ofConfig (data.set "instance_name" (.text s)) = .error fault →
      fault = rejected nameMessage (some "instance_name") := by
  rw [ofConfig_withName otherwise, ← Spec.isName_iff]
  cases Spec.isName s with
  | true => simp [eq_comm]
  | false => simp [eq_comm]

/-- A master/slave pair, but for its name. -/
def unnamedPair : Value := .fields [("node_type", .text "small")]

theorem unnamedPair_set (s : String) : unnamedPair.set "instance_name" (.text s) =
    .fields [("node_type", .text "small"), ("instance_name", .text s)] := by
  change Value.mapping (Value.put (.text "instance_name") (.text s)
    [(.text "node_type", .text "small")]) = _
  rw [Value.put_cons_other (by simp), Value.put]
  rfl

theorem unnamedPair_shop : ofConfig (unnamedPair.set "instance_name" (.text "shop")) = .ok
    ⟨"shop", "small", .masterSlave, 1, .v3_2, 6379, 0, 2, 1, none, [], {}, none, none⟩ := by
  rw [unnamedPair_set]
  rfl

theorem name_accepted_iff_unnamedPair :
    ∃ spec, ofConfig (unnamedPair.set "instance_name" (.text "shop")) = .ok spec ∧
      ((∃ found, ofConfig (unnamedPair.set "instance_name" (.text "9 lives")) = .ok found) ↔
        Spec.Named "9 lives" ∨ Spec.EndedName "9 lives") :=
  ⟨_, unnamedPair_shop, (name_accepted_iff unnamedPair_shop "9 lives").1⟩

/-- A line end is no part of a name, and still it is taken behind one. -/
theorem name_accepted_with_lineEnd :
    ∃ spec found, ofConfig (unnamedPair.set "instance_name" (.text "shop")) = .ok spec ∧
      ofConfig (unnamedPair.set "instance_name" (.text "shop\n")) = .ok found ∧
      found.instanceName = "shop\n" ∧ ¬ Spec.Named "shop\n" := by
  have taken : Spec.isName "shop\n" = true := rfl
  have accepted := ofConfig_withName unnamedPair_shop "shop\n"
  rw [if_pos taken] at accepted
  refine ⟨_, _, unnamedPair_shop, accepted, rfl, fun named => ?_⟩
  have plain := (Spec.isPlainName_iff "shop\n").mpr named
  cases plain

end DesiredSpec

end CacheSteward
