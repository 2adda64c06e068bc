import CacheSteward.Proofs.Lawful

namespace CacheSteward

/-! Configurations that are written back.

A reader is lenient about what stands for a value, but strict in what it makes of it: the value that
it found, written in its own form, is taken again and gives the same value.  This is said of each
reader once.  The checks that look at other fields look at the same values the second time.
-/

namespace Field

variable {α β : Type} {name : String} {default a : α} {read : Value → Checked α}
  {write : α → Value} {es : List (Value × Value)}

/-- Whatever the reader finds, it finds again in the value as it is written. -/
def Rereads (read : Value → Checked α) (write : α → Value) : Prop :=
  ∀ v a, read v = .valid a → read (write a) = .valid a

theorem rereads_text : Rereads text .text := fun _ _ _ => rfl

theorem rereads_whole : Rereads whole .whole := fun _ _ _ => rfl

/-- A check behind a reader does no harm as long as it leaves the value alone. -/
theorem Rereads.andThen {next : α → Checked α} (rereads : Rereads read write)
    (keeps : ∀ a b, next a = .valid b → b = a) :
    Rereads (fun v => (read v).andThen next) write := by
  intro v b found
  obtain ⟨a, first, checked⟩ := Checked.andThen_valid found
  obtain rfl := keeps a b checked
  change (read (write b)).andThen next = .valid b
  rw [rereads v b first]
  exact checked

theorem Rereads.ensure {passes : α → Bool} {rule : Rule} (rereads : Rereads read write) :
    Rereads (fun v => (read v).ensure passes rule) write := by
  intro v a found
  obtain ⟨first, passed⟩ := Checked.ensure_eq_valid_iff.mp found
  exact Checked.ensure_eq_valid_iff.mpr ⟨rereads v a first, passed⟩

theorem rereads_wholeAtLeast {limit : Int} : Rereads (wholeAtLeast limit) .whole :=
  rereads_whole.ensure

theorem rereads_wholeWithin {least most : Int} : Rereads (wholeWithin least most) .whole :=
  rereads_wholeAtLeast.ensure

theorem rereads_member [Enumerated α] :
    Rereads (member : Value → Checked α) fun a => .text (Enumerated.word a) := by
  intro v a found
  cases v with
  | text s =>
      cases given : (Enumerated.ofWord? s : Option α) with
      | none => simp [member, given, Checked.fail] at found
      | some b =>
          obtain rfl : b = a := by simpa [member, given] using found
          rw [← Enumerated.word_of_ofWord? given] at given
          simp only [member, given]
  | _ => cases found

/-- What is absent is written as null. -/
def writeNullable (write : α → Value) : Option α → Value
  | none => .null
  | some a => write a

theorem nullable_of_ne_null {v : Value} (given : v ≠ .null) :
    nullable read v = (read v).map some := by
  cases v with
  | null => exact absurd rfl given
  | _ => rfl

theorem Rereads.nullable (rereads : Rereads read write) (given : ∀ a, write a ≠ .null) :
    Rereads (nullable read) (writeNullable write) := by
  intro v found taken
  cases found with
  | none => rfl
  | some a =>
      change Field.nullable read (write a) = .valid (some a)
      rw [nullable_of_ne_null (given a), rereads v a (nullable_valid_some taken)]
      rfl

theorem each_write (rereads : Rereads read write) (items : List Value) (as : List α) (n m : Nat)
    (found : Checked.each read n items = .valid as) :
    Checked.each read m (as.map write) = .valid as := by
  induction items generalizing as n m with
  | nil =>
      cases found
      rfl
  | cons head tail ih =>
      obtain ⟨_, rest, ofHead, ofTail, rfl⟩ := Checked.seq_valid found
      obtain ⟨a, headRead, rfl⟩ := Checked.map_valid ofHead
      have again := rereads head a (Checked.under_eq_valid_iff.mp headRead)
      change (List.cons <$> (read (write a)).under (.index m) <*>
        Checked.each read (m + 1) (rest.map write)) = .valid (a :: rest)
      rw [Checked.under_eq_valid_iff.mpr again, ih rest (n + 1) (m + 1) ofTail]
      rfl

theorem Rereads.listOf (rereads : Rereads read write) :
    Rereads (listOf read) fun as => .list (as.map write) := by
  intro v as found
  cases v with
  | list items => exact each_write rereads items as 0 0 found
  | _ => cases found

/-- A record is taken again as long as each of its fields is. -/
theorem Rereads.record {ofEntries : List (Value × Value) → Checked α}
    {entries : α → List (String × Value)}
    (fields : ∀ es a, ofEntries es = .valid a →
      ofEntries ((entries a).map fun (k, v) => (.text k, v)) = .valid a) :
    Rereads (fun v => (recordEntries v).andThen ofEntries) fun a => .fields (entries a) := by
  intro v a found
  obtain ⟨es, -, read⟩ := Checked.andThen_valid found
  have keys : recordEntries (.fields (entries a)) =
      .valid ((entries a).map fun (k, v) => (.text k, v)) :=
    Checked.ensure_eq_valid_iff.mpr ⟨rfl, Value.all_text_fields⟩
  change (recordEntries (.fields (entries a))).andThen ofEntries = .valid a
  rw [keys]
  exact fields es a read

/-! ### Fields of what is written -/

variable {written : List (Value × Value)}

theorem required_written (rereads : Rereads read write)
    (listed : Value.lookup name written = some (write a))
    (found : required name read es = .valid a) : required name read written = .valid a := by
  obtain ⟨v, -, given⟩ := required_eq_valid_iff.mp found
  exact required_eq_valid_iff.mpr ⟨write a, listed, rereads v a given⟩

/-- The default has to pass the check that it was spared, once it is written. -/
theorem orElse_written (rereads : Rereads read write)
    (ofDefault : read (write default) = .valid default)
    (listed : Value.lookup name written = some (write a))
    (found : orElse name default read es = .valid a) :
    orElse name default read written = .valid a :=
  (InstanceHandle.orElse_eq_valid_iff listed).mpr
    (orElse_satisfies (fun a => read (write a) = .valid a) ofDefault rereads found)

theorem optional_written {a : Option α} {v : Value} (rereads : Rereads read write)
    (given : ∀ a, write a ≠ .null) (listed : Value.lookup name written = some v)
    (same : v = writeNullable write a) (found : optional name read es = .valid a) :
    optional name read written = .valid a := by
  subst same
  exact orElse_written (rereads.nullable given) rfl listed found

end Field

open CacheSteward.Field

theorem Subnet.rereads : Rereads Subnet.read Subnet.document := by
  refine Rereads.record fun es subnet found => ?_
  unfold ofEntries at found
  obtain ⟨_, zoneName, ofId, zoneRead, rfl⟩ := Checked.seq_valid found
  obtain ⟨subnetId, idRead, rfl⟩ := Checked.map_valid ofId
  rfl

theorem Reservation.rereads_length : Rereads readLength .whole := rereads_whole.ensure

theorem Reservation.rereads : Rereads Reservation.read Reservation.document := by
  refine Rereads.record fun es reservation found => ?_
  unfold ofEntries at found ⊢
  obtain ⟨_, _, ofLength, -, rfl⟩ := Checked.seq_valid found
  obtain ⟨length, lengthRead, rfl⟩ := Checked.map_valid ofLength
  rw [orElse_written rereads_length rfl rfl lengthRead]
  rfl

theorem Billing.rereads : Rereads Billing.read Billing.document := by
  refine Rereads.record fun es billing found => ?_
  unfold ofEntries at found ⊢
  obtain ⟨_, reservation, ofTiming, reservationRead, rfl⟩ := Checked.seq_valid found
  obtain ⟨timing, timingRead, rfl⟩ := Checked.map_valid ofTiming
  rw [orElse_written rereads_member rfl rfl timingRead,
    optional_written Reservation.rereads (fun _ => nofun) rfl (by cases reservation <;> rfl)
      reservationRead]
  rfl

namespace DesiredSpec

variable {spec : DesiredSpec} {es : List (Value × Value)} {data : Value}

theorem rereads_name : Rereads readName .text := rereads_text.ensure

/-- A check under a condition passes on what it was given. -/
theorem eq_of_passed {α : Type} {allowed : Prop} [Decidable allowed] {a b : α} {rule : Rule}
    (passed : (if allowed then Checked.valid a else .fail rule) = .valid b) : b = a := by
  split at passed
  · cases passed
    rfl
  · cases passed

theorem rereads_shardNum {clusterType : Option ClusterType} :
    Rereads (readShardNum clusterType) .whole := by
  refine rereads_whole.andThen fun n m counted => ?_
  cases clusterType with
  | none =>
      cases counted
      rfl
  | some type => cases type <;> exact eq_of_passed counted

theorem rereads_engineVersion : Rereads readEngineVersion fun version => .text version.word := by
  intro v version found
  cases version <;> rfl

/-- The terms that the unit was allowed under are the same the second time. -/
theorem rereads_renewalUnit {billing : Option Billing} :
    Rereads (readRenewalUnit billing) fun unit => .text unit.word := by
  intro v unit found
  obtain ⟨s, -, taken⟩ := Checked.andThen_valid found
  cases given : RenewalUnit.ofWord? s with
  | none =>
      rw [given] at taken
      cases taken
  | some parsed =>
      simp only [given] at taken
      have same : unit = parsed := by
        cases billing with
        | none =>
            cases taken
            rfl
        | some terms => exact eq_of_passed taken
      have spelled : RenewalUnit.ofWord? unit.word = some unit := by cases unit <;> rfl
      subst same
      unfold readRenewalUnit
      simp only [Field.text, Checked.andThen, spelled]
      exact taken

theorem rereads_renewalLength {unit : Option RenewalUnit} :
    Rereads (readRenewalLength unit) .whole := by
  refine rereads_whole.andThen fun n m counted => ?_
  cases unit with
  | none =>
      cases counted
      rfl
  | some unit => exact eq_of_passed counted

/-- What is read from a configuration is read again from the configuration as it is written. -/
theorem ReadFrom.written (read : spec.ReadFrom es) :
    ∃ entries, spec.document = .fields entries ∧
      spec.ReadFrom (entries.map fun (k, v) => (.text k, v)) := by
  refine ⟨_, rfl, ?_⟩
  constructor
  case instanceName => exact required_written rereads_name rfl read.instanceName
  case nodeType => exact required_written rereads_text rfl read.nodeType
  case clusterType => exact orElse_written rereads_member rfl rfl read.clusterType
  case shardNum => exact rereads_shardNum _ _ read.shardNum
  case engineVersion => exact orElse_written rereads_engineVersion rfl rfl read.engineVersion
  case port => exact orElse_written rereads_wholeWithin rfl rfl read.port
  case proxyNum => exact orElse_written rereads_wholeAtLeast rfl rfl read.proxyNum
  case replicationNum => exact orElse_written rereads_wholeAtLeast rfl rfl read.replicationNum
  case purchaseCount => exact orElse_written rereads_wholeAtLeast rfl rfl read.purchaseCount
  case subnets => exact orElse_written Subnet.rereads.listOf rfl rfl read.subnets
  case billing => exact orElse_written Billing.rereads rfl rfl read.billing
  -- What is not set is written all the same, as null.
  case vpcId =>
    exact optional_written rereads_text (fun _ => nofun) rfl (by cases spec.vpcId <;> rfl)
      read.vpcId
  case renewalUnit =>
    exact optional_written rereads_renewalUnit (fun _ => nofun) rfl
      (by cases spec.renewalUnit <;> rfl) read.renewalUnit
  case renewalLength =>
    exact optional_written rereads_renewalLength (fun _ => nofun) rfl
      (by cases spec.renewalLength <;> rfl) read.renewalLength

theorem ReadFrom.ofConfig_fields {entries : List (String × Value)}
    (read : spec.ReadFrom (entries.map fun (k, v) => (.text k, v))) :
    ofConfig (.fields entries) = .ok spec := by
  unfold ofConfig Value.fields
  simp only [Value.all_text_fields, if_true, ofEntries_eq_valid_iff.mpr read]

/-- Whatever configuration is accepted, the spec that is made of it is accepted as it is written,
and nothing changes. -/
theorem written_accepted (accepted : ofConfig data = .ok spec) :
    ∃ again, ofConfig spec.document = .ok again ∧ again = spec ∧
      again.topology = spec.topology ∧ again.createArgs = spec.createArgs := by
  obtain ⟨es, -, read⟩ := ofConfig_ok accepted
  obtain ⟨entries, written, again⟩ := read.written
  exact ⟨spec, written ▸ again.ofConfig_fields, rfl, rfl, rfl⟩

/-- A prepaid cluster with numbers for texts, texts and flags for numbers, and its reservation as a
list of pairs with the unit in lower case. -/
def looselyWritten : Value :=
  .fields [("instance_name", .text "shop"), ("node_type", .whole 7),
    ("cluster_type", .text "cluster"), ("shard_num", .text "6"), ("proxy_num", .flag true),
    ("vpc_id", .null), ("subnets", .list [.fields [("zone_name", .text "a"),
      ("subnet_id", .flag true)]]),
    ("billing", .fields [("payment_timing", .text "Prepaid"),
      ("reservation", .list [.list [.text "reservation_time_unit", .text "month"]])]),
    ("auto_renew_time_unit", .text "year"), ("auto_renew_time_length", .text "2")]

theorem written_accepted_looselyWritten :
    ∃ spec, ofConfig looselyWritten = .ok spec ∧
      (∃ again, ofConfig spec.document = .ok again ∧ again = spec ∧
        again.topology = spec.topology ∧ again.createArgs = spec.createArgs) ∧
      spec.document.get? "node_type" = some (.text "7") ∧
      spec.document.get? "shard_num" = some (.whole 6) ∧
      spec.document.get? "port" = some (.whole 6379) := by
  have accepted : ofConfig looselyWritten = .ok ⟨"shop", "7", .cluster, 6, .v3_2, 6379, 1, 2, 1,
      none, [⟨"True", "a"⟩], ⟨.prepaid, some ⟨1⟩⟩, some .year, some 2⟩ := rfl
  exact ⟨_, accepted, written_accepted accepted, rfl, rfl, rfl⟩

end DesiredSpec

end CacheSteward
