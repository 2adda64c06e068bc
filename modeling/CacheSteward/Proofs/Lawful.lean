import CacheSteward.Proofs.Requested

namespace CacheSteward

/-! Lawful requests.

What the control plane takes as a request is said of the document that is sent, without the
configuration behind it.  Each check of a configuration bounds one field, and every default passes
the check of its own field, so the request of an accepted configuration is lawful whichever fields
were left out.
-/

namespace Field

variable {α : Type} {name : String} {default a : α} {reader : Value → Checked α}
  {es : List (Value × Value)} {v : Value}

/-- What holds of the default and of everything the reader takes holds of the field. -/
theorem orElse_satisfies (within : α → Prop) (ofDefault : within default)
    (ofReader : ∀ v a, reader v = .valid a → within a)
    (read : orElse name default reader es = .valid a) : within a := by
  unfold orElse at read
  cases found : Value.lookup name es with
  | none =>
      rw [found] at read
      cases read
      exact ofDefault
  | some v =>
      rw [found] at read
      exact ofReader v a (Checked.under_eq_valid_iff.mp read)

theorem nullable_valid_some (read : nullable reader v = .valid (some a)) : reader v = .valid a := by
  unfold nullable at read
  split at read
  · cases read
  · obtain ⟨x, taken, same⟩ := Checked.map_valid read
    cases same
    exact taken

/-- What holds of everything the reader takes holds of an optional field that is there. -/
theorem optional_satisfies (within : α → Prop) (ofReader : ∀ v a, reader v = .valid a → within a)
    (read : optional name reader es = .valid (some a)) : within a := by
  have each : ∀ given, some a = some given → within given := by
    refine orElse_satisfies (fun found => ∀ given, found = some given → within given) ?_ ?_ read
    · intro given absent
      cases absent
    · intro v found taken given same
      subst same
      exact ofReader v given (nullable_valid_some taken)
  exact each a rfl

theorem wholeAtLeast_valid {limit n : Int} (read : wholeAtLeast limit v = .valid n) : limit ≤ n :=
  of_decide_eq_true (Checked.ensure_eq_valid_iff.mp read).2

theorem wholeWithin_valid {least most n : Int} (read : wholeWithin least most v = .valid n) :
    least ≤ n ∧ n ≤ most := by
  obtain ⟨above, below⟩ := Checked.ensure_eq_valid_iff.mp read
  exact ⟨wholeAtLeast_valid above, of_decide_eq_true below⟩

end Field

theorem Reservation.read_length {v : Value} {reservation : Reservation}
    (read : Reservation.read v = .valid reservation) :
    reservation.length ∈ Reservation.allowedLengths := by
  obtain ⟨es, -, read⟩ := Checked.andThen_valid read
  unfold ofEntries at read
  obtain ⟨_, _, ofLength, -, rfl⟩ := Checked.seq_valid read
  obtain ⟨length, lengthRead, rfl⟩ := Checked.map_valid ofLength
  refine Field.orElse_satisfies (· ∈ allowedLengths) (by decide) ?_ lengthRead
  intro v n taken
  exact List.contains_iff_mem.mp (Checked.ensure_eq_valid_iff.mp taken).2

/-- A reservation, where there is one, is of an allowed length. -/
def Billing.Reserves (billing : Billing) : Prop :=
  ∀ reservation, billing.reservation = some reservation →
    reservation.length ∈ Reservation.allowedLengths

theorem Billing.read_reserves {v : Value} {billing : Billing}
    (read : Billing.read v = .valid billing) : billing.Reserves := by
  obtain ⟨es, -, read⟩ := Checked.andThen_valid read
  unfold ofEntries at read
  obtain ⟨_, found, ofTiming, reservationRead, rfl⟩ := Checked.seq_valid read
  obtain ⟨timing, -, rfl⟩ := Checked.map_valid ofTiming
  intro reservation reserved
  subst reserved
  exact Field.optional_satisfies (·.length ∈ Reservation.allowedLengths)
    (fun _ _ => Reservation.read_length) reservationRead

namespace Request

/-- A whole number stands under the key, and it is within these limits. -/
def Holds (request : Value) (key : String) (within : Int → Prop) : Prop :=
  ∃ n, request.get? key = some (.whole n) ∧ within n

/-- Terms with a reservation of some allowed number of months. -/
structure Prepaid (terms : Value) : Prop where
  timing : terms.get? "paymentTiming" = some (.text "Prepaid")
  reservation : ∃ reservation, terms.get? "reservation" = some reservation ∧
    Holds reservation "reservationLength" (· ∈ [1, 2, 3, 4, 5, 6, 7, 8, 9, 12, 24, 36]) ∧
    reservation.get? "reservationTimeUnit" = some (.text "Month")

structure Postpaid (terms : Value) : Prop where
  timing : terms.get? "paymentTiming" = some (.text "Postpaid")
  reservation : terms.get? "reservation" = none

structure NotRenewed (request : Value) : Prop where
  unit : request.get? "autoRenewTimeUnit" = none
  length : request.get? "autoRenewTime" = none

/-- Renewal by up to nine months or up to three years. -/
def Renewed (request : Value) : Prop :=
  (request.get? "autoRenewTimeUnit" = some (.text "month") ∧
    Holds request "autoRenewTime" fun n => 1 ≤ n ∧ n ≤ 9) ∨
  (request.get? "autoRenewTimeUnit" = some (.text "year") ∧
    Holds request "autoRenewTime" fun n => 1 ≤ n ∧ n ≤ 3)

/-- What the control plane takes as a request for new instances. -/
structure Lawful (request : Value) : Prop where
  shards :
    (request.get? "clusterType" = some (.text "cluster") ∧
      Holds request "shardNum" (· ∈ [2, 4, 6, 8, 12, 16, 24, 32, 48, 64, 96, 128])) ∨
    (request.get? "clusterType" = some (.text "master_slave") ∧ Holds request "shardNum" (· = 1))
  version : request.get? "engineVersion" = some (.text "3.2") ∨
    request.get? "engineVersion" = some (.text "4.0")
  port : Holds request "port" fun n => 1 ≤ n ∧ n ≤ 65535
  proxies : Holds request "proxyNum" (0 ≤ ·)
  replicas : Holds request "replicationNum" (1 ≤ ·)
  purchases : Holds request "purchaseCount" (1 ≤ ·)
  billing : ∃ terms, request.get? "billing" = some terms ∧
    ((Prepaid terms ∧ (NotRenewed request ∨ Renewed request)) ∨
      (Postpaid terms ∧ NotRenewed request))
  network : ∀ v, request.get? "vpcId" = some v → ∃ vpc, v = .text vpc ∧ vpc ≠ ""
  subnets : ∀ v, request.get? "subnets" = some v → ∃ items, v = .list items ∧ items ≠ []

end Request

/-- The terms of any billing are prepaid with a reservation, or postpaid without one. -/
theorem Billing.wire_cases {billing : Billing} (allowed : billing.Reserves) :
    (billing.paymentTiming = .prepaid ∧ Request.Prepaid billing.wire) ∨
    (billing.paymentTiming = .postpaid ∧ Request.Postpaid billing.wire) := by
  obtain ⟨timing, reserved⟩ := billing
  cases timing with
  | prepaid =>
      have length : (reserved.getD ⟨1⟩).length ∈ Reservation.allowedLengths := by
        cases reserved with
        | none => decide
        | some reservation => exact allowed reservation rfl
      exact Or.inl ⟨rfl, rfl, _, rfl, ⟨_, rfl, length⟩, rfl⟩
  | postpaid => exact Or.inr ⟨rfl, rfl, rfl⟩

namespace DesiredSpec

variable {spec : DesiredSpec} {es : List (Value × Value)} {data : Value}

theorem readRenewalLength_bounded {unit : RenewalUnit} {v : Value} {n : Int}
    (read : readRenewalLength (some unit) v = .valid n) : 1 ≤ n ∧ n ≤ unit.mostLength := by
  obtain ⟨m, -, read⟩ := Checked.andThen_valid read
  by_cases bounded : 1 ≤ m ∧ m ≤ unit.mostLength
  · simp only [if_pos bounded] at read
    cases read
    exact bounded
  · simp only [if_neg bounded] at read
    cases read

/-- Renewal is asked for with both of its entries or with none, and within the limit of its unit. -/
theorem ReadFrom.renewalArgs_cases (read : spec.ReadFrom es) :
    spec.renewalArgs = [] ∨
    ∃ (unit : RenewalUnit) (n : Int), spec.billing.paymentTiming = .prepaid ∧
      spec.renewalArgs = [("autoRenewTimeUnit", .text unit.word), ("autoRenewTime", .whole n)] ∧
      1 ≤ n ∧ n ≤ unit.mostLength := by
  unfold renewalArgs
  cases timing : spec.billing.paymentTiming with
  | postpaid => exact Or.inl rfl
  | prepaid =>
      cases renewed : spec.renewalUnit with
      | none => exact Or.inl rfl
      | some unit =>
          refine Or.inr ⟨unit, _, rfl, rfl, ?_⟩
          have lengthRead := read.renewalLength
          rw [renewed] at lengthRead
          cases given : spec.renewalLength with
          | none => cases unit <;> decide
          | some n =>
              rw [given] at lengthRead
              have bounded := Field.optional_satisfies (fun n => 1 ≤ n ∧ n ≤ unit.mostLength)
                (fun _ _ => readRenewalLength_bounded) lengthRead
              have positive : n ≠ 0 := by omega
              simpa only [if_neg positive] using bounded

theorem ReadFrom.request_renewal (read : spec.ReadFrom es) :
    Request.NotRenewed spec.createArgs ∨
    (spec.billing.paymentTiming = .prepaid ∧ Request.Renewed spec.createArgs) := by
  have unitEntry : spec.createArgs.get? "autoRenewTimeUnit" = spec.renewalArgs.lookup _ :=
    get?_createArgs_renewal "autoRenewTimeUnit" (by decide)
  have lengthEntry : spec.createArgs.get? "autoRenewTime" = spec.renewalArgs.lookup _ :=
    get?_createArgs_renewal "autoRenewTime" (by decide)
  obtain absent | ⟨unit, n, prepaid, given, bounded⟩ := read.renewalArgs_cases
  · rw [absent] at unitEntry lengthEntry
    exact Or.inl ⟨unitEntry, lengthEntry⟩
  · rw [given] at unitEntry lengthEntry
    refine Or.inr ⟨prepaid, ?_⟩
    cases unit with
    | month => exact Or.inl ⟨unitEntry, n, lengthEntry, bounded⟩
    | year => exact Or.inr ⟨unitEntry, n, lengthEntry, bounded⟩

theorem ReadFrom.request_billing (read : spec.ReadFrom es) :
    ∃ terms, spec.createArgs.get? "billing" = some terms ∧
      ((Request.Prepaid terms ∧
          (Request.NotRenewed spec.createArgs ∨ Request.Renewed spec.createArgs)) ∨
        (Request.Postpaid terms ∧ Request.NotRenewed spec.createArgs)) := by
  refine ⟨spec.billing.wire, get?_createArgs_fixed "billing" rfl, ?_⟩
  have allowed : spec.billing.Reserves := by
    refine Field.orElse_satisfies _ ?_ (fun _ _ => Billing.read_reserves) read.billing
    intro reservation reserved
    cases reserved
  obtain ⟨-, terms⟩ | ⟨timing, terms⟩ := Billing.wire_cases allowed
  · exact Or.inl ⟨terms, read.request_renewal.imp_right And.right⟩
  · refine Or.inr ⟨terms, read.request_renewal.resolve_right ?_⟩
    rintro ⟨prepaid, -⟩
    rw [timing] at prepaid
    cases prepaid

theorem ReadFrom.request_shards (read : spec.ReadFrom es) :
    (spec.createArgs.get? "clusterType" = some (.text "cluster") ∧
      Request.Holds spec.createArgs "shardNum"
        (· ∈ [2, 4, 6, 8, 12, 16, 24, 32, 48, 64, 96, 128])) ∨
    (spec.createArgs.get? "clusterType" = some (.text "master_slave") ∧
      Request.Holds spec.createArgs "shardNum" (· = 1)) := by
  have typeEntry : spec.createArgs.get? "clusterType" = some (.text spec.clusterType.word) :=
    get?_createArgs_fixed "clusterType" rfl
  have countEntry : spec.createArgs.get? "shardNum" = some (.whole spec.shardNum) :=
    get?_createArgs_fixed "shardNum" rfl
  obtain ⟨type, count⟩ | ⟨type, count⟩ := read.shardNum_cases
  · rw [type] at typeEntry
    exact Or.inl ⟨typeEntry, spec.shardNum, countEntry, count⟩
  · rw [type] at typeEntry
    exact Or.inr ⟨typeEntry, spec.shardNum, countEntry, count⟩

theorem request_version : spec.createArgs.get? "engineVersion" = some (.text "3.2") ∨
    spec.createArgs.get? "engineVersion" = some (.text "4.0") := by
  have entry : spec.createArgs.get? "engineVersion" = some (.text spec.engineVersion.word) :=
    get?_createArgs_fixed "engineVersion" rfl
  cases version : spec.engineVersion with
  | v3_2 =>
      rw [version] at entry
      exact Or.inl entry
  | v4_0 =>
      rw [version] at entry
      exact Or.inr entry

theorem request_network {v : Value} (present : spec.createArgs.get? "vpcId" = some v) :
    ∃ vpc, v = .text vpc ∧ vpc ≠ "" := by
  rw [get?_createArgs_vpcId] at present
  obtain ⟨vpc, kept, rfl⟩ := Option.map_eq_some_iff.mp present
  have filled := (Option.filter_eq_some_iff.mp kept).2
  exact ⟨vpc, rfl, by simpa using filled⟩

theorem request_subnets {v : Value} (present : spec.createArgs.get? "subnets" = some v) :
    ∃ items, v = .list items ∧ items ≠ [] := by
  rw [get?_createArgs_subnets, subnetArgs] at present
  cases placed : spec.subnets with
  | nil =>
      rw [placed] at present
      cases present
  | cons head tail =>
      rw [placed] at present
      cases present
      exact ⟨_, rfl, List.cons_ne_nil _ _⟩

theorem ReadFrom.request_lawful (read : spec.ReadFrom es) : Request.Lawful spec.createArgs := by
  have bounded {default n : Int} {name : String} {reader : Value → Checked Int}
      {within : Int → Prop} (key : String)
      (listed : spec.fixedArgs.lookup key = some (.whole n)) (ofDefault : within default)
      (ofReader : ∀ v n, reader v = .valid n → within n)
      (fieldRead : Field.orElse name default reader es = .valid n) :
      Request.Holds spec.createArgs key within :=
    ⟨n, get?_createArgs_fixed key listed, Field.orElse_satisfies _ ofDefault ofReader fieldRead⟩
  constructor
  case shards => exact read.request_shards
  case version => exact request_version
  case port =>
    exact bounded "port" rfl (by decide) (fun _ _ => Field.wholeWithin_valid) read.port
  case proxies =>
    exact bounded "proxyNum" rfl (by decide) (fun _ _ => Field.wholeAtLeast_valid) read.proxyNum
  case replicas =>
    exact bounded "replicationNum" rfl (by decide) (fun _ _ => Field.wholeAtLeast_valid)
      read.replicationNum
  case purchases =>
    exact bounded "purchaseCount" rfl (by decide) (fun _ _ => Field.wholeAtLeast_valid)
      read.purchaseCount
  case billing => exact read.request_billing
  case network => exact fun _ => request_network
  case subnets => exact fun _ => request_subnets

/-- Every configuration that is accepted yields a lawful request. -/
theorem accepted_requests_lawfully (accepted : ofConfig data = .ok spec) :
    Request.Lawful spec.createArgs := by
  obtain ⟨es, -, read⟩ := ofConfig_ok accepted
  exact read.request_lawful

/-- A prepaid cluster that is renewed by the year, with lengths left out and numbers spelled in
other ways. -/
def renewedCluster : Value :=
  .fields [("instance_name", .text "shop"), ("node_type", .text "small"),
    ("cluster_type", .text "cluster"), ("shard_num", .text "6"), ("proxy_num", .flag true),
    ("vpc_id", .text ""), ("billing", .fields [("payment_timing", .text "Prepaid")]),
    ("auto_renew_time_unit", .text "year")]

theorem accepted_requests_lawfully_renewedCluster :
    ∃ spec, ofConfig renewedCluster = .ok spec ∧ Request.Lawful spec.createArgs ∧
      spec.createArgs.get? "shardNum" = some (.whole 6) ∧
      spec.createArgs.get? "autoRenewTime" = some (.whole 1) ∧
      spec.createArgs.get? "vpcId" = none := by
  have accepted : ofConfig renewedCluster = .ok ⟨"shop", "small", .cluster, 6, .v3_2, 6379, 1, 2, 1,
      some "", [], ⟨.prepaid, none⟩, some .year, none⟩ := rfl
  exact ⟨_, accepted, accepted_requests_lawfully accepted, rfl, rfl, rfl⟩

end DesiredSpec

end CacheSteward
