import CacheSteward.Proofs.Decoding
import CacheSteward.Spec

namespace CacheSteward.DesiredSpec

/-! What a desired configuration says about the document that it was read from. -/

variable {spec : DesiredSpec} {es : List (Value × Value)}

theorem topology_clusterType : spec.topology.clusterType = spec.clusterType := by
  unfold topology
  cases spec.clusterType <;> rfl

/-- Every field of the configuration is what the document says of it.  The shard count is read
under the cluster type, and the renewal under the billing terms. -/
structure ReadFrom (spec : DesiredSpec) (es : List (Value × Value)) : Prop where
  instanceName : Field.required "instance_name" readName es = .valid spec.instanceName
  nodeType : Field.required "node_type" Field.text es = .valid spec.nodeType
  clusterType : Field.orElse "cluster_type" .masterSlave Field.member es = .valid spec.clusterType
  shardNum : readShardNum (some spec.clusterType)
    ((Value.lookup "shard_num" es).getD (.whole 1)) = .valid spec.shardNum
  engineVersion : Field.orElse "engine_version" .v3_2 readEngineVersion es =
    .valid spec.engineVersion
  port : Field.orElse "port" 6379 (Field.wholeWithin 1 65535) es = .valid spec.port
  proxyNum : Field.orElse "proxy_num" 0 (Field.wholeAtLeast 0) es = .valid spec.proxyNum
  replicationNum : Field.orElse "replication_num" 2 (Field.wholeAtLeast 1) es =
    .valid spec.replicationNum
  purchaseCount : Field.orElse "purchase_count" 1 (Field.wholeAtLeast 1) es =
    .valid spec.purchaseCount
  vpcId : Field.optional "vpc_id" Field.text es = .valid spec.vpcId
  subnets : Field.orElse "subnets" [] (Field.listOf Subnet.read) es = .valid spec.subnets
  billing : Field.orElse "billing" {} Billing.read es = .valid spec.billing
  renewalUnit : Field.optional "auto_renew_time_unit" (readRenewalUnit (some spec.billing)) es =
    .valid spec.renewalUnit
  renewalLength : Field.optional "auto_renew_time_length" (readRenewalLength spec.renewalUnit) es =
    .valid spec.renewalLength

theorem ofEntries_eq_valid_iff : ofEntries es = .valid spec ↔ spec.ReadFrom es := by
  constructor
  · intro read
    unfold ofEntries at read
    repeat (replace read := Checked.seq_valid read; obtain ⟨_, _, read, _, rfl⟩ := read)
    replace read := Checked.map_valid read
    obtain ⟨_, _, rfl⟩ := read
    rename_i renewalLength lengthRead renewalUnit unitRead billing billingRead subnets subnetsRead
      vpcId vpcRead purchaseCount purchaseRead replicationNum replicationRead proxyNum proxyRead
      port portRead engineVersion versionRead shardNum shardRead clusterType typeRead
      nodeType nodeRead instanceName nameRead
    -- Three fields are read under what was found for a field before them.
    rw [typeRead] at shardRead
    rw [billingRead] at unitRead lengthRead
    simp only [Checked.toOption] at shardRead unitRead lengthRead
    rw [unitRead] at lengthRead
    exact ⟨nameRead, nodeRead, typeRead, Checked.under_eq_valid_iff.mp shardRead, versionRead,
      portRead, proxyRead, replicationRead, purchaseRead, vpcRead, subnetsRead, billingRead,
      unitRead, lengthRead⟩
  · intro read
    unfold ofEntries
    rw [read.clusterType, read.billing]
    simp only [Checked.toOption]
    rw [read.renewalUnit, read.instanceName, read.nodeType,
      Checked.under_eq_valid_iff.mpr read.shardNum, read.engineVersion, read.port, read.proxyNum,
      read.replicationNum, read.purchaseCount, read.vpcId, read.subnets]
    simp only [Option.bind_some, id]
    rw [read.renewalLength]
    rfl

theorem ofConfig_ok {data : Value} (accepted : ofConfig data = .ok spec) :
    ∃ es, data = .mapping es ∧ spec.ReadFrom es := by
  unfold ofConfig at accepted
  split at accepted
  · rename_i es
    split at accepted
    · cases read : ofEntries es with
      | valid found =>
          rw [read] at accepted
          cases accepted
          exact ⟨es, rfl, ofEntries_eq_valid_iff.mp read⟩
      | invalid first rest =>
          rw [read] at accepted
          cases accepted
    · cases accepted
  · cases accepted

/-- The shard counts that an accepted configuration can have. -/
theorem ReadFrom.shardNum_cases (read : spec.ReadFrom es) :
    (spec.clusterType = .cluster ∧ spec.shardNum ∈ allowedShardNums) ∨
    (spec.clusterType = .masterSlave ∧ spec.shardNum = 1) := by
  obtain ⟨n, -, counted⟩ := Checked.andThen_valid read.shardNum
  cases type : spec.clusterType with
  | cluster =>
      simp only [type] at counted
      by_cases allowed : allowedShardNums.contains n = true
      · rw [if_pos allowed] at counted
        cases counted
        exact Or.inl ⟨rfl, List.contains_iff_mem.mp allowed⟩
      · rw [if_neg allowed] at counted
        cases counted
  | masterSlave =>
      simp only [type] at counted
      by_cases single : n = 1
      · rw [if_pos single] at counted
        cases counted
        exact Or.inr ⟨rfl, single⟩
      · rw [if_neg single] at counted
        cases counted

theorem ReadFrom.one_le_shardNum (read : spec.ReadFrom es) : 1 ≤ spec.shardNum := by
  have least : ∀ n ∈ allowedShardNums, 1 ≤ n := by decide
  rcases read.shardNum_cases with ⟨_, allowed⟩ | ⟨_, single⟩
  · exact least _ allowed
  · omega

end CacheSteward.DesiredSpec
