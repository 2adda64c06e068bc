import CacheSteward.Proofs.Agreement
import CacheSteward.Proofs.CallOrder
import Mathlib.Data.List.Nodup

namespace CacheSteward

/-! What a finished reconciliation leaves to be done.

The control plane may fail calls, report any status and take its time.  Of the document that it
shows of an instance only this is asked: what is fixed at creation stays, and everything else that a
plan looks at changes only to what a call asked for.
-/

variable {τ ω : Type}

/-- What a detail shows once a call has taken effect. -/
def RemoteCall.effects : RemoteCall → List AppliedCheck
  | .updateInstanceName _ name _ => [⟨"instanceName", name⟩]
  | .resizeNodeType _ nodeType => [⟨"nodeType", nodeType⟩]
  | .resizeShardNum _ shardNum => [⟨"shardNum", shardNum⟩]
  | _ => []

theorem Step.Intent.effects {clientToken : String} {step : Step} {call : RemoteCall}
    {check : AppliedCheck} (intent : Step.Intent clientToken step call check) :
    call.effects = [check] := by
  cases intent <;> rfl

/-- What a configuration wants to be shown of all that can be changed after creation. -/
def DesiredSpec.effects (spec : DesiredSpec) : List AppliedCheck :=
  [⟨"instanceName", .text spec.instanceName⟩, ⟨"nodeType", .text spec.nodeType⟩,
    ⟨"shardNum", .whole spec.shardNum⟩]

/-- A value that a configuration asks for shows as itself. -/
theorem DesiredSpec.expected_same {spec : DesiredSpec} {effect : AppliedCheck}
    (wanted : effect ∈ spec.effects) : effect.expected.same effect.expected = true := by
  simp only [effects, List.mem_cons, List.not_mem_nil, or_false] at wanted
  rcases wanted with rfl | rfl | rfl
  · exact Value.same_text_iff.mpr rfl
  · exact Value.same_text_iff.mpr rfl
  · exact Value.same_whole spec.shardNum

theorem DesiredSpec.effects_unique {spec : DesiredSpec} {effect other : AppliedCheck}
    (wanted : effect ∈ spec.effects) (wantedToo : other ∈ spec.effects)
    (sameKey : other.detailKey = effect.detailKey) : other = effect := by
  have apart : (spec.effects.map AppliedCheck.detailKey).Nodup := by
    change ["instanceName", "nodeType", "shardNum"].Nodup
    decide
  exact List.inj_on_of_nodup_map apart wantedToo wanted sameKey

/-- What the control plane shows of an instance, and what it was asked for so far. -/
structure Standing where
  entries : List (Value × Value)
  asked : List AppliedCheck

namespace Standing

def detail (standing : Standing) : Value := .mapping standing.entries

def ask (standing : Standing) (call : RemoteCall) : Standing :=
  { standing with asked := call.effects ++ standing.asked }

def fixedKeys : List String := ["clusterType", "engineVersion", "port"]

def changingKeys : List String := ["instanceName", "nodeType", "shardNum"]

/-- A change of the document on its own.  What is in no list of keys may become anything. -/
structure Drifts (standing later : Standing) : Prop where
  asked : later.asked = standing.asked
  fixed : ∀ key ∈ fixedKeys,
    Value.lookup key later.entries = Value.lookup key standing.entries
  changed : ∀ key ∈ changingKeys,
    Value.lookup key later.entries = Value.lookup key standing.entries ∨
      ∃ effect ∈ standing.asked, effect.detailKey = key ∧
        Value.lookup key later.entries = some effect.expected

/-- Calls and answers between two standings of an instance.  A detail is the document as it is at
that time, and a change that was asked for may show at any time after, or never; a call that failed
may have been accepted all the same. -/
inductive Answers (instanceId : Value) :
    Standing → List (RemoteCall × Except Fault Value) → Standing → Prop where
  | rests (standing : Standing) : Answers instanceId standing [] standing
  | drifts {standing later last : Standing} {answers : List (RemoteCall × Except Fault Value)}
      (drifts : standing.Drifts later) (rest : Answers instanceId later answers last) :
      Answers instanceId standing answers last
  | shown {standing last : Standing} {answers : List (RemoteCall × Except Fault Value)}
      (rest : Answers instanceId standing answers last) :
      Answers instanceId standing
        ((.getInstanceDetail instanceId, .ok standing.detail) :: answers) last
  | accepted {standing last : Standing} {call : RemoteCall} (changes : call.isMutation = true)
      (value : Value) {answers : List (RemoteCall × Except Fault Value)}
      (rest : Answers instanceId (standing.ask call) answers last) :
      Answers instanceId standing ((call, .ok value) :: answers) last
  | failed {standing last : Standing} (call : RemoteCall) (raw : Fault)
      {answers : List (RemoteCall × Except Fault Value)}
      (rest : Answers instanceId (standing.ask call) answers last) :
      Answers instanceId standing ((call, .error raw) :: answers) last

/-- Between two standings, nothing moves away from a configuration. -/
structure Nears (spec : DesiredSpec) (standing later : Standing) : Prop where
  asked : later.asked ⊆ spec.effects
  fixed : ∀ key ∈ fixedKeys,
    Value.lookup key later.entries = Value.lookup key standing.entries
  moved : ∀ effect ∈ spec.effects,
    Value.lookup effect.detailKey later.entries =
        Value.lookup effect.detailKey standing.entries ∨
      effect.holds later.detail = true

namespace Nears

variable {spec : DesiredSpec} {standing later last : Standing}

theorem refl (asked : standing.asked ⊆ spec.effects) : Nears spec standing standing :=
  ⟨asked, fun _ _ => rfl, fun _ _ => .inl rfl⟩

/-- What is shown once stays. -/
theorem holds (nears : Nears spec standing later) {effect : AppliedCheck}
    (wanted : effect ∈ spec.effects) (shown : effect.holds standing.detail = true) :
    effect.holds later.detail = true := by
  rcases nears.moved effect wanted with same | holds
  · rw [detail, AppliedCheck.holds_eq_of_lookup_eq same]
    exact shown
  · exact holds

theorem trans (first : Nears spec standing later) (second : Nears spec later last) :
    Nears spec standing last := by
  refine ⟨second.asked, fun key fixed => ?_, fun effect wanted => ?_⟩
  · rw [second.fixed key fixed, first.fixed key fixed]
  · rcases second.moved effect wanted with same | holds
    · rcases first.moved effect wanted with unmoved | shown
      · exact .inl (same.trans unmoved)
      · exact .inr (second.holds wanted shown)
    · exact .inr holds

theorem ask (asked : standing.asked ⊆ spec.effects) {call : RemoteCall}
    (serves : call.effects ⊆ spec.effects) : Nears spec standing (standing.ask call) :=
  ⟨List.append_subset.mpr ⟨serves, asked⟩, fun _ _ => rfl, fun _ _ => .inl rfl⟩

end Nears

variable {spec : DesiredSpec} {standing later last : Standing}

theorem Drifts.nears (drifts : standing.Drifts later) (asked : standing.asked ⊆ spec.effects) :
    Nears spec standing later := by
  refine ⟨drifts.asked ▸ asked, drifts.fixed, fun effect wanted => ?_⟩
  have changing : effect.detailKey ∈ spec.effects.map AppliedCheck.detailKey :=
    List.mem_map_of_mem wanted
  rcases drifts.changed _ changing with same | ⟨other, wasAsked, sameKey, becomes⟩
  · exact .inl same
  · obtain rfl := DesiredSpec.effects_unique wanted (asked wasAsked) sameKey
    refine .inr ?_
    simp only [AppliedCheck.holds, detail, Value.getOrNull, Value.get?, becomes, Option.getD_some]
    exact DesiredSpec.expected_same wanted

variable {instanceId : Value} {answers : List (RemoteCall × Except Fault Value)}

/-- Calls that ask only for a configuration lead nowhere else. -/
theorem Answers.nears (run : Answers instanceId standing answers last)
    (serves : ∀ answer ∈ answers, answer.1.effects ⊆ spec.effects)
    (asked : standing.asked ⊆ spec.effects) : Nears spec standing last := by
  induction run with
  | rests standing => exact .refl asked
  | drifts drifts rest ih =>
      have moved := drifts.nears asked
      exact moved.trans (ih serves moved.asked)
  | shown rest ih => exact ih (fun answer later => serves answer (.tail _ later)) asked
  | accepted changes value rest ih =>
      have moved := Nears.ask asked (serves _ (.head _))
      exact moved.trans (ih (fun answer later => serves answer (.tail _ later)) moved.asked)
  | failed call raw rest ih =>
      have moved := Nears.ask asked (serves _ (.head _))
      exact moved.trans (ih (fun answer later => serves answer (.tail _ later)) moved.asked)

theorem Answers.split {first second : List (RemoteCall × Except Fault Value)}
    (run : Answers instanceId standing (first ++ second) last) :
    ∃ between, Answers instanceId standing first between ∧
      Answers instanceId between second last := by
  generalize whole : first ++ second = answers at run
  induction run generalizing first with
  | rests standing =>
      obtain ⟨rfl, rfl⟩ := List.append_eq_nil_iff.mp whole
      exact ⟨standing, .rests standing, .rests standing⟩
  | drifts drifts rest ih =>
      obtain ⟨between, before, after⟩ := ih whole
      exact ⟨between, .drifts drifts before, after⟩
  | shown rest ih =>
      rcases List.append_eq_cons_iff.mp whole with ⟨rfl, rfl⟩ | ⟨first, rfl, same⟩
      · exact ⟨_, .rests _, .shown rest⟩
      · obtain ⟨between, before, after⟩ := ih same.symm
        exact ⟨between, .shown before, after⟩
  | accepted changes value rest ih =>
      rcases List.append_eq_cons_iff.mp whole with ⟨rfl, rfl⟩ | ⟨first, rfl, same⟩
      · exact ⟨_, .rests _, .accepted changes value rest⟩
      · obtain ⟨between, before, after⟩ := ih same.symm
        exact ⟨between, .accepted changes value before, after⟩
  | failed call raw rest ih =>
      rcases List.append_eq_cons_iff.mp whole with ⟨rfl, rfl⟩ | ⟨first, rfl, same⟩
      · exact ⟨_, .rests _, .failed call raw rest⟩
      · obtain ⟨between, before, after⟩ := ih same.symm
        exact ⟨between, .failed call raw before, after⟩

theorem Answers.single {detail : Value}
    (run : Answers instanceId standing [(.getInstanceDetail instanceId, .ok detail)] last)
    (asked : standing.asked ⊆ spec.effects) :
    ∃ between, detail = between.detail ∧ Nears spec standing between ∧
      Nears spec between last := by
  generalize only : [(RemoteCall.getInstanceDetail instanceId, Except.ok detail)] = answers at run
  induction run with
  | rests standing => cases only
  | drifts drifts rest ih =>
      have moved := drifts.nears asked
      obtain ⟨between, same, before, after⟩ := ih moved.asked only
      exact ⟨between, same, moved.trans before, after⟩
  | shown rest ih =>
      cases only
      exact ⟨_, rfl, .refl asked, rest.nears nofun asked⟩
  | accepted changes value rest ih =>
      cases only
      cases changes
  | failed call raw rest ih => cases only

/-- A detail at the end of a run is the document of a standing within it. -/
theorem Answers.seen {detail : Value} (run : Answers instanceId standing answers last)
    (atEnd : answers.getLast? = some (.getInstanceDetail instanceId, .ok detail))
    (serves : ∀ answer ∈ answers, answer.1.effects ⊆ spec.effects)
    (asked : standing.asked ⊆ spec.effects) :
    ∃ between, detail = between.detail ∧ Nears spec standing between ∧
      Nears spec between last := by
  obtain ⟨earlier, rfl⟩ := List.getLast?_eq_some_iff.mp atEnd
  obtain ⟨reached, before, after⟩ := run.split
  have nears := before.nears
    (fun answer member => serves answer (List.mem_append_left _ member)) asked
  obtain ⟨between, same, shown, rest⟩ := after.single nears.asked
  exact ⟨between, same, nears.trans shown, rest⟩

end Standing

/-! ### Planning anew -/

namespace Plan

variable {handle later : InstanceHandle} {spec : DesiredSpec} {planned : List Step}

theorem effects_of_mem (plan : steps handle spec = .ok planned) {step : Step}
    (member : step ∈ planned) {check : AppliedCheck} (checked : step.appliedCheck = .ok check) :
    check ∈ spec.effects := by
  obtain ⟨_, rfl⟩ := steps_eq_ok_iff.mp plan
  rcases List.mem_append.mp member with renamed | resized
  · obtain ⟨_, rfl⟩ := mem_renameSteps_iff.mp renamed
    cases checked
    exact .head _
  · rcases mem_resizeSteps_iff.mp resized with ⟨_, _, _, rfl⟩ | ⟨_, _, _, rfl⟩
    · cases checked
      exact .tail _ (.head _)
    · cases checked
      exact .tail _ (.tail _ (.head _))

/-- What is shown, or was as desired and has not moved, is as desired. -/
theorem desired_of_nears {α : Type} {desired seenLater : α} (seen : α) {effect : AppliedCheck}
    {start finish : Standing} (nears : Standing.Nears spec start finish)
    (wanted : effect ∈ spec.effects)
    (unmoved : Value.lookup effect.detailKey finish.entries =
      Value.lookup effect.detailKey start.entries → seenLater = seen)
    (agrees : effect.holds finish.detail = true → desired = seenLater)
    (done : desired ≠ seen → effect.holds finish.detail = true) : desired = seenLater := by
  rcases nears.moved effect wanted with same | holds
  · by_cases differs : desired = seen
    · rw [differs, unmoved same]
    · exact agrees (done differs)
  · exact agrees holds

section Replanning

variable {start finish : Standing}

theorem renameSteps_eq_nil (before : handle.ReadFrom start.entries)
    (after : later.ReadFrom finish.entries) (nears : Standing.Nears spec start finish)
    (done : ∀ step ∈ renameSteps handle spec, ∃ check, step.appliedCheck = .ok check ∧
      check.holds finish.detail = true) : renameSteps later spec = [] := by
  have named : spec.instanceName = later.instanceName := by
    refine desired_of_nears handle.instanceName nears (.head _) (fun same => ?_) (fun holds => ?_)
      fun differs => ?_
    · have read := after.name
      rw [same, before.name] at read
      exact (Checked.valid.inj read).symm
    · exact ((text_entry_agrees after.name).mp holds).1
    · obtain ⟨check, checked, holds⟩ := done _ (mem_renameSteps_iff.mpr ⟨differs, rfl⟩)
      cases checked
      exact holds
  exact renameSteps_eq_nil_iff.mpr named.symm

theorem resizeSteps_eq_nil (before : handle.ReadFrom start.entries)
    (after : later.ReadFrom finish.entries) (sameType : later.clusterType = handle.clusterType)
    (nears : Standing.Nears spec start finish)
    (done : ∀ step ∈ resizeSteps handle spec, ∃ check, step.appliedCheck = .ok check ∧
      check.holds finish.detail = true) : resizeSteps later spec = [] := by
  have shapeBefore := before.shape
  have shapeAfter := after.shape
  rw [sameType] at shapeAfter
  cases type : handle.clusterType with
  | masterSlave =>
      rw [type] at shapeBefore shapeAfter
      obtain ⟨seen, valid, pair⟩ := Detail.topology_masterSlave shapeBefore
      obtain ⟨seenLater, validLater, pairLater⟩ := Detail.topology_masterSlave shapeAfter
      have sized : spec.nodeType = seenLater := by
        refine desired_of_nears seen nears (.tail _ (.head _)) (fun same => ?_) (fun holds => ?_)
          fun differs => ?_
        · rw [same, valid] at validLater
          cases validLater
          rfl
        · exact ((text_entry_agrees validLater).mp holds).1
        · obtain ⟨check, checked, holds⟩ :=
            done _ (mem_resizeSteps_iff.mpr (.inl ⟨seen, pair, differs, rfl⟩))
          cases checked
          exact holds
      simp only [resizeSteps, pairLater, sized, if_true]
  | cluster =>
      rw [type] at shapeBefore shapeAfter
      obtain ⟨seen, valid, cluster⟩ := Detail.topology_cluster shapeBefore
      obtain ⟨seenLater, validLater, clusterLater⟩ := Detail.topology_cluster shapeAfter
      have sized : spec.shardNum = seenLater := by
        refine desired_of_nears seen nears (.tail _ (.tail _ (.head _))) (fun same => ?_)
          (fun holds => ?_) fun differs => ?_
        · rw [same, valid] at validLater
          cases validLater
          rfl
        · exact ((whole_entry_agrees validLater).mp holds).1
        · obtain ⟨check, checked, holds⟩ :=
            done _ (mem_resizeSteps_iff.mpr (.inr ⟨seen, cluster, differs, rfl⟩))
          cases checked
          exact holds
      simp only [resizeSteps, clusterLater, sized, if_true]

/-- A document in which all steps show leaves nothing to plan. -/
theorem steps_eq_nil (plan : steps handle spec = .ok planned)
    (before : handle.ReadFrom start.entries) (after : later.ReadFrom finish.entries)
    (nears : Standing.Nears spec start finish)
    (done : ∀ step ∈ planned, ∃ check, step.appliedCheck = .ok check ∧
      check.holds finish.detail = true) : steps later spec = .ok [] := by
  obtain ⟨reachable, rfl⟩ := steps_eq_ok_iff.mp plan
  have sameType : later.clusterType = handle.clusterType := by
    have read := after.type
    rw [Detail.clusterType, nears.fixed "clusterType" (by decide)] at read
    exact Except.ok.inj (read.symm.trans before.type)
  have sameVersion : later.engineVersion = handle.engineVersion := by
    have read := after.version
    rw [nears.fixed "engineVersion" (by decide), before.version] at read
    exact (Checked.valid.inj read).symm
  have samePort : later.port = handle.port := by
    have read := after.port
    rw [nears.fixed "port" (by decide), before.port] at read
    exact (Checked.valid.inj read).symm
  refine steps_eq_ok_iff.mpr ⟨?_, ?_⟩
  · rw [conflict?_eq sameType sameVersion samePort]
    exact reachable
  · rw [renameSteps_eq_nil before after nears
        fun step member => done step (List.mem_append_left _ member),
      resizeSteps_eq_nil before after sameType nears
        fun step member => done step (List.mem_append_right _ member)]
    rfl

end Replanning

end Plan

/-! ### A finished run -/

/-- The last call of a step that shows is the poll that shows it. -/
theorem Block.shown {clientToken : String} {step : Step} {exchanges : List (Exchange τ)}
    (block : Block clientToken step exchanges true) :
    ∃ call check last detail, Step.Intent clientToken step call check ∧
      exchanges.getLast? = some last ∧
      last.answer = (.getInstanceDetail (.text step.instanceId), .ok detail) ∧
      check.holds detail = true := by
  cases block with
  | @accepted call check tries polls answer _ intent tried reads early shown =>
      obtain ⟨last, atEnd, detail, answered, _, holds⟩ := shown.mp rfl
      have called := reads last (List.mem_of_getLast? atEnd)
      refine ⟨call, check, last, detail, intent, ?_, ?_, holds⟩
      · rw [List.getLast?_append, atEnd]
        rfl
      · rw [Exchange.answer, called, answered]

theorem Block.serves {clientToken : String} {step : Step} {exchanges : List (Exchange τ)}
    {applied : Bool} {spec : DesiredSpec} (block : Block clientToken step exchanges applied)
    (wanted : ∀ check, step.appliedCheck = .ok check → check ∈ spec.effects) :
    ∀ exchange ∈ exchanges, exchange.call.effects ⊆ spec.effects := by
  intro exchange member
  cases block with
  | refused intent tried =>
      rw [tried.calls exchange member, intent.effects]
      exact List.cons_subset.mpr ⟨wanted _ intent.appliedCheck, List.nil_subset _⟩
  | accepted intent tried reads early shown =>
      rcases List.mem_append.mp member with attempt | poll
      · rw [tried.calls exchange attempt, intent.effects]
        exact List.cons_subset.mpr ⟨wanted _ intent.appliedCheck, List.nil_subset _⟩
      · rw [reads exchange poll]
        exact List.nil_subset _

/-! ### A sample -/

namespace Sample

def standing (name nodeType : String) (asked : List AppliedCheck) : Standing :=
  ⟨[(.text "instanceStatus", .text "Running"), (.text "instanceName", .text name),
    (.text "nodeType", .text nodeType)], asked⟩

theorem standing_drifts {name nodeType newName newType : String} {asked : List AppliedCheck}
    (named : newName = name ∨ ⟨"instanceName", .text newName⟩ ∈ asked)
    (sized : newType = nodeType ∨ ⟨"nodeType", .text newType⟩ ∈ asked) :
    (standing name nodeType asked).Drifts (standing newName newType asked) := by
  refine ⟨rfl, ?_, ?_⟩
  · exact List.forall_mem_cons.mpr ⟨rfl, List.forall_mem_cons.mpr ⟨rfl,
      List.forall_mem_singleton.mpr rfl⟩⟩
  · refine List.forall_mem_cons.mpr ⟨?_, List.forall_mem_cons.mpr ⟨?_,
      List.forall_mem_singleton.mpr (.inl rfl)⟩⟩
    · rcases named with rfl | wasAsked
      · exact .inl rfl
      · exact .inr ⟨_, wasAsked, rfl, rfl⟩
    · rcases sized with rfl | wasAsked
      · exact .inl rfl
      · exact .inr ⟨_, wasAsked, rfl, rfl⟩

/-- Both steps show late: once each, the instance is running and still as it was. -/
def lagging : Session Rat (List (Except Fault Value)) where
  world := [.ok .null, .ok (runningDetail "before" "small"), .ok (runningDetail "after" "small"),
    .ok .null, .ok (runningDetail "after" "small"), .ok (runningDetail "after" "large"),
    .ok (runningDetail "after" "large")]

def grownPair : InstanceHandle :=
  { pair with instanceName := "after", topology := .masterSlave "large", nodeType := some "large" }

end Sample

variable [Timescale τ]

namespace Service

variable {service : Service τ ω} {spec : DesiredSpec} {budget : Budget τ}

omit [Timescale τ] in
/-- Behind steps that were applied one after another all of them show. -/
theorem Applied.nears {instanceId : String} {steps : List Step} {exchanges : List (Exchange τ)}
    {start finish : Standing} (applied : Applied steps exchanges)
    (same : ∀ step ∈ steps, step.instanceId = instanceId)
    (wanted : ∀ step ∈ steps, ∀ check, step.appliedCheck = .ok check → check ∈ spec.effects)
    (answers : start.Answers (.text instanceId) (exchanges.map Exchange.answer) finish)
    (asked : start.asked ⊆ spec.effects) :
    Standing.Nears spec start finish ∧
      ∀ step ∈ steps, ∃ check, step.appliedCheck = .ok check ∧
        check.holds finish.detail = true := by
  induction applied generalizing start with
  | none => exact ⟨answers.nears nofun asked, nofun⟩
  | @next clientToken step rest exchanges others shows goesOn ih =>
      obtain rfl := same step List.mem_cons_self
      have wantedFirst := wanted step List.mem_cons_self
      rw [List.map_append] at answers
      obtain ⟨between, early, late⟩ := answers.split
      obtain ⟨call, check, last, detail, intent, atEnd, answered, holds⟩ := shows.shown
      have serves : ∀ answer ∈ exchanges.map Exchange.answer, answer.1.effects ⊆ spec.effects :=
        List.forall_mem_map.mpr (shows.serves wantedFirst)
      obtain ⟨seen, rfl, toSeen, fromSeen⟩ :=
        early.seen (by rw [List.getLast?_map, atEnd, ← answered]; rfl) serves asked
      have toBetween := toSeen.trans fromSeen
      obtain ⟨toFinish, done⟩ := ih (fun other member => same other (.tail _ member))
        (fun other member => wanted other (.tail _ member)) late toBetween.asked
      refine ⟨toBetween.trans toFinish, fun other member => ?_⟩
      rcases List.mem_cons.mp member with rfl | later
      · have shown := fromSeen.holds (wantedFirst _ intent.appliedCheck) holds
        exact ⟨check, intent.appliedCheck,
          toFinish.holds (wantedFirst _ intent.appliedCheck) shown⟩
      · exact done other later

/-- What matches its configuration is left alone. -/
theorem reconcile_settled {handle : InstanceHandle} (settled : Plan.steps handle spec = .ok [])
    (service : Service τ ω) (timeout : Option τ) (before : Session τ ω) :
    ∃ after, service.reconcile handle spec timeout before = (.ok (.unchanged handle), after) ∧
      callsOf after.events = callsOf before.events := by
  unfold reconcile
  rw [settled]
  refine ⟨_, rfl, ?_⟩
  simp only [callsOf, Session.events_note, List.filterMap_append]
  exact List.append_nil _

/-- Behind steps that are all done nothing is left to plan for the handle that is read. -/
theorem Updating.settles {instanceId : Value} {handle : InstanceHandle} {steps : List Step}
    {exchanges : List (Exchange τ)} {trail : List LogRecord} {reconciled : Reconciled}
    {start finish : Standing}
    (updating : service.Updating handle.instanceId steps budget exchanges trail (.ok reconciled))
    (plan : Plan.steps handle spec = .ok steps)
    (read : InstanceHandle.ofDetail instanceId start.detail = .ok handle)
    (asked : start.asked ⊆ spec.effects)
    (answers : start.Answers (.text handle.instanceId) (exchanges.map Exchange.answer) finish) :
    Plan.steps reconciled.handle spec = .ok [] := by
  generalize returned : Except.ok reconciled = result at updating
  cases updating with
  | stopped run => cases returned
  | @finished _ reads _ seen run reading =>
      cases found : existing (.text handle.instanceId) .read seen with
      | error halt =>
          rw [found] at returned
          cases returned
      | ok updated =>
          rw [found] at returned
          cases returned
          rw [List.map_append] at answers
          obtain ⟨between, early, late⟩ := answers.split
          obtain ⟨toBetween, done⟩ := run.applies.1.nears
            (fun step member => (Plan.steps_sound plan step member).1)
            (fun step member _ => Plan.effects_of_mem plan member) early asked
          obtain ⟨reading, last, detail, atEnd, answered, readLater⟩ := reading.found_last found
          have serves : ∀ answer ∈ reads.map Exchange.answer,
              answer.1.effects ⊆ spec.effects := by
            refine List.forall_mem_map.mpr fun exchange member => ?_
            rw [Exchange.answer, reading exchange member]
            exact List.nil_subset _
          obtain ⟨seen, rfl, toSeen, _⟩ :=
            late.seen (by rw [List.getLast?_map, atEnd, ← answered]; rfl) serves toBetween.asked
          obtain ⟨_, same, readBefore⟩ := InstanceHandle.ofDetail_ok read
          cases same
          obtain ⟨_, same, readAfter⟩ := InstanceHandle.ofDetail_ok readLater
          cases same
          refine Plan.steps_eq_nil plan readBefore readAfter (toBetween.trans toSeen)
            fun step member => ?_
          obtain ⟨check, checked, holds⟩ := done step member
          exact ⟨check, checked, toSeen.holds (Plan.effects_of_mem plan member checked) holds⟩

/-- A reconciliation that returns leaves nothing to be done: planning anew gives no steps, so that
another one returns the same handle without a call. -/
theorem reconcile_converges (solitary : service.surroundings.Solitary) {instanceId : Value}
    {handle : InstanceHandle} {timeout : Option τ} {before after : Session τ ω}
    {added : List (Event τ)} {reconciled : Reconciled} {start finish : Standing}
    (read : InstanceHandle.ofDetail instanceId start.detail = .ok handle)
    (asked : start.asked ⊆ spec.effects)
    (ran : service.reconcile handle spec timeout before = (.ok reconciled, after))
    (extended : after.events = before.events ++ added)
    (answers : start.Answers (.text handle.instanceId) (answersOf added) finish) :
    Plan.steps reconciled.handle spec = .ok [] ∧
      ∀ timeout again, ∃ later,
        service.reconcile reconciled.handle spec timeout again =
          (.ok (.unchanged reconciled.handle), later) ∧
        callsOf later.events = callsOf again.events := by
  have settled : Plan.steps reconciled.handle spec = .ok [] := by
    obtain ⟨others, exchanges, _, extendedToo, told, reconciling⟩ :=
      reconcile_tells solitary.encloses solitary.keeps handle spec timeout before
    rw [ran] at extendedToo reconciling
    obtain rfl : others = added := List.append_cancel_left (extendedToo.symm.trans extended)
    rw [told.flat.2] at answers
    generalize returned : Except.ok reconciled = result at reconciling
    cases reconciling with
    | unplanned _ | unaccepted _ _ _ | unclaimed _ _ _ _ => cases returned
    | unchanged plan =>
        cases returned
        exact plan
    | claimed plan changes accepted free updating =>
        subst returned
        exact updating.settles plan read asked answers
  exact ⟨settled, fun timeout again => reconcile_settled settled service timeout again⟩

theorem reconcile_converges_lagging :
    InstanceHandle.ofDetail (.text "scs-1") (Sample.standing "before" "small" []).detail =
        .ok Sample.pair ∧
      (Sample.scripted.reconcile Sample.pair Sample.grown none Sample.lagging).1 =
        .ok (.updated Sample.grownPair) ∧
      Plan.steps Sample.grownPair Sample.grown = .ok [] ∧
      ∀ timeout again, ∃ later,
        Sample.scripted.reconcile Sample.grownPair Sample.grown timeout again =
          (.ok (.unchanged Sample.grownPair), later) ∧
        callsOf later.events = callsOf again.events := by
  have returned : (Sample.scripted.reconcile Sample.pair Sample.grown none Sample.lagging).1 =
      .ok (.updated Sample.grownPair) := by
    decide +kernel
  have answered : answersOf
        (Sample.scripted.reconcile Sample.pair Sample.grown none Sample.lagging).2.events =
      [(.updateInstanceName (.text "scs-1") (.text "after") "0", .ok .null),
        (.getInstanceDetail (.text "scs-1"), .ok (Sample.runningDetail "before" "small")),
        (.getInstanceDetail (.text "scs-1"), .ok (Sample.runningDetail "after" "small")),
        (.resizeNodeType (.text "scs-1") (.text "large"), .ok .null),
        (.getInstanceDetail (.text "scs-1"), .ok (Sample.runningDetail "after" "small")),
        (.getInstanceDetail (.text "scs-1"), .ok (Sample.runningDetail "after" "large")),
        (.getInstanceDetail (.text "scs-1"), .ok (Sample.runningDetail "after" "large"))] := by
    decide +kernel
  let name : AppliedCheck := ⟨"instanceName", .text "after"⟩
  let nodeType : AppliedCheck := ⟨"nodeType", .text "large"⟩
  have renamed : (Sample.standing "before" "small" [name]).Drifts
      (Sample.standing "after" "small" [name]) :=
    Sample.standing_drifts (.inr (.head _)) (.inl rfl)
  have resized : (Sample.standing "after" "small" [nodeType, name]).Drifts
      (Sample.standing "after" "large" [nodeType, name]) :=
    Sample.standing_drifts (.inl rfl) (.inr (.head _))
  have answers : ∃ finish, (Sample.standing "before" "small" []).Answers (.text "scs-1")
      (answersOf (Sample.scripted.reconcile Sample.pair Sample.grown none
        Sample.lagging).2.events) finish := by
    rw [answered]
    exact ⟨_, .accepted rfl _ (.shown (.drifts renamed (.shown (.accepted rfl _ (.shown
      (.drifts resized (.shown (.shown (.rests _)))))))))⟩
  obtain ⟨finish, answers⟩ := answers
  have read : InstanceHandle.ofDetail (.text "scs-1") (Sample.standing "before" "small" []).detail =
      .ok Sample.pair := rfl
  exact ⟨read, returned, reconcile_converges Sample.scripted_solitary read (List.nil_subset _)
    (Prod.ext returned rfl) (List.nil_append _).symm answers⟩

end Service

end CacheSteward
