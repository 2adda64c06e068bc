import CacheSteward.Proofs.Convergence

namespace CacheSteward

/-! What a reconciliation asks for when nothing goes wrong.

A control plane that answers every call, and shows each change as soon as it is read, is asked for
one mutation a step and for nothing else but details.
-/

variable {τ ω : Type}

/-- The step that a mutation carries out.  Only instances with a text id have steps. -/
def RemoteCall.step? : RemoteCall → Option Step
  | .updateInstanceName (.text id) name _ => some ⟨.rename, id, [("instance_name", name)]⟩
  | .resizeNodeType (.text id) nodeType => some ⟨.resizeNodeType, id, [("node_type", nodeType)]⟩
  | .resizeShardNum (.text id) shardNum => some ⟨.resizeShardNum, id, [("shard_num", shardNum)]⟩
  | _ => none

theorem Step.Intent.step? {clientToken : String} {step : Step} {call : RemoteCall}
    {check : AppliedCheck} (intent : Step.Intent clientToken step call check) :
    call.step? = some step := by
  cases intent <;> rfl

/-- Every call succeeds, and what a call asks for shows in the detail that is read next. -/
structure Prompt (answers : List (RemoteCall × Except Fault Value)) : Prop where
  succeeds : ∀ answer ∈ answers, answer.2.isOk = true
  shows : ∀ asked read, [asked, read] <:+: answers → ∀ check ∈ asked.1.effects, ∀ instanceId,
    read.1 = .getInstanceDetail instanceId → ∃ detail, read.2 = .ok detail ∧
      detail.get? "instanceStatus" = some (.text "Running") ∧
      ((detail.get? check.detailKey).getD .null).same check.expected = true

theorem Prompt.of_infix {answers part : List (RemoteCall × Except Fault Value)}
    (prompt : Prompt answers) (inside : part <:+: answers) : Prompt part where
  succeeds answer member := prompt.succeeds answer (inside.subset member)
  shows asked read adjacent := prompt.shows asked read (adjacent.trans inside)

/-- The calls carry out the steps, one mutation for each of them, and else only read. -/
structure CarryOut (instanceId : Value) (steps : List Step) (calls : List RemoteCall) : Prop where
  mutations : calls.filterMap RemoteCall.step? = steps
  others : ∀ call ∈ calls, call.step? = none → call = .getInstanceDetail instanceId

namespace CarryOut

variable {instanceId : Value} {steps more : List Step} {calls others : List RemoteCall}

theorem of_reads (reads : ∀ call ∈ calls, call = .getInstanceDetail instanceId) :
    CarryOut instanceId [] calls where
  mutations := List.filterMap_eq_nil_iff.mpr fun call member => by
    rw [reads call member]
    rfl
  others call member _ := reads call member

theorem append (first : CarryOut instanceId steps calls)
    (second : CarryOut instanceId more others) :
    CarryOut instanceId (steps ++ more) (calls ++ others) where
  mutations := by rw [List.filterMap_append, first.mutations, second.mutations]
  others call member unmatched := by
    rcases List.mem_append.mp member with front | behind
    · exact first.others call front unmatched
    · exact second.others call behind unmatched

/-- A mutation, and one poll for what it changes. -/
theorem of_intent {clientToken : String} {step : Step} {call : RemoteCall} {check : AppliedCheck}
    (intent : Step.Intent clientToken step call check) :
    CarryOut (.text step.instanceId) [step]
      [call, .getInstanceDetail (.text step.instanceId)] where
  mutations := by
    rw [List.filterMap_cons_some intent.step?]
    rfl
  others other member unmatched := by
    rcases List.mem_cons.mp member with rfl | read
    · rw [intent.step?] at unmatched
      cases unmatched
    · exact List.mem_singleton.mp read

end CarryOut

/-! ### A sample -/

namespace Sample

end Sample

/-- Attempts that all succeed are one attempt. -/
theorem Attempts.eq_singleton_of_succeeds {call : RemoteCall} {kind : OperationKind}
    {exchanges : List (Exchange τ)} {outcome : Except Fault Value}
    (tried : Attempts call kind exchanges outcome)
    (succeeds : ∀ exchange ∈ exchanges, exchange.outcome.isOk = true) :
    ∃ pending, exchanges = [⟨call, pending, outcome⟩] := by
  cases tried with
  | last pending outcome => exact ⟨pending, rfl⟩
  | again pending transient rest => cases succeeds _ (.head _)

variable [Timescale τ]

namespace Service

variable {service : Service τ ω} {budget : Budget τ} {exchanges : List (Exchange τ)}

/-- A step that shows at the first poll is waited for no longer. -/
theorem appliedWait_prompt {step : Step} {check : AppliedCheck} {rest : τ} {horizon : Nat}
    {clientToken : String} {call : RemoteCall} (intent : Step.Intent clientToken step call check)
    {polls : List (Exchange τ)} {result : Except Halt InstanceStatus}
    (polled : (appliedWait step check budget rest).Polls horizon polls result)
    (unlimited : 0 < horizon) (shows : ∀ first ∈ polls.head?, check.ShownBy first) :
    result.isOk = true ∧
      ∃ poll, polls = [poll] ∧ poll.call = .getInstanceDetail (.text step.instanceId) := by
  cases polled with
  | cut => cases unlimited
  | last pending ended => exact ⟨(appliedWait_isOk_iff intent ended).mpr (shows _ rfl), _, rfl, rfl⟩
  | again pending opened rest =>
      exact absurd (shows _ rfl) (appliedWait_not_shown_of_open opened)

theorem StepRun.prompt {step : Step} {result : Except Halt InstanceStatus}
    (run : service.StepRun step budget exchanges result) (usable : budget.Usable)
    (unlimited : 0 < service.horizon) (prompt : Prompt (exchanges.map Exchange.answer)) :
    result.isOk = true ∧
      CarryOut (.text step.instanceId) [step] (exchanges.map Exchange.call) := by
  have succeeds : ∀ exchange ∈ exchanges, exchange.outcome.isOk = true := fun exchange member =>
    prompt.succeeds exchange.answer (List.mem_map_of_mem member)
  cases run with
  | unsettled failed =>
      obtain ⟨settled, kept⟩ := usable.settled
      rw [kept] at failed
      cases failed
  | @mutated _ _ check _ _ _ intent shown mutation announced =>
      cases mutation with
      | refused tried ended =>
          obtain ⟨pending, rfl⟩ := tried.eq_singleton_of_succeeds succeeds
          obtain ⟨raw, rfl⟩ := Action.failed_of_ends_error ended
          cases succeeds _ (.head _)
      | @accepted _ polls _ _ _ tried ended waited =>
          obtain ⟨pending, rfl⟩ := tried.eq_singleton_of_succeeds fun exchange member =>
            succeeds exchange (List.mem_append_left _ member)
          obtain ⟨rest, polled⟩ := waited
          have shows : ∀ first ∈ polls.head?, check.ShownBy first := by
            intro first atFront
            obtain ⟨others, rfl⟩ := List.head?_eq_some_iff.mp atFront
            exact prompt.shows _ first.answer
              (List.prefix_append _ (others.map Exchange.answer)).isInfix _
              (intent.effects ▸ .head _) _ (polled.reads first (.head _))
          obtain ⟨returned, poll, rfl, called⟩ :=
            appliedWait_prompt intent polled unlimited shows
          refine ⟨returned, ?_⟩
          rw [List.map_append, List.map_singleton, List.map_singleton, called]
          exact .of_intent intent

/-- The induction is on the steps, each of which succeeds. -/
theorem StepsRun.prompt {instanceId : Value} {completed steps : List Step}
    {trail : List LogRecord} {result : Except Halt Unit}
    (run : service.StepsRun completed (steps.map fun step => (step, budget)) exchanges trail
      result)
    (own : ∀ step ∈ steps, .text step.instanceId = instanceId) (usable : budget.Usable)
    (unlimited : 0 < service.horizon) (prompt : Prompt (exchanges.map Exchange.answer)) :
    result.isOk = true ∧ CarryOut instanceId steps (exchanges.map Exchange.call) := by
  induction steps generalizing completed exchanges trail with
  | nil =>
      cases run
      exact ⟨rfl, .of_reads (List.forall_mem_nil _)⟩
  | cons step rest ih =>
      rw [List.map_cons] at run
      cases run with
      | stopped run => cases (run.prompt usable unlimited prompt).1
      | next run goesOn =>
          rw [List.map_append] at prompt ⊢
          have first := run.prompt usable unlimited
            (prompt.of_infix (List.prefix_append _ _).isInfix)
          have later := ih goesOn (fun other member => own other (.tail _ member))
            (prompt.of_infix (List.suffix_append _ _).isInfix)
          exact ⟨later.1, (own step (.head _) ▸ first.2).append later.2⟩

end Service

end CacheSteward
