import CacheSteward.Command.Plan
import CacheSteward.Proofs.Boundaries
import CacheSteward.Proofs.Decoding
import CacheSteward.Proofs.Prompt
import CacheSteward.Proofs.Reports
import CacheSteward.Proofs.Serializing
import CacheSteward.Proofs.Tabulated

namespace CacheSteward

/-! What planning shows of two documents before anything is done. -/

/-! ### Failures that can be reported as JSON -/

namespace Fault

end Fault

namespace InstanceHandle

open Detail

variable {id : Value} {es : List (Value × Value)} {fault : Fault}

end InstanceHandle

namespace Command

section Documents

variable {desired observed : List (Value × Value)} {fault : Fault}

end Documents

/-! ### Outcomes -/

section Writing

variable {v : Value} (write : String → Outcome)

end Writing

/-- The lines of a table for a step: the first one shows its number, its kind, and the front of its
changes. -/
def Lists (number : Nat) (step : Step) (block : List (List Char)) : Prop :=
  ∃ line rest change, block = line :: rest ∧ Opens (Step.changes step.params) change ∧
    LineOf [(toString number).toList, step.kind.word.toList, change] line

namespace PlannedChange

end PlannedChange

/-! ### The command -/

/-- What both formats print of a plan. -/
structure Shows (name : String) (plan : PlannedChange) (json table : Outcome) : Prop where
  document : ∃ text, plan.document.jsonIndented = .ok text ∧ json = .success (text ++ "\n")
  success : table = .success table.out
  settled : table.out = "✅ Instance " ++ plan.handle.instanceId ++ " already matches " ++ name ++
    "\n" ↔ plan.steps = []
  listed : plan.steps ≠ [] → ∃ top blocks,
    table.out = "Plan for instance " ++ plan.handle.instanceId ++ " (" ++
      plan.handle.clusterType.word ++ "):\n" ++
        "\n".intercalate ((top ++ blocks.flatten).map String.ofList) ++ "\n" ∧
    List.Forall₂ (fun entry block => Lists entry.2 entry.1 block) (plan.steps.zipIdx 1) blocks

/-- What both formats print of a failure.  A report without a JSON form ends the command instead. -/
structure Explains (unwritable : Prop) (fault : Fault) (json table : Outcome) : Prop where
  table : table = .aborted ("❌ Failed to plan: " ++ fault.text)
  reported : ¬ unwritable → ∃ text, fault.report.jsonIndented = .ok text ∧ json = .aborted text
  crashed : unwritable → ∃ reason, fault.report.jsonIndented = .error reason ∧
    json = .crashed reason.message

theorem Shows.exit {name : String} {plan : PlannedChange} {json table : Outcome}
    (shows : Shows name plan json table) : json.exit = 0 ∧ table.exit = 0 := by
  obtain ⟨text, _, rfl⟩ := shows.document
  rw [shows.success]
  exact ⟨rfl, rfl⟩

theorem Explains.exit {unwritable : Prop} {fault : Fault} {json table : Outcome}
    (explains : Explains unwritable fault json table) : json.exit = 1 ∧ table.exit = 1 := by
  rw [explains.table]
  by_cases lost : unwritable
  · obtain ⟨reason, _, rfl⟩ := explains.crashed lost
    exact ⟨rfl, rfl⟩
  · obtain ⟨text, _, rfl⟩ := explains.reported lost
    exact ⟨rfl, rfl⟩

section Documents

variable {desired observed : Except Fault Value} {name : String}

end Documents

end Command

end CacheSteward
