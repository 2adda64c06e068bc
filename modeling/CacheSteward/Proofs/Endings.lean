import CacheSteward.Proofs.Lifecycle
import CacheSteward.Proofs.Trying
import CacheSteward.Proofs.Waiting

namespace CacheSteward

/-! What the endings of actions and waits say about the outcomes in front of them.

An action ends as its last outcome decides, or with a failure that could have been retried.  A wait
ends as its last poll decides, or behind polls that all leave it open.
-/

variable {τ ω : Type} [Timescale τ]

namespace Action

theorem Ends.decided {action : Action τ} {outcome : Except Fault Value}
    {result : Except Halt Value} (ended : action.Ends outcome result) :
    (∃ ending, action.Decides outcome ending ∧ result = ending.mapError .fault) ∨
      ∃ cause, action.Retries outcome cause ∧
        ((∃ fault, action.budget.Fails fault ∧ result = .error (.fault fault)) ∨
          ∃ elapsed, result = .error (.fault (action.exhausted elapsed cause))) := by
  cases outcome with
  | ok answer =>
      cases ended
      exact .inl ⟨_, .answered answer, rfl⟩
  | error raw =>
      simp only [Ends, judge] at ended
      cases resolved : (raw.disposition action.kind).resolve action.kind with
      | success =>
          rw [resolved] at ended
          cases ended
          exact .inl ⟨_, .counted resolved, rfl⟩
      | fail =>
          rw [resolved] at ended
          cases ended
          exact .inl ⟨_, .failed resolved, rfl⟩
      | retry =>
          rw [resolved] at ended
          exact .inr ⟨_, .retried resolved, ended⟩

theorem Ends.of_decides {action : Action τ} {outcome ending : Except Fault Value}
    {result : Except Halt Value} (ended : action.Ends outcome result)
    (decides : action.Decides outcome ending) : result = ending.mapError .fault := by
  cases decides with
  | answered answer => exact ended
  | counted resolved | failed resolved =>
      simp only [Ends, judge, resolved] at ended
      exact ended

end Action

namespace Wait

/-- The outcomes of a poll that leave a wait open. -/
inductive LeavesOpen (wait : Wait τ) : Except Fault Value → Prop where
  | stale {detail : Value} {status : InstanceStatus}
      (given : detail.get? "instanceStatus" = some (.text status.word))
      (target : status ∈ wait.target) (unshown : wait.passes detail = false) :
      LeavesOpen wait (.ok detail)
  | passing {detail : Value} {status : InstanceStatus}
      (given : detail.get? "instanceStatus" = some (.text status.word))
      (untargeted : status ∉ wait.target) (harmless : status ∉ wait.bad) :
      LeavesOpen wait (.ok detail)
  | transient {raw : Fault} (passes : raw.disposition wait.kind = .transient) :
      LeavesOpen wait (.error raw)

omit [Timescale τ] in
theorem not_isOpen_of_ending {sighting : Sighting} {ending : Except Fault InstanceStatus}
    (ended : sighting.ending? = some ending) : ¬ sighting.IsOpen := by
  cases sighting with
  | reached status | gone | failed fault => exact id
  | stale status | passing status | transient fault => cases ended

omit [Timescale τ] in
theorem leavesOpen_of_isOpen {wait : Wait τ} {outcome : Except Fault Value}
    (opened : (wait.judge outcome).IsOpen) : wait.LeavesOpen outcome := by
  cases outcome with
  | error raw =>
      refine .transient ?_
      simp only [judge, judgeFailure] at opened
      split at opened
      · exact opened.elim
      · split at opened
        · assumption
        · exact opened.elim
  | ok detail =>
      simp only [judge, judgeDetail] at opened
      split at opened
      · exact opened.elim
      · rename_i raw read
        split at opened
        · exact opened.elim
        · rename_i status parsed
          have shown := given_of_parsed read parsed
          unfold judgeStatus at opened
          split at opened
          · rename_i target
            split at opened
            · exact opened.elim
            · rename_i fails
              exact .stale shown target (Bool.not_eq_true _ ▸ fails)
          · rename_i untargeted
            split at opened
            · exact opened.elim
            · rename_i harmless
              exact .passing shown untargeted harmless

theorem Ends.decided {wait : Wait τ} {outcome : Except Fault Value}
    {result : Except Halt InstanceStatus} (ended : wait.Ends outcome result) :
    (∃ ending, (wait.judge outcome).ending? = some ending ∧ result = ending.mapError .fault) ∨
      (wait.judge outcome).IsOpen ∧
        ∃ elapsed last, result = .error (.fault (wait.exhausted elapsed last)) := by
  unfold Ends at ended
  cases judged : wait.judge outcome with
  | reached status | gone | failed fault =>
      rw [judged] at ended
      exact .inl ⟨_, rfl, ended⟩
  | stale status | passing status | transient fault =>
      rw [judged] at ended
      exact .inr ⟨trivial, ended⟩

namespace Polls

variable {wait : Wait τ} {horizon : Nat} {polls : List (Exchange τ)}
  {result : Except Halt InstanceStatus}

/-- A wait that succeeds does so with its last poll. -/
theorem reached {status : InstanceStatus} (polled : wait.Polls horizon polls (.ok status)) :
    ∃ last, polls.getLast? = some last ∧ wait.Decides last.outcome (.ok status) := by
  rcases polled.decided with ⟨cut, _⟩ | ⟨last, atEnd, ended⟩
  · cases cut
  · refine ⟨last, atEnd, ?_⟩
    rcases ended.decided with ⟨ending, judged, same⟩ | ⟨_, _, _, same⟩
    · cases ending with
      | error fault => cases same
      | ok reached =>
          cases same
          rcases decides_or_formless judged with decides | ⟨_, _, impossible⟩
          · exact decides
          · cases impossible
    · cases same

/-- A wait fails with what its last poll decides, with a detail that is no mapping, or with its time
over behind a poll that leaves it open. -/
theorem failed {fault : Fault} (polled : wait.Polls horizon polls (.error (.fault fault))) :
    ∃ last, polls.getLast? = some last ∧
      (wait.Decides last.outcome (.error fault) ∨ fault.isKnown = false ∨
        (wait.judge last.outcome).IsOpen ∧
          ∃ elapsed seen, fault = wait.exhausted elapsed seen) := by
  rcases polled.decided with ⟨cut, _⟩ | ⟨last, atEnd, ended⟩
  · cases cut
  · refine ⟨last, atEnd, ?_⟩
    rcases ended.decided with ⟨ending, judged, same⟩ | ⟨opened, elapsed, seen, same⟩
    · cases ending with
      | ok reached => cases same
      | error reason =>
          cases same
          rcases decides_or_formless judged with decides | ⟨raw, foreign, same⟩
          · exact .inl decides
          · cases same
            exact .inr (.inl foreign)
    · cases same
      exact .inr (.inr ⟨opened, elapsed, seen, rfl⟩)

/-- No poll follows one that decides. -/
theorem of_decides (polled : wait.Polls horizon polls result) {poll : Exchange τ}
    (member : poll ∈ polls) {ending : Except Fault InstanceStatus}
    (decides : wait.Decides poll.outcome ending) : result = ending.mapError .fault := by
  have judged := ending_of_decides decides
  induction polled with
  | cut => cases member
  | last pending ended =>
      obtain rfl := List.mem_singleton.mp member
      rcases ended.decided with ⟨other, same, concluded⟩ | ⟨opened, _⟩
      · rw [judged] at same
        cases same
        exact concluded
      · exact absurd opened (not_isOpen_of_ending judged)
  | again pending opened rest ih =>
      rcases List.mem_cons.mp member with rfl | later
      · exact absurd opened (not_isOpen_of_ending judged)
      · exact ih later

end Polls

end Wait

namespace Service

/-- The wait for a new instance succeeds behind a poll that shows it running. -/
theorem createdWait_runs {instanceId : Value} {budget : Budget τ} {rest : τ} {horizon : Nat}
    {polls : List (Exchange τ)} {status : InstanceStatus}
    (waited : (createdWait instanceId budget rest).Polls horizon polls (.ok status)) :
    ∃ last detail, polls.getLast? = some last ∧ last.outcome = .ok detail ∧
      detail.get? "instanceStatus" = some (.text InstanceStatus.running.word) := by
  obtain ⟨last, atEnd, decides⟩ := waited.reached
  generalize answered : last.outcome = outcome at decides
  cases decides with
  | reached given target passes =>
      obtain rfl := List.mem_singleton.mp target
      exact ⟨last, _, atEnd, answered, given⟩
  | gone missing targeted => cases targeted

end Service

end CacheSteward
