import CacheSteward.Proofs.Run
import CacheSteward.Service

namespace CacheSteward

/-! Relations between sessions that hold from the start of a computation to its end.

Such a relation is composed along a computation, so that only the primitive steps decide whether it
holds.  What operations have in common is gone through here once, for whatever relation; calls are
left to the relation.
-/

variable {τ ω α β : Type}

/-- A relation that composes, and that neither the clock, nor a pause, nor the log can break. -/
structure Steady (R : Session τ ω → Session τ ω → Prop) : Prop where
  refl (session : Session τ ω) : R session session
  trans {before middle after : Session τ ω} : R before middle → R middle after → R before after
  turned (session : Session τ ω) (world : ω) : R session { session with world }
  slept (session : Session τ ω) (span : τ) : R session (session.note (.slept span))
  logged (session : Session τ ω) (record : LogRecord) : R session (session.note (.logged record))

namespace Run

/-- The relation holds between the session that a computation starts in and the one it leaves,
however it ends. -/
def Upholds (R : Session τ ω → Session τ ω → Prop) (run : Run τ ω α) : Prop :=
  ∀ before, R before (run before).2

namespace Upholds

variable {R : Session τ ω → Session τ ω → Prop} {run : Run τ ω α} {next : α → Run τ ω β}

theorem pure (steady : Steady R) (a : α) : (Pure.pure a : Run τ ω α).Upholds R :=
  fun before => steady.refl before

theorem halt (steady : Steady R) (halt : Halt) : (throw halt : Run τ ω α).Upholds R :=
  fun before => steady.refl before

theorem fail (steady : Steady R) (fault : Fault) : (Run.fail fault : Run τ ω α).Upholds R :=
  Upholds.halt steady (.fault fault)

theorem ofExcept (steady : Steady R) (result : Except Fault α) :
    (Run.ofExcept result : Run τ ω α).Upholds R := by
  cases result with
  | ok a => exact Upholds.pure steady a
  | error fault => exact Upholds.fail steady fault

theorem failThen (steady : Steady R) (fault : Fault) : (Run.fail fault >>= next).Upholds R :=
  fun before => steady.refl before

theorem afterExcept (steady : Steady R) {result : Except Fault α}
    (rest : ∀ a, result = .ok a → (next a).Upholds R) :
    (Run.ofExcept result >>= next).Upholds R := by
  cases result with
  | ok a => exact rest a rfl
  | error fault => exact failThen steady fault

/-- What the first part upholds is carried on by what the rest upholds. -/
theorem followed {S T : Session τ ω → Session τ ω → Prop}
    (stops : ∀ {before after}, R before after → T before after)
    (goesOn : ∀ {before middle after}, R before middle → S middle after → T before after)
    (first : run.Upholds R) (rest : ∀ a, (next a).Upholds S) : (run >>= next).Upholds T := by
  intro before
  have held := first before
  cases ran : run before with
  | mk outcome after =>
      rw [ran] at held
      cases outcome with
      | error halt =>
          rw [bind_error ran]
          exact stops held
      | ok a =>
          rw [bind_ok ran]
          exact goesOn held (rest a after)

/-- What a computation upholds is carried on by what the handler of its failures upholds. -/
theorem caught {S T : Session τ ω → Session τ ω → Prop} {handler : Halt → Run τ ω α}
    (stops : ∀ {before after}, R before after → T before after)
    (goesOn : ∀ {before middle after}, R before middle → S middle after → T before after)
    (first : run.Upholds R) (handles : ∀ halt, (handler halt).Upholds S) :
    (tryCatch run handler).Upholds T := by
  intro before
  have held := first before
  cases ran : run before with
  | mk outcome after =>
      rw [ran] at held
      cases outcome with
      | error halt =>
          rw [tryCatch_error ran]
          exact goesOn held (handles halt after)
      | ok a =>
          rw [tryCatch_ok ran]
          exact stops held

theorem bind (steady : Steady R) (first : run.Upholds R) (rest : ∀ a, (next a).Upholds R) :
    (run >>= next).Upholds R :=
  followed id steady.trans first rest

theorem map (steady : Steady R) (f : α → β) (held : run.Upholds R) : (f <$> run).Upholds R := by
  rw [map_eq_pure_bind]
  exact bind steady held fun a => Upholds.pure steady (f a)

theorem discard (steady : Steady R) (held : run.Upholds R) :
    (Functor.discard run).Upholds R := by
  rw [discard_eq]
  exact bind steady held fun _ => Upholds.pure steady PUnit.unit

theorem catching (steady : Steady R) {handler : Halt → Run τ ω α} (first : run.Upholds R)
    (handles : ∀ halt, (handler halt).Upholds R) : (tryCatch run handler).Upholds R :=
  caught id steady.trans first handles

theorem followedBy {last : Session τ ω → Session τ ω}
    (closes : ∀ {before after}, R before after → R before (last after)) (held : run.Upholds R) :
    (run.followedBy last).Upholds R :=
  fun before => closes (held before)

/-- Where the table of held instances does not count, a claim does not either. -/
theorem claiming (instanceId : Value) (refl : ∀ session : Session τ ω, R session session)
    (untabled : ∀ {before after : Session τ ω} (table other : InFlight τ),
      R { before with inFlight := table } after → R before { after with inFlight := other })
    (held : run.Upholds R) : (Run.claiming instanceId run).Upholds R := by
  intro before
  cases keyed : instanceId.isKey with
  | false =>
      rw [claiming_unkeyed keyed]
      exact refl before
  | true =>
      cases found : before.inFlight.find? instanceId with
      | some other =>
          rw [claiming_held keyed found]
          exact refl before
      | none =>
          rw [claiming_free keyed found]
          exact untabled _ _ (held _)

theorem onKnownFault (steady : Steady R) {notice : Fault → Run τ ω Unit} (held : run.Upholds R)
    (notices : ∀ fault, (notice fault).Upholds R) : (run.onKnownFault notice).Upholds R := by
  apply catching steady held
  intro reason
  cases reason with
  | unfinished => exact bind steady (Upholds.pure steady ()) fun _ => Upholds.halt steady _
  | fault fault =>
      by_cases known : fault.isKnown
      · simp only [known, if_true]
        exact bind steady (notices fault) fun _ => Upholds.halt steady _
      · simp only [known]
        exact bind steady (Upholds.pure steady ()) fun _ => Upholds.halt steady _

theorem log (steady : Steady R) (record : LogRecord) :
    (Run.log record : Run τ ω Unit).Upholds R :=
  fun before => steady.logged before record

theorem logs (steady : Steady R) (records : List LogRecord) :
    (records.forM Run.log : Run τ ω Unit).Upholds R := by
  induction records with
  | nil => exact Upholds.pure steady ()
  | cons record rest ih => exact bind steady (log steady record) fun _ => ih

theorem audit (steady : Steady R) (entry : AuditEntry) :
    (Run.audit entry : Run τ ω Unit).Upholds R :=
  log steady entry.record

theorem now (steady : Steady R) (surroundings : Surroundings τ ω) :
    (Run.now surroundings).Upholds R :=
  fun before => steady.turned before _

theorem elapsed [Timescale τ] (steady : Steady R) (surroundings : Surroundings τ ω) (start : τ) :
    (Run.elapsed surroundings start).Upholds R :=
  bind steady (now steady surroundings) fun _ => Upholds.pure steady _

theorem sleep (steady : Steady R) (surroundings : Surroundings τ ω) (span : τ) :
    (Run.sleep surroundings span).Upholds R := by
  intro before
  let turned : Session τ ω := { before with world := surroundings.sleep span before.world }
  exact steady.trans (steady.turned before _) (steady.slept turned span)

end Upholds

end Run

variable [Timescale τ] {R : Session τ ω → Session τ ω → Prop} {surroundings : Surroundings τ ω}

open Run

namespace Action

variable {call : RemoteCall}

omit [Timescale τ] in
theorem attempt_upholds (steady : Steady R) (calls : (Run.remote surroundings call).Upholds R)
    (action : Action τ) (attempts : Nat) :
    (action.attempt (Run.remote surroundings call) attempts).Upholds R := by
  unfold attempt
  apply Upholds.bind steady calls
  intro outcome
  apply Upholds.bind steady (Upholds.logs steady (action.remarks outcome))
  intro _
  cases action.judge outcome with
  | done value =>
      by_cases repeated : attempts > 0
      · simp only [repeated, if_true]
        exact Upholds.bind steady (Upholds.log steady _) fun _ => Upholds.pure steady _
      · simp only [repeated, if_false]
        exact Upholds.pure steady _
  | fatal fault => exact Upholds.bind steady (Upholds.log steady _) fun _ => Upholds.fail steady _
  | retryable cause => exact Upholds.pure steady _

theorem giveUp_upholds {α : Type} (steady : Steady R) (action : Action τ) (attempts : Nat)
    (elapsed : τ) (cause : Fault) :
    (action.giveUp attempts elapsed cause : Run τ ω α).Upholds R := by
  unfold giveUp
  apply Upholds.bind steady (Upholds.ofExcept steady _)
  intro _
  exact Upholds.bind steady (Upholds.log steady _) fun _ => Upholds.fail steady _

theorem pause_upholds (steady : Steady R) (action : Action τ) (attempts : Nat) (cause : Fault) :
    (action.pause surroundings attempts cause).Upholds R := by
  unfold pause
  apply Upholds.bind steady (Upholds.ofExcept steady _)
  intro _
  exact Upholds.bind steady (Upholds.log steady _) fun _ => Upholds.sleep steady _ _

theorem tryFrom_upholds (steady : Steady R) (calls : (Run.remote surroundings call).Upholds R)
    (action : Action τ) (start : τ) (limit : Except Fault Nat) (attempts left : Nat) :
    (action.tryFrom surroundings (Run.remote surroundings call) start limit attempts left).Upholds
      R := by
  induction left generalizing attempts with
  | zero =>
      unfold tryFrom
      apply Upholds.bind steady (attempt_upholds steady calls action attempts)
      intro outcome
      cases outcome with
      | ok value => exact Upholds.pure steady value
      | error cause =>
          apply Upholds.bind steady (Upholds.elapsed steady _ _)
          intro elapsed
          apply Upholds.bind steady (Upholds.discard steady (Upholds.ofExcept steady limit))
          intro _
          exact giveUp_upholds steady action _ elapsed cause
  | succ left ih =>
      unfold tryFrom
      apply Upholds.bind steady (attempt_upholds steady calls action attempts)
      intro outcome
      cases outcome with
      | ok value => exact Upholds.pure steady value
      | error cause =>
          apply Upholds.bind steady (Upholds.elapsed steady _ _)
          intro elapsed
          apply Upholds.bind steady (Upholds.discard steady (Upholds.ofExcept steady limit))
          intro _
          by_cases late : action.isOver elapsed
          · simp only [late, if_true]
            exact giveUp_upholds steady action _ elapsed cause
          · simp only [late]
            exact Upholds.bind steady (pause_upholds steady action _ cause) fun _ => ih _

theorem perform_upholds (steady : Steady R) (calls : (Run.remote surroundings call).Upholds R)
    (action : Action τ) :
    (action.perform surroundings (Run.remote surroundings call)).Upholds R := by
  unfold perform
  apply Upholds.bind steady (Upholds.now steady _)
  intro start
  exact tryFrom_upholds steady calls action start _ _ _

end Action

namespace Wait

theorem pollFrom_upholds (steady : Steady R) (wait : Wait τ)
    (polls : (Run.remote surroundings (.getInstanceDetail wait.instanceId)).Upholds R)
    (start : τ) (horizon count : Nat) (last : Option InstanceStatus) :
    (wait.pollFrom surroundings start horizon count last).Upholds R := by
  induction horizon generalizing count last with
  | zero => exact Upholds.halt steady _
  | succ horizon ih =>
      unfold pollFrom
      apply Upholds.bind steady polls
      intro outcome
      apply Upholds.bind steady (Upholds.logs steady (wait.remarks _ _ outcome))
      intro _
      cases wait.judge outcome with
      | reached status => exact Upholds.pure steady status
      | gone => exact Upholds.pure steady _
      | failed fault => exact Upholds.fail steady fault
      | stale status | passing status | transient fault =>
          apply Upholds.bind steady (Upholds.elapsed steady _ _)
          intro elapsed
          by_cases late : Timescale.atMost wait.timeout elapsed
          · simp only [late, if_true]
            exact Upholds.fail steady _
          · simp only [late]
            exact Upholds.bind steady (Upholds.sleep steady _ _) fun _ => ih _ _

theorem perform_upholds (steady : Steady R) (horizon : Nat) (wait : Wait τ)
    (polls : (Run.remote surroundings (.getInstanceDetail wait.instanceId)).Upholds R) :
    (wait.perform surroundings horizon).Upholds R := by
  unfold perform
  apply Upholds.bind steady (Upholds.now steady _)
  intro start
  exact pollFrom_upholds steady wait polls start horizon 0 none

end Wait

namespace Service

variable {service : Service τ ω} {instanceId : Value}

theorem await_upholds (steady : Steady R) (start : τ) (budget : Budget τ) (wait : τ → Wait τ)
    (polls : ∀ rest,
      (Run.remote service.surroundings (.getInstanceDetail (wait rest).instanceId)).Upholds R) :
    (service.await start budget wait).Upholds R := by
  unfold await remaining
  apply Upholds.bind steady
    (Upholds.bind steady (Upholds.elapsed steady _ _) fun _ => Upholds.pure steady _)
  intro rest
  exact Wait.perform_upholds steady service.horizon (wait rest) (polls rest)

theorem mutate_upholds (steady : Steady R) (action : Action τ) {call : RemoteCall}
    (calls : (Run.remote service.surroundings call).Upholds R)
    {await : τ → Run τ ω InstanceStatus} (awaits : ∀ start, (await start).Upholds R) :
    (service.mutate action call await).Upholds R := by
  unfold mutate
  apply Upholds.bind steady (Upholds.now steady _)
  intro start
  apply Upholds.bind steady
    (Upholds.discard steady (Action.perform_upholds steady calls action))
  intro _
  exact awaits start

theorem read_upholds (steady : Steady R)
    (reads : (Run.remote service.surroundings (.getInstanceDetail instanceId)).Upholds R) :
    (service.read instanceId).Upholds R := by
  unfold read
  apply Upholds.bind steady (Upholds.ofExcept steady _)
  intro budget
  apply Upholds.bind steady (Action.perform_upholds steady reads _)
  intro detail
  cases detail with
  | null => exact Upholds.bind steady (Upholds.log steady _) fun _ => Upholds.pure steady _
  | _ => exact Upholds.map steady some (Upholds.ofExcept steady _)

theorem readExisting_upholds (steady : Steady R)
    (reads : (Run.remote service.surroundings (.getInstanceDetail instanceId)).Upholds R)
    (kind : OperationKind) : (service.readExisting instanceId kind).Upholds R := by
  unfold readExisting
  apply Upholds.bind steady (read_upholds steady reads)
  intro seen
  cases seen with
  | none => exact Upholds.fail steady _
  | some handle => exact Upholds.pure steady handle

end Service

end CacheSteward
