import CacheSteward.Proofs.Attempts
import CacheSteward.Proofs.Planned
import CacheSteward.Proofs.Polls
import CacheSteward.Proofs.Upholding

namespace CacheSteward

/-! What computations leave alone in the table of held instances.

A computation keeps the table, apart from the entry of an instance of its own when it has one.
Meanwhile every call on an instance that was held before finds what was pending for it then.
-/

variable {τ ω α β : Type}

/-- The table apart from the entry of one instance, if any. -/
def InFlight.besides (own : Option Value) (table : InFlight τ) : InFlight τ :=
  match own with
  | none => table
  | some instanceId => table.release instanceId

def Foreign (own : Option Value) (instanceId : Value) : Prop :=
  ∀ mine, own = some mine → InstanceKey.of instanceId ≠ .of mine

theorem InFlight.find?_besides {own : Option Value} {instanceId : Value}
    (foreign : Foreign own instanceId) (table : InFlight τ) :
    (table.besides own).find? instanceId = table.find? instanceId := by
  cases own with
  | none => rfl
  | some mine => exact find?_release_of_ne (foreign mine rfl)

/-- What lies between two sessions keeps the table apart from an own entry. -/
structure Kept (own : Option Value) (before after : Session τ ω) : Prop where
  table : after.inFlight.besides own = before.inFlight.besides own
  grown : ∃ added, after.events = before.events ++ added ∧ Balanced added ∧
    ∀ instanceId held, Foreign own instanceId →
      before.inFlight.find? instanceId = some held → Shows instanceId held.pending added

namespace Kept

variable {own : Option Value} {before middle after : Session τ ω}

theorem refl (own : Option Value) (session : Session τ ω) : Kept own session session :=
  ⟨rfl, [], (List.append_nil _).symm, .nil, fun _ _ _ _ _ _ => nofun⟩

theorem trans (first : Kept own before middle) (second : Kept own middle after) :
    Kept own before after := by
  obtain ⟨added, extended, balanced, shown⟩ := first.grown
  obtain ⟨more, further, balancedMore, shownMore⟩ := second.grown
  refine ⟨second.table.trans first.table, added ++ more, ?_, balanced.append balancedMore,
    fun instanceId held foreign found => ?_⟩
  · rw [further, extended, List.append_assoc]
  · have foundAgain : middle.inFlight.find? instanceId = some held := by
      rw [← InFlight.find?_besides foreign, first.table, InFlight.find?_besides foreign]
      exact found
    exact (shown instanceId held foreign found).append
      (shownMore instanceId held foreign foundAgain)

/-- What keeps the whole table keeps it apart from any entry. -/
theorem apart (kept : Kept none before after) (own : Option Value) : Kept own before after := by
  have same : after.inFlight = before.inFlight := kept.table
  obtain ⟨added, extended, balanced, shown⟩ := kept.grown
  refine ⟨by rw [same], added, extended, balanced, ?_⟩
  exact fun instanceId held _ found => shown instanceId held (fun _ => nofun) found

/-- Whatever adds no call and leaves the table as it is. -/
theorem of_silent (same : after.inFlight = before.inFlight) {added : List (Event τ)}
    (extended : after.events = before.events ++ added) (balanced : Balanced added)
    (silent : ∀ call shown, .called call shown ∉ added) : Kept own before after := by
  refine ⟨by rw [same], added, extended, balanced, ?_⟩
  exact fun _ _ _ _ call shown member => absurd member (silent call shown)

theorem steady (own : Option Value) : Steady (Kept own : Session τ ω → Session τ ω → Prop) where
  refl := refl own
  trans := trans
  turned session world := by
    have extended : ({ session with world } : Session τ ω).events = session.events ++ [] :=
      (List.append_nil _).symm
    exact of_silent rfl extended .nil fun _ _ => nofun
  slept session span := by
    have extended := Session.events_note (.slept span) session
    refine of_silent rfl extended (.slept span .nil) fun call shown member => ?_
    cases List.mem_singleton.mp member
  logged session record := by
    have extended := Session.events_note (.logged record) session
    refine of_silent rfl extended (.logged record .nil) fun call shown member => ?_
    cases List.mem_singleton.mp member

end Kept

/-- Calls keep the table, and calls made meanwhile show what it holds. -/
def Surroundings.Keeps (surroundings : Surroundings τ ω) : Prop :=
  ∀ call session, Kept none session (surroundings.call call session).2

theorem Surroundings.Solitary.keeps {surroundings : Surroundings τ ω}
    (solitary : surroundings.Solitary) : surroundings.Keeps := by
  intro call session
  obtain ⟨world, answered⟩ := solitary call session
  have extended : ({ session with world } : Session τ ω).events = session.events ++ [] :=
    (List.append_nil _).symm
  rw [answered]
  exact .of_silent rfl extended .nil fun _ _ => nofun

/-- What calls leave alone they also show meanwhile. -/
theorem Surroundings.Keeps.encloses {surroundings : Surroundings τ ω}
    (keeps : surroundings.Keeps) : surroundings.Encloses Undisturbed := by
  intro call session
  obtain ⟨inner, extended, balanced, shown⟩ := (keeps call session).grown
  refine ⟨inner, extended, balanced, fun instanceId operation names showing => ?_⟩
  obtain ⟨named, naming, key⟩ := names
  rw [naming, Option.bind_some, InFlight.pending?, InFlight.find?_congr key] at showing
  obtain ⟨held, found, pending⟩ := Option.bind_eq_some_iff.mp showing
  rw [← pending]
  exact shown instanceId held (fun _ => nofun) found

namespace Run

/-- A computation that keeps the table apart from an own entry. -/
def Keeps (own : Option Value) (run : Run τ ω α) : Prop :=
  ∀ before, Kept own before (run before).2

namespace Keeps

variable {own : Option Value} {run : Run τ ω α} {next : α → Run τ ω β}

theorem pure (a : α) : (Pure.pure a : Run τ ω α).Keeps own := Upholds.pure (Kept.steady own) a

theorem halt (halt : Halt) : (throw halt : Run τ ω α).Keeps own :=
  Upholds.halt (Kept.steady own) halt

theorem fail (fault : Fault) : (Run.fail fault : Run τ ω α).Keeps own := halt (.fault fault)

theorem ofExcept (result : Except Fault α) : (Run.ofExcept result : Run τ ω α).Keeps own :=
  Upholds.ofExcept (Kept.steady own) result

theorem failThen (fault : Fault) : (Run.fail fault >>= next).Keeps own :=
  Upholds.failThen (Kept.steady own) fault

theorem afterExcept {result : Except Fault α} (rest : ∀ a, result = .ok a → (next a).Keeps own) :
    (Run.ofExcept result >>= next).Keeps own :=
  Upholds.afterExcept (Kept.steady own) rest

theorem bind (first : run.Keeps own) (rest : ∀ a, (next a).Keeps own) :
    (run >>= next).Keeps own :=
  Upholds.bind (Kept.steady own) first rest

theorem discard (kept : run.Keeps own) : (Functor.discard run).Keeps own :=
  Upholds.discard (Kept.steady own) kept

theorem catching {handler : Halt → Run τ ω α} (first : run.Keeps own)
    (handles : ∀ halt, (handler halt).Keeps own) : (tryCatch run handler).Keeps own :=
  Upholds.catching (Kept.steady own) first handles

theorem onKnownFault {notice : Fault → Run τ ω Unit} (kept : run.Keeps own)
    (notices : ∀ fault, (notice fault).Keeps own) : (run.onKnownFault notice).Keeps own :=
  Upholds.onKnownFault (Kept.steady own) kept notices

theorem quiet (quiet : run.Quiet) : run.Keeps own := by
  intro before
  obtain ⟨a, after, added, ran, same, extended, told⟩ := quiet before
  rw [ran]
  exact .of_silent same extended (told fun _ _ _ => False).balanced
    (told fun _ _ _ => False).silent

theorem log (record : LogRecord) : (Run.log record : Run τ ω Unit).Keeps own :=
  Upholds.log (Kept.steady own) record

theorem audit (entry : AuditEntry) : (Run.audit entry : Run τ ω Unit).Keeps own :=
  log entry.record

/-- A call shows what is pending for its instance, and so does all that runs inside of it. -/
theorem remote {surroundings : Surroundings τ ω} (keeps : surroundings.Keeps)
    (call : RemoteCall) : (Run.remote surroundings call).Keeps own := by
  intro before
  refine Kept.apart ?_ own
  let pending := call.instanceId?.bind before.inFlight.pending?
  have inside := keeps call (before.note (.called call pending))
  obtain ⟨inner, extended, balanced, shown⟩ := inside.grown
  let outcome := (surroundings.call call (before.note (.called call pending))).1
  refine ⟨inside.table,
    .called call pending :: (inner ++ [.answered call outcome]), ?_,
    .bracket call pending outcome balanced .nil, ?_⟩
  · change (Session.note (.answered call outcome) _).events = _
    rw [Session.events_note, extended, Session.events_note]
    simp only [List.append_assoc, List.cons_append, List.nil_append]
  · intro instanceId held foreign found called seen member names
    rcases List.mem_cons.mp member with same | inner
    · cases same
      obtain ⟨named, names, key⟩ := names
      simp only [pending, names, Option.bind_some, InFlight.pending?, InFlight.find?_congr key,
        found]
    · rcases List.mem_append.mp inner with inner | last
      · exact shown instanceId held foreign found called seen inner names
      · cases List.mem_singleton.mp last

theorem setPending (instanceId : Value) (pending : Option (PendingOperation τ)) :
    (Run.setPending instanceId pending : Run τ ω Unit).Keeps (some instanceId) :=
  fun _ => ⟨InFlight.release_hold _ _ _, [], (List.append_nil _).symm, .nil,
    fun _ _ _ _ _ _ => nofun⟩

theorem holdingAfter {instanceId : Value} (kept : run.Keeps (some instanceId))
    (pending : Option (PendingOperation τ)) :
    (run.followedBy fun session =>
      { session with inFlight := session.inFlight.hold instanceId pending }).Keeps
        (some instanceId) := by
  intro before
  exact (kept before).trans (setPending instanceId pending (run before).2)

/-- Holding an instance for a while leaves nothing behind. -/
theorem claiming {instanceId : Value} (kept : run.Keeps (some instanceId)) :
    (Run.claiming instanceId run).Keeps own := by
  intro before
  refine Kept.apart ?_ own
  cases keyed : instanceId.isKey with
  | false =>
      rw [claiming_unkeyed keyed]
      exact .refl none before
  | true =>
      cases found : before.inFlight.find? instanceId with
      | some held =>
          rw [claiming_held keyed found]
          exact .refl none before
      | none =>
          rw [claiming_free keyed found]
          let opened : Session τ ω :=
            { before with inFlight := before.inFlight.hold instanceId none }
          have body := kept opened
          obtain ⟨added, extended, balanced, shown⟩ := body.grown
          refine ⟨?_, added, extended, balanced, ?_⟩
          · have table : ((run opened).2.inFlight).release instanceId =
                (before.inFlight.hold instanceId none).release instanceId := body.table
            rw [InFlight.release_hold, InFlight.release_of_free found] at table
            exact table
          · intro other held _ foundOther
            have apart : InstanceKey.of other ≠ .of instanceId := by
              intro same
              rw [InFlight.find?_congr same, found] at foundOther
              cases foundOther
            refine shown other held (fun mine owned => ?_) ?_
            · cases owned
              exact apart
            · rw [InFlight.find?_hold_of_ne apart]
              exact foundOther

end Keeps

/-- An instance that is held meanwhile shows what is pending for it in every call on it. -/
theorem Tells.showing {run : Run τ ω α} {inside : Enclosure τ} {before : Session τ ω}
    {tale : List (Exchange τ) → List LogRecord → Except Halt α → Prop}
    (told : run.Tells inside before tale) (keeps : run.Keeps none) {instanceId : Value}
    {held : Held τ} (found : before.inFlight.find? instanceId = some held) :
    run.Tells inside before fun exchanges audits result => tale exchanges audits result ∧
      ∀ exchange ∈ exchanges, exchange.call.Names instanceId →
        exchange.pending = held.pending := by
  obtain ⟨added, xs, rs, extended, shape, holds⟩ := told
  obtain ⟨same, extendedToo, _, shown⟩ := (keeps before).grown
  have equal : same = added := List.append_cancel_left (extendedToo.symm.trans extended)
  subst equal
  refine ⟨same, xs, rs, extended, shape, holds, fun exchange member names => ?_⟩
  exact shown instanceId held (fun _ => nofun) found _ _ (shape.called_mem exchange member) names

end Run

variable [Timescale τ] {own : Option Value}

theorem Action.perform_keeps {surroundings : Surroundings τ ω} (keeps : surroundings.Keeps)
    (action : Action τ) (call : RemoteCall) :
    (action.perform surroundings (Run.remote surroundings call)).Keeps own :=
  perform_upholds (Kept.steady own) (Run.Keeps.remote keeps call) action

theorem Wait.perform_keeps {surroundings : Surroundings τ ω} (keeps : surroundings.Keeps)
    (horizon : Nat) (wait : Wait τ) : (wait.perform surroundings horizon).Keeps own :=
  perform_upholds (Kept.steady own) horizon wait (Run.Keeps.remote keeps _)

namespace Service

variable {service : Service τ ω}

theorem await_keeps (keeps : service.surroundings.Keeps) (start : τ) (budget : Budget τ)
    (wait : τ → Wait τ) : (service.await start budget wait).Keeps own :=
  await_upholds (Kept.steady own) start budget wait fun _ => Run.Keeps.remote keeps _

theorem mutate_keeps (keeps : service.surroundings.Keeps) (action : Action τ) (call : RemoteCall)
    {await : τ → Run τ ω InstanceStatus} (awaits : ∀ start, (await start).Keeps own) :
    (service.mutate action call await).Keeps own :=
  mutate_upholds (Kept.steady own) action (Run.Keeps.remote keeps call) awaits

theorem read_keeps (keeps : service.surroundings.Keeps) (instanceId : Value) :
    (service.read instanceId).Keeps own :=
  read_upholds (Kept.steady own) (Run.Keeps.remote keeps _)

theorem readExisting_keeps (keeps : service.surroundings.Keeps) (instanceId : Value)
    (kind : OperationKind) : (service.readExisting instanceId kind).Keeps own :=
  readExisting_upholds (Kept.steady own) (Run.Keeps.remote keeps _) kind

theorem announce_keeps (kind : OperationKind) (instanceId : Value) (clientToken : String)
    (budget : Budget τ) :
    (announce kind instanceId clientToken budget : Run τ ω Unit).Keeps (some instanceId) :=
  .bind (.ofExcept _) fun _ => .setPending instanceId _

theorem createAndWait_keeps (keeps : service.surroundings.Keeps) (spec : DesiredSpec)
    (budget : Budget τ) (clientToken : String) (start : τ) :
    (service.createAndWait spec budget clientToken start).Keeps own := by
  unfold createAndWait
  refine .bind (Action.perform_keeps keeps _ _) fun instanceId => ?_
  by_cases given : instanceId.isGiven
  · simp only [given, if_true]
    refine .bind (.claiming (.bind (announce_keeps _ _ _ _) fun _ => ?_)) fun _ => ?_
    · exact .discard (await_keeps keeps start budget _)
    · exact .bind (readExisting_keeps keeps instanceId .create) fun _ => .pure _
  · simp only [given]
    exact .failThen _

theorem create_keeps (keeps : service.surroundings.Keeps) (spec : DesiredSpec)
    (timeout : Option τ) : (service.create spec timeout).Keeps own := by
  unfold create
  refine .bind (.ofExcept _) fun budget => ?_
  refine .bind (.quiet (Run.draw_quiet _)) fun clientToken => ?_
  refine .bind (.log _) fun _ => .bind (.audit _) fun _ => ?_
  refine .bind (.quiet (Run.now_quiet _)) fun start => ?_
  refine .bind (.onKnownFault (createAndWait_keeps keeps _ _ _ _) fun _ => .audit _) fun _ => ?_
  exact .bind (.audit _) fun _ => .bind (.log _) fun _ => .pure _

theorem runStep_keeps (keeps : service.surroundings.Keeps) (step : Step) (budget : Budget τ) :
    (service.runStep step budget).Keeps (some (.text step.instanceId)) := by
  refine .bind (.quiet (Run.draw_quiet _)) fun clientToken => ?_
  refine .bind (.ofExcept _) fun call => ?_
  refine .bind (announce_keeps _ _ _ _) fun _ => ?_
  refine .bind (.log _) fun _ => ?_
  refine .holdingAfter (mutate_keeps keeps _ _ fun start => ?_) none
  exact .bind (.ofExcept _) fun _ => await_keeps keeps start budget _

theorem runReported_keeps (keeps : service.surroundings.Keeps) (step : Step) (budget : Budget τ)
    (completed : List Step) :
    (service.runReported step budget completed).Keeps (some (.text step.instanceId)) := by
  refine .bind (.catching (.discard (runStep_keeps keeps step budget)) fun reason => ?_)
    fun _ => .audit _
  cases reason with
  | unfinished => exact .halt _
  | fault fault =>
      cases fault with
      | known kind message details cause => exact .bind (.audit _) fun _ => .fail _
      | _ => exact .halt _

theorem runSteps_keeps (keeps : service.surroundings.Keeps) {instanceId : String}
    {row : List (Step × Budget τ)} (same : ∀ pair ∈ row, pair.1.instanceId = instanceId)
    (completed : List Step) : (service.runSteps completed row).Keeps (some (.text instanceId)) := by
  induction row generalizing completed with
  | nil => exact .pure ()
  | cons pair rest ih =>
      obtain ⟨step, budget⟩ := pair
      obtain rfl := same (step, budget) List.mem_cons_self
      refine .bind (runReported_keeps keeps step budget completed) fun _ => ?_
      exact ih (fun other member => same other (List.mem_cons_of_mem _ member)) _

theorem reconcile_keeps (keeps : service.surroundings.Keeps) (handle : InstanceHandle)
    (spec : DesiredSpec) (timeout : Option τ) :
    (service.reconcile handle spec timeout).Keeps own := by
  unfold reconcile
  refine .afterExcept fun steps plan => ?_
  by_cases unchanged : steps.isEmpty
  · simp only [unchanged, if_true]
    exact .bind (.log _) fun _ => .pure _
  · simp only [unchanged]
    refine .afterExcept fun row budgeted => .bind (.audit _) fun _ => ?_
    have same : ∀ pair ∈ row, pair.1.instanceId = handle.instanceId := by
      intro pair member
      have listed : pair.1 ∈ steps := by
        rw [← budgets_fst budgeted]
        exact List.mem_map_of_mem member
      exact (Plan.steps_sound plan pair.1 listed).1
    refine .bind (.claiming (runSteps_keeps keeps same [])) fun _ => ?_
    exact .bind (readExisting_keeps keeps _ _) fun _ => .bind (.audit _) fun _ => .pure _

theorem delete_keeps (keeps : service.surroundings.Keeps) (instanceId : Value)
    (timeout : Option τ) : (service.delete instanceId timeout).Keeps own := by
  unfold delete
  refine .bind (.ofExcept _) fun budget => .bind (.quiet (Run.draw_quiet _)) fun clientToken => ?_
  refine .bind (.audit _) fun _ => .bind (.onKnownFault ?_ fun _ => .audit _) fun status => ?_
  · refine .claiming (.bind (announce_keeps _ _ _ _) fun _ => ?_)
    exact mutate_keeps keeps _ _ fun start => await_keeps keeps start budget _
  · exact .bind (.audit _) fun _ => .bind (.log _) fun _ => .pure _

end Service

end CacheSteward
