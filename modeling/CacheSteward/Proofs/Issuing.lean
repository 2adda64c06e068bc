import CacheSteward.Proofs.Ledger

namespace CacheSteward

/-! Which client tokens operations use.

An operation that calls with a token draws one before its first call, so that whatever runs inside
of its calls draws later ones.  Along the whole run this keeps the tokens of operations apart.
-/

variable {τ ω α β : Type} {genuine : Operated τ → Prop} {place : Place} {allowed : String → Prop}

/-- What lies between two sessions is in a ledger of operations that draw their tokens in between.
The calls of the place itself carry allowed tokens only. -/
def Accounted (genuine : Operated τ → Prop) (place : Place) (allowed : String → Prop)
    (before after : Session τ ω) : Prop :=
  ∃ added row, after.events = before.events ++ added ∧ Ledger genuine place added row ∧
    (∀ call ∈ place.calls added, ∀ clientToken, call.clientToken? = some clientToken →
      allowed clientToken) ∧
    Numbered before.drawn after.drawn row

namespace Accounted

variable {before middle after : Session τ ω}

theorem trans (first : Accounted genuine place allowed before middle)
    (second : Accounted genuine place allowed middle after) :
    Accounted genuine place allowed before after := by
  obtain ⟨added, row, extended, ledger, permitted, numbered⟩ := first
  obtain ⟨more, others, further, ledgerMore, permittedMore, numberedMore⟩ := second
  refine ⟨added ++ more, row ++ others, ?_, ledger.append ledgerMore, ?_,
    numbered.append numberedMore⟩
  · rw [further, extended, List.append_assoc]
  · rw [place.calls_append ledger.balanced]
    exact List.forall_mem_append.mpr ⟨permitted, permittedMore⟩

theorem weaken {weaker : String → Prop} (accounted : Accounted genuine place allowed before after)
    (implies : ∀ clientToken, allowed clientToken → weaker clientToken) :
    Accounted genuine place weaker before after := by
  obtain ⟨added, row, extended, ledger, permitted, numbered⟩ := accounted
  refine ⟨added, row, extended, ledger, ?_, numbered⟩
  intro call member clientToken carried
  exact implies _ (permitted call member clientToken carried)

/-- Whatever adds no call and takes no token back. -/
theorem of_silent {added : List (Event τ)} (extended : after.events = before.events ++ added)
    (ledger : Ledger genuine place added []) (silent : place.calls added = [])
    (le : before.drawn ≤ after.drawn) : Accounted genuine place allowed before after := by
  refine ⟨added, [], extended, ledger, ?_, .none le⟩
  rw [silent]
  exact fun _ member => absurd member List.not_mem_nil

/-- Whatever leaves the history alone. -/
theorem of_same (same : after.history = before.history) (le : before.drawn ≤ after.drawn) :
    Accounted genuine place allowed before after := by
  have extended : after.events = before.events ++ [] := by
    simp [Session.events, same]
  apply of_silent extended (.nil place) _ le
  cases place <;> rfl

theorem steady (genuine : Operated τ → Prop) (allowed : String → Prop) :
    Steady (Accounted genuine .within allowed : Session τ ω → Session τ ω → Prop) where
  refl session := of_same rfl (Nat.le_refl _)
  trans := trans
  turned session world := of_same rfl (Nat.le_refl _)
  slept session span := by
    have extended := Session.events_note (.slept span) session
    exact of_silent extended (.slept span (.nil .within)) rfl (Nat.le_refl _)
  logged session record := by
    have extended := Session.events_note (.logged record) session
    exact of_silent extended (.logged record (.nil .within)) rfl (Nat.le_refl _)

theorem untabled (table other : InFlight τ)
    (accounted : Accounted genuine place allowed { before with inFlight := table } after) :
    Accounted genuine place allowed before { after with inFlight := other } :=
  accounted

end Accounted

/-- Operations inside of a call draw their tokens after it. -/
def Surroundings.Accounts (genuine : Operated τ → Prop) (surroundings : Surroundings τ ω) : Prop :=
  ∀ call session,
    Accounted genuine .between (fun _ => False) session (surroundings.call call session).2

/-- What one operation does: none of its calls carries a token, or it draws one first and then uses
only that. -/
inductive Opened (genuine : Operated τ → Prop) (token : Nat → String)
    (before after : Session τ ω) : Prop where
  | bare (accounted : Accounted genuine .within (fun _ => False) before after)
  | drawing (accounted : Accounted genuine .within (· = token before.drawn)
      { before with drawn := before.drawn + 1 } after)

namespace Opened

variable {token : Nat → String} {before middle after : Session τ ω}

theorem followed (opened : Opened genuine token before middle)
    (rest : Accounted genuine .within (fun _ => False) middle after) :
    Opened genuine token before after := by
  cases opened with
  | bare accounted => exact .bare (accounted.trans rest)
  | drawing accounted => exact .drawing (accounted.trans (rest.weaken fun _ => False.elim))

theorem untabled (table other : InFlight τ)
    (opened : Opened genuine token { before with inFlight := table } after) :
    Opened genuine token before { after with inFlight := other } := by
  cases opened with
  | bare accounted => exact .bare accounted
  | drawing accounted => exact .drawing accounted

/-- A record in front of an operation's token. -/
theorem logged (record : LogRecord)
    (opened : Opened genuine token (before.note (.logged record)) after) :
    Opened genuine token before after := by
  have steady := Accounted.steady (ω := ω) genuine
  cases opened with
  | bare accounted => exact .bare ((steady _).trans ((steady _).logged before record) accounted)
  | drawing accounted =>
      let drawn : Session τ ω := { before with drawn := before.drawn + 1 }
      exact .drawing ((steady _).trans ((steady _).logged drawn record) accounted)

/-- The operation itself has a place in front of those inside of its calls. -/
theorem numbered (opened : Opened genuine token before after) (operation : Operation τ) :
    ∃ added inside, after.events = before.events ++ added ∧
      Ledger genuine .within added inside ∧
      (∀ call ∈ Place.within.calls added, ∀ clientToken, call.clientToken? = some clientToken →
        clientToken = token before.drawn) ∧
      Numbered before.drawn after.drawn (⟨operation, before.drawn, added⟩ :: inside) := by
  cases opened with
  | bare accounted =>
      obtain ⟨added, inside, extended, ledger, permitted, numbered⟩ := accounted
      refine ⟨added, inside, extended, ledger, ?_, .bare ?_ numbered⟩
      · intro call member clientToken carried
        exact (permitted call member clientToken carried).elim
      · intro stamped
        obtain ⟨call, member, clientToken, carried⟩ := stamped
        exact permitted call member clientToken carried
  | drawing accounted =>
      obtain ⟨added, inside, extended, ledger, permitted, numbered⟩ := accounted
      exact ⟨added, inside, extended, ledger, permitted, .drawing rfl numbered⟩

end Opened

namespace Run

variable {surroundings : Surroundings τ ω} {token : Nat → String}

/-- A call is accounted for together with all that runs inside of it. -/
theorem remote_accounted (accounts : surroundings.Accounts genuine) {call : RemoteCall}
    (permitted : ∀ clientToken, call.clientToken? = some clientToken → allowed clientToken) :
    (Run.remote surroundings call).Upholds (Accounted genuine .within allowed) := by
  intro before
  let pending := call.instanceId?.bind before.inFlight.pending?
  let outcome := (surroundings.call call (before.note (.called call pending))).1
  obtain ⟨inner, inside, extended, enclosed, _, numbered⟩ :=
    accounts call (before.note (.called call pending))
  have ledger : Ledger genuine .within
      (.called call pending :: (inner ++ [.answered call outcome])) (inside ++ []) :=
    .exchanged call pending outcome enclosed (.nil .within)
  refine ⟨.called call pending :: (inner ++ [.answered call outcome]), inside ++ [], ?_, ledger,
    ?_, ?_⟩
  · change (Session.note (.answered call outcome) _).events = _
    rw [Session.events_note, extended, Session.events_note]
    simp only [List.append_assoc, List.cons_append, List.nil_append]
  · have own : Place.within.calls
        (.called call pending :: (inner ++ [.answered call outcome])) = [call] := by
      simp only [Place.calls, enclosed.balanced.ownCalls_bracket, List.map_cons]
      rfl
    rw [own]
    intro other member
    obtain rfl := List.mem_singleton.mp member
    exact permitted
  · rw [List.append_nil]
    exact numbered

theorem remote_bare (accounts : surroundings.Accounts genuine) {call : RemoteCall}
    (bare : call.clientToken? = none) :
    (Run.remote surroundings call).Upholds (Accounted genuine .within allowed) := by
  apply remote_accounted accounts
  intro clientToken carried
  rw [bare] at carried
  cases carried

theorem setPending_accounted (instanceId : Value) (pending : Option (PendingOperation τ)) :
    (Run.setPending instanceId pending : Run τ ω Unit).Upholds
      (Accounted genuine .within allowed) :=
  fun _ => .of_same rfl (Nat.le_refl _)

theorem draw_accounted (surroundings : Surroundings τ ω) :
    (Run.draw surroundings).Upholds (Accounted genuine .within allowed) :=
  fun _ => .of_same rfl (Nat.le_succ _)

/-- A computation that draws a token first and uses no other. -/
theorem draw_opens {next : String → Run τ ω β}
    (rest : ∀ clientToken,
      (next clientToken).Upholds (Accounted genuine .within (· = clientToken))) :
    (Run.draw surroundings >>= next).Upholds (Opened genuine surroundings.token) :=
  fun before => .drawing (rest (surroundings.token before.drawn) _)

theorem bare_opens {run : Run τ ω α}
    (bare : run.Upholds (Accounted genuine .within fun _ => False)) :
    run.Upholds (Opened genuine token) :=
  fun before => .bare (bare before)

theorem bind_opens {run : Run τ ω α} {next : α → Run τ ω β}
    (first : run.Upholds (Opened genuine token))
    (rest : ∀ a, (next a).Upholds (Accounted genuine .within fun _ => False)) :
    (run >>= next).Upholds (Opened genuine token) :=
  Upholds.followed id Opened.followed first rest

theorem afterExcept_opens {result : Except Fault α} {next : α → Run τ ω β}
    (rest : ∀ a, result = .ok a → (next a).Upholds (Opened genuine token)) :
    (Run.ofExcept result >>= next).Upholds (Opened genuine token) := by
  cases result with
  | ok a => exact rest a rfl
  | error fault => exact bare_opens (Upholds.failThen (Accounted.steady _ _) fault)

theorem afterAudit_opens {entry : AuditEntry} {next : Unit → Run τ ω β}
    (rest : (next ()).Upholds (Opened genuine token)) :
    (Run.audit entry >>= next).Upholds (Opened genuine token) :=
  fun before => (rest (before.note (.logged entry.record))).logged entry.record

theorem catching_opens {run : Run τ ω α} {handler : Halt → Run τ ω α}
    (first : run.Upholds (Opened genuine token))
    (handles : ∀ halt, (handler halt).Upholds (Accounted genuine .within fun _ => False)) :
    (tryCatch run handler).Upholds (Opened genuine token) :=
  Upholds.caught id Opened.followed first handles

theorem discard_opens {run : Run τ ω α} (opens : run.Upholds (Opened genuine token)) :
    (Functor.discard run).Upholds (Opened genuine token) := by
  rw [discard_eq]
  exact bind_opens opens fun _ => Upholds.pure (Accounted.steady _ _) PUnit.unit

end Run

variable [Timescale τ]

open Run

namespace Service

variable {service : Service τ ω}

/-! ### Creating and deleting -/

theorem announce_accounted (kind : OperationKind) (instanceId : Value) (clientToken : String)
    (budget : Budget τ) :
    (announce kind instanceId clientToken budget : Run τ ω Unit).Upholds
      (Accounted genuine .within allowed) := by
  unfold announce
  apply Upholds.bind (Accounted.steady _ _) (Upholds.ofExcept (Accounted.steady _ _) _)
  intro pending
  exact setPending_accounted instanceId (some pending)

theorem await_accounted (accounts : service.surroundings.Accounts genuine) (start : τ)
    (budget : Budget τ) (wait : τ → Wait τ) :
    (service.await start budget wait).Upholds (Accounted genuine .within allowed) :=
  await_upholds (Accounted.steady _ _) start budget wait fun _ => remote_bare accounts rfl

theorem readExisting_accounted (accounts : service.surroundings.Accounts genuine)
    (instanceId : Value) (kind : OperationKind) :
    (service.readExisting instanceId kind).Upholds (Accounted genuine .within allowed) :=
  readExisting_upholds (Accounted.steady _ _) (remote_bare accounts rfl) kind

/-- Only the request itself carries the token. -/
theorem createAndWait_accounted (accounts : service.surroundings.Accounts genuine)
    (spec : DesiredSpec) (budget : Budget τ) (clientToken : String) (start : τ) :
    (service.createAndWait spec budget clientToken start).Upholds
      (Accounted genuine .within (· = clientToken)) := by
  have steady := Accounted.steady (ω := ω) genuine (· = clientToken)
  have requests : (Run.remote service.surroundings
      (.createInstance spec.createArgs clientToken)).Upholds
        (Accounted genuine .within (· = clientToken)) := by
    apply remote_accounted accounts
    intro carriedToken carried
    cases carried
    rfl
  unfold createAndWait
  apply Upholds.bind steady (Action.perform_upholds steady requests _)
  intro instanceId
  by_cases given : instanceId.isGiven
  · simp only [given, if_true]
    have waits := Upholds.bind steady (announce_accounted .create instanceId clientToken budget)
      fun _ => Upholds.discard steady (await_accounted accounts start budget
        (createdWait instanceId budget))
    apply Upholds.bind steady (Upholds.claiming instanceId steady.refl Accounted.untabled waits)
    intro _
    apply Upholds.bind steady (readExisting_accounted accounts instanceId .create)
    intro handle
    exact Upholds.pure steady _
  · simp only [given]
    exact Upholds.failThen steady _

theorem create_opens (accounts : service.surroundings.Accounts genuine) (spec : DesiredSpec)
    (timeout : Option τ) :
    (service.create spec timeout).Upholds (Opened genuine service.surroundings.token) := by
  unfold create
  apply afterExcept_opens
  intro budget _
  apply draw_opens
  intro clientToken
  have steady := Accounted.steady (ω := ω) genuine (· = clientToken)
  apply Upholds.bind steady (Upholds.log steady _)
  intro _
  apply Upholds.bind steady (Upholds.audit steady _)
  intro _
  apply Upholds.bind steady (Upholds.now steady _)
  intro start
  have created := createAndWait_accounted accounts spec budget clientToken start
  apply Upholds.bind steady (Upholds.onKnownFault steady created fun _ => Upholds.audit steady _)
  intro _
  apply Upholds.bind steady (Upholds.audit steady _)
  intro _
  exact Upholds.bind steady (Upholds.log steady _) fun _ => Upholds.pure steady _

theorem delete_opens (accounts : service.surroundings.Accounts genuine) (instanceId : Value)
    (timeout : Option τ) :
    (service.delete instanceId timeout).Upholds (Opened genuine service.surroundings.token) := by
  unfold delete deleteAndWait
  apply afterExcept_opens
  intro budget _
  apply draw_opens
  intro clientToken
  have steady := Accounted.steady (ω := ω) genuine (· = clientToken)
  have deletes : (Run.remote service.surroundings
      (.deleteInstance instanceId clientToken)).Upholds
        (Accounted genuine .within (· = clientToken)) := by
    apply remote_accounted accounts
    intro carriedToken carried
    cases carried
    rfl
  have mutates := Upholds.bind steady (announce_accounted .delete instanceId clientToken budget)
    fun _ => mutate_upholds steady (deleteAction instanceId budget clientToken) deletes
      fun start => await_accounted accounts start budget (goneWait instanceId budget)
  have claimed := Upholds.claiming instanceId steady.refl Accounted.untabled mutates
  apply Upholds.bind steady (Upholds.audit steady _)
  intro _
  apply Upholds.bind steady (Upholds.onKnownFault steady claimed fun _ => Upholds.audit steady _)
  intro status
  apply Upholds.bind steady (Upholds.audit steady _)
  intro _
  exact Upholds.bind steady (Upholds.log steady _) fun _ => Upholds.pure steady _

/-! ### Updating -/

theorem clientToken_of_callOf {step : Step} {clientToken : String} {call : RemoteCall}
    (called : callOf step clientToken = .ok call) :
    (step.kind = .rename ∧ call.clientToken? = some clientToken) ∨
      (step.kind ≠ .rename ∧ call.clientToken? = none) := by
  unfold callOf at called
  cases kind : step.kind with
  | rename =>
      rw [kind] at called
      obtain ⟨name, _, rfl⟩ := Fault.ok_of_map called
      exact .inl ⟨rfl, rfl⟩
  | resizeNodeType | resizeShardNum =>
      rw [kind] at called
      obtain ⟨value, _, rfl⟩ := Fault.ok_of_map called
      exact .inr ⟨nofun, rfl⟩
  | _ =>
      rw [kind] at called
      cases called

/-- A step draws its token and then calls with it, if its call carries one.  How the draw counts is
left open. -/
theorem runStep_upholds {R : Session τ ω → Session τ ω → Prop} {uses : String → String → Prop}
    (accounts : service.surroundings.Accounts genuine) (step : Step) (budget : Budget τ)
    (permitted : ∀ clientToken call, callOf step clientToken = .ok call → ∀ carriedToken,
      call.clientToken? = some carriedToken → uses clientToken carriedToken)
    (draws : ∀ next : String → Run τ ω InstanceStatus,
      (∀ clientToken, (next clientToken).Upholds (Accounted genuine .within (uses clientToken))) →
      (Run.draw service.surroundings >>= next).Upholds R) :
    (service.runStep step budget).Upholds R := by
  unfold runStep
  apply draws
  intro clientToken
  have steady := Accounted.steady (ω := ω) genuine (uses clientToken)
  apply Upholds.afterExcept steady
  intro call called
  apply Upholds.bind steady (announce_accounted step.kind _ clientToken budget)
  intro _
  apply Upholds.bind steady (Upholds.log steady _)
  intro _
  refine Upholds.followedBy (fun accounted => accounted) ?_
  apply mutate_upholds steady _ (remote_accounted accounts (permitted clientToken call called))
  intro start
  apply Upholds.bind steady (Upholds.ofExcept steady _)
  intro check
  exact await_accounted accounts start budget _

theorem runStep_opens (accounts : service.surroundings.Accounts genuine) (step : Step)
    (budget : Budget τ) :
    (service.runStep step budget).Upholds (Opened genuine service.surroundings.token) := by
  apply runStep_upholds accounts step budget _ fun _ rest => draw_opens rest
  intro clientToken call called carriedToken carried
  rcases clientToken_of_callOf called with ⟨_, stamped⟩ | ⟨_, bare⟩
  · rw [stamped] at carried
    cases carried
    rfl
  · rw [bare] at carried
    cases carried

/-- A resize draws a token that no call carries. -/
theorem runStep_bare (accounts : service.surroundings.Accounts genuine) {step : Step}
    (resizes : step.kind ≠ .rename) (budget : Budget τ) :
    (service.runStep step budget).Upholds (Accounted genuine .within fun _ => False) := by
  have steady := Accounted.steady (ω := ω) genuine fun _ => False
  apply runStep_upholds accounts step budget _ fun _ rest =>
    Upholds.bind steady (draw_accounted service.surroundings) rest
  intro clientToken call called carriedToken carried
  rcases clientToken_of_callOf called with ⟨renames, _⟩ | ⟨_, bare⟩
  · exact resizes renames
  · rw [bare] at carried
    cases carried

omit [Timescale τ] in
theorem reporting_bare (step : Step) (completed : List Step) (halt : Halt) :
    (reporting step completed halt : Run τ ω Unit).Upholds
      (Accounted genuine .within fun _ => False) := by
  have steady := Accounted.steady (ω := ω) genuine fun _ => False
  cases halt with
  | unfinished => exact Upholds.halt steady _
  | fault fault =>
      cases fault with
      | known kind message details cause =>
          exact Upholds.bind steady (Upholds.audit steady _) fun _ => Upholds.fail steady _
      | _ => exact Upholds.halt steady _

theorem runReported_opens (accounts : service.surroundings.Accounts genuine) (step : Step)
    (budget : Budget τ) (completed : List Step) :
    (service.runReported step budget completed).Upholds
      (Opened genuine service.surroundings.token) := by
  rw [runReported_eq]
  have ran := discard_opens (runStep_opens accounts step budget)
  apply bind_opens (catching_opens ran (reporting_bare step completed))
  intro _
  exact Upholds.audit (Accounted.steady _ _) _

theorem runReported_bare (accounts : service.surroundings.Accounts genuine) {step : Step}
    (resizes : step.kind ≠ .rename) (budget : Budget τ) (completed : List Step) :
    (service.runReported step budget completed).Upholds
      (Accounted genuine .within fun _ => False) := by
  have steady := Accounted.steady (ω := ω) genuine fun _ => False
  rw [runReported_eq]
  have ran := Upholds.discard steady (runStep_bare accounts resizes budget)
  apply Upholds.bind steady (Upholds.catching steady ran (reporting_bare step completed))
  intro _
  exact Upholds.audit steady _

theorem runSteps_bare (accounts : service.surroundings.Accounts genuine)
    {row : List (Step × Budget τ)} (resizes : ∀ pair ∈ row, pair.1.kind ≠ .rename)
    (completed : List Step) :
    (service.runSteps completed row).Upholds (Accounted genuine .within fun _ => False) := by
  have steady := Accounted.steady (ω := ω) genuine fun _ => False
  induction row generalizing completed with
  | nil => exact Upholds.pure steady ()
  | cons pair rest ih =>
      obtain ⟨step, budget⟩ := pair
      have first := resizes (step, budget) List.mem_cons_self
      apply Upholds.bind steady (runReported_bare accounts first budget completed)
      intro _
      exact ih (fun other member => resizes other (List.mem_cons_of_mem _ member)) _

/-- Only the first step can be a rename, so the first token drawn is the only one used. -/
theorem runSteps_opens (accounts : service.surroundings.Accounts genuine)
    {row : List (Step × Budget τ)} (resizes : ∀ pair ∈ row.tail, pair.1.kind ≠ .rename)
    (completed : List Step) :
    (service.runSteps completed row).Upholds (Opened genuine service.surroundings.token) := by
  cases row with
  | nil => exact bare_opens (Upholds.pure (Accounted.steady _ _) ())
  | cons pair rest =>
      apply bind_opens (runReported_opens accounts pair.1 pair.2 completed)
      intro _
      exact runSteps_bare accounts resizes _

theorem reconcile_opens (accounts : service.surroundings.Accounts genuine)
    (handle : InstanceHandle) (spec : DesiredSpec) (timeout : Option τ) :
    (service.reconcile handle spec timeout).Upholds
      (Opened genuine service.surroundings.token) := by
  have steady := Accounted.steady (ω := ω) genuine fun _ => False
  unfold reconcile
  apply afterExcept_opens
  intro steps plan
  by_cases unchanged : steps.isEmpty
  · simp only [unchanged, if_true]
    apply bare_opens
    exact Upholds.bind steady (Upholds.log steady _) fun _ => Upholds.pure steady _
  · simp only [unchanged]
    apply afterExcept_opens
    intro row budgeted
    apply afterAudit_opens
    have resizes : ∀ pair ∈ row.tail, pair.1.kind ≠ .rename := by
      intro pair member
      have listed : pair.1 ∈ (row.map Prod.fst).tail := by
        rw [← List.map_tail]
        exact List.mem_map_of_mem member
      rw [budgets_fst budgeted] at listed
      exact Plan.steps_tail_kind plan pair.1 listed
    have claimed := Upholds.claiming (.text handle.instanceId)
      (fun session => .bare (steady.refl session)) Opened.untabled
      (runSteps_opens accounts resizes [])
    apply bind_opens claimed
    intro _
    apply Upholds.bind steady (readExisting_accounted accounts _ .read)
    intro updated
    exact Upholds.bind steady (Upholds.audit steady _) fun _ => Upholds.pure steady _

/-- Every operation draws the token that it uses before its first call. -/
theorem operate_opens (accounts : service.surroundings.Accounts genuine)
    (operation : Operation τ) :
    (service.operate operation).Upholds (Opened genuine service.surroundings.token) := by
  have steady := Accounted.steady (ω := ω) genuine fun _ => False
  cases operation with
  | create spec timeout => exact discard_opens (create_opens accounts spec timeout)
  | read instanceId =>
      apply discard_opens (bare_opens _)
      exact read_upholds steady (remote_bare accounts rfl)
  | adopt instanceId =>
      apply discard_opens (bare_opens _)
      exact readExisting_accounted accounts instanceId .read
  | reconcile handle spec timeout =>
      exact discard_opens (reconcile_opens accounts handle spec timeout)
  | delete instanceId timeout => exact discard_opens (delete_opens accounts instanceId timeout)

/-! ### Runs -/

/-- An operation of a run of the service, whatever is conducted inside of its calls. -/
def Performs (service : Service τ ω) (operated : Operated τ) : Prop :=
  ∃ conduct before, operated.drawn = before.drawn ∧
    ((service.within conduct).operate operated.operation before).2.events =
      before.events ++ operated.events

end Service

/-- The induction is on the tree: an operation is accounted for when its own calls are. -/
theorem Conduct.accounted (service : Service τ ω) (conduct : Conduct τ ω)
    (session : Session τ ω) :
    Accounted service.Performs .between (fun _ => False) session
      (conduct.run service session).2 := by
  induction conduct generalizing session with
  | answer outcome world => exact .of_same rfl (Nat.le_refl _)
  | start operation within next withinIh nextIh =>
      have accounts : (service.within within).surroundings.Accounts service.Performs :=
        fun call session => withinIh call session session
      have opened := Service.operate_opens accounts operation session
      obtain ⟨added, inside, extended, enclosed, _, numbered⟩ := opened.numbered operation
      have performed : service.Performs ⟨operation, session.drawn, added⟩ :=
        ⟨within, session, rfl, extended⟩
      obtain ⟨more, row, further, ledger, _, numberedRest⟩ := nextIh
        ((service.within within).operate operation session).1
        ((service.within within).operate operation session).2
        ((service.within within).operate operation session).2
      refine ⟨added ++ more, ⟨operation, session.drawn, added⟩ :: (inside ++ row), ?_,
        .operated performed enclosed ledger, fun _ member => absurd member List.not_mem_nil,
        numbered.append numberedRest⟩
      rw [← List.append_assoc, ← extended]
      exact further

theorem Service.within_accounts (service : Service τ ω)
    (conduct : RemoteCall → Session τ ω → Conduct τ ω) :
    (service.within conduct).surroundings.Accounts service.Performs :=
  fun call session => (conduct call session).accounted service session

end CacheSteward
