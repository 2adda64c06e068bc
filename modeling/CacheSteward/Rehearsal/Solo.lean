import CacheSteward.Rehearsal.Run

namespace CacheSteward.Rehearsal

/-! Rehearsing a single wait or a single action, outside of any service. -/

structure SoloReport (α : Type) where
  result : Except Halt α
  events : List (Event Amount)
  now : Amount

namespace SoloReport

variable {α : Type}

def logs (report : SoloReport α) : List LogRecord := logsOf report.events

def sleeps (report : SoloReport α) : List Amount :=
  report.events.filterMap fun
    | .slept span => some span
    | _ => none

end SoloReport

def rehearseWait (horizon : Nat) (stage : Stage) (wait : Wait Amount) :
    SoloReport InstanceStatus :=
  let (result, session) := (wait.perform (surroundings fun _ => pure ()) horizon).run
    { world := stage }
  ⟨result, session.events, session.world.clock⟩

structure Take where
  takes : Amount
  outcome : Except Fault Value

structure Takes where
  clock : Amount
  coming : List Take
  calls : Nat := 0

namespace Takes

/-- The next outcome.  The last one repeats. -/
def next : List Take → Take × List Take
  | [] => (⟨.whole 0, .ok .null⟩, [])
  | [take] => (take, [take])
  | take :: rest => (take, rest)

def call : StateM Takes (Except Fault Value) := do
  let takes ← get
  let (take, coming) := next takes.coming
  set { clock := takes.clock.plus take.takes, coming, calls := takes.calls + 1 : Takes }
  return take.outcome

end Takes

def takeSurroundings : Surroundings Amount Takes :=
  .ofAnswers (fun _ => Takes.call) (fun takes => (takes.clock, takes))
    (fun span takes => { takes with clock := takes.clock.plus span }) tokenAfter

/-- Calls whose outcomes are given, with no call to the control plane behind them. -/
def takeCall : Run Amount Takes (Except Fault Value) := fun session =>
  let (outcome, world) := Takes.call.run session.world
  (.ok outcome, { session with world })

def rehearseAction (start : Amount) (coming : List Take) (action : Action Amount) :
    SoloReport Value × Nat :=
  let (result, session) := (action.perform takeSurroundings takeCall).run
    { world := { clock := start, coming } }
  (⟨result, session.events, session.world.clock⟩, session.world.calls)

end CacheSteward.Rehearsal
