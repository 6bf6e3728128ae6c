import Muster.Coordinator.Journal
import Muster.Coordinator.Roster
import Muster.Coordinator.Template

/-!
The state of a coordinator, and the steps that everything else it does is made of: moving to a
phase, logging an event and making a call.
-/

namespace Muster

structure BringupPlan where
  limits : Limits
  requests : RequestTemplate
  launch : LaunchTemplate
  localHost : Host
  deriving DecidableEq, Repr

/-- The plan of a configuration. A configuration that is not valid is reported first, then a blank
directory of files. -/
def BringupPlan.ofConfig (config : Config) (localHost : Host) :
    Except BringupError BringupPlan := do
  config.validate.mapError .config
  let requests ← RequestTemplate.ofConfig config
  let launch ← LaunchTemplate.ofConfig config
  return {
    limits := ⟨config.worker.count.toNat, config.worker.maxPerHost.toNat⟩
    requests
    launch
    localHost }

/-- Where the sequence of a bring-up stands: the request for the master and its launch, the rounds
of workers, and the wait for the end. -/
inductive Control
  | idle
  | begun
  | awaitingMaster
  | awaitingRound (round : Nat)
  | awaitingShutdown
  | finished (outcome : Except BringupError Unit)
  deriving Repr

structure Coordinator (σ : Type) where
  plan : BringupPlan
  env : σ
  phase : Phase := .created
  master : Option String := none
  done : Latch := {}
  roster : Roster := {}
  control : Control := .idle
  /-- All calls and events, the newest first. -/
  journal : List Entry := []

namespace Coordinator

variable {σ : Type}

def workers (c : Coordinator σ) : Nat :=
  c.roster.workers

def workerHosts (c : Coordinator σ) : List (Host × Nat) :=
  c.roster.placement.hosts

def log (event : Event) (c : Coordinator σ) : Coordinator σ :=
  { c with journal := .event event :: c.journal }

/-- Moves to a phase, unless that would not be a move forward. -/
def advance (next : Phase) (c : Coordinator σ) : Coordinator σ :=
  if c.phase.precedes next then { c with phase := next }.log (.phaseChanged next) else c

def tell (call : Call) (act : σ → σ) (c : Coordinator σ) : Coordinator σ :=
  { c with env := act c.env, journal := .call call none :: c.journal }

def failure? {α : Type} : Except String α → Option String
  | .error cause => some cause
  | .ok _ => none

def ask {α : Type} (call : Call) (act : σ → Except String α × σ) (c : Coordinator σ) :
    Except String α × Coordinator σ :=
  let (result, env) := act c.env
  (result, { c with env, journal := .call call (failure? result) :: c.journal })

end Coordinator

end Muster
