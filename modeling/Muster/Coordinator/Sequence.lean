import Muster.Coordinator.Delivery

/-!
The sequence of a bring-up. It requests the master and waits for its launch, requests workers in
rounds until there are enough or the last round is over, and then waits for a shutdown. Where it
waits it gives way, and looks at the state again when it is next resumed.
-/

namespace Muster.Coordinator

variable {σ : Type} (clients : Clients σ)

def maxRounds : Nat := 20

def finish (outcome : Except BringupError Unit) (c : Coordinator σ) : Coordinator σ :=
  { c with control := .finished outcome }

/-- Submits a request, and takes the containers that are handed out meanwhile. -/
def addRequest (request : ContainerRequest) (c : Coordinator σ) : Coordinator σ :=
  let (batches, env) := clients.addRequest request c.env
  let c := { c with env, journal := .call (.addRequest request) none :: c.journal }
  batches.foldl (fun c containers => c.onAllocated clients containers) c

def submitMaster (c : Coordinator σ) : Coordinator σ :=
  let request := c.plan.requests.forMaster
  let c := c.log (.requestingMaster request c.plan.requests.masterHost)
  ((c.addRequest clients request).advance .masterRequested).log .waitingForMaster

def submitWorkers (request : ContainerRequest) (round : Nat) :
    (worker count : Nat) → Coordinator σ → Coordinator σ
  | _, 0, c => c
  | worker, count + 1, c =>
    submitWorkers request round (worker + 1) count
      ((c.log (.requestingWorker worker round request)).addRequest clients request)

def awaitShutdown (c : Coordinator σ) : Coordinator σ :=
  if c.done.isOpen then (c.advance .shutdownRequested).finish (.ok ())
  else { c with control := .awaitingShutdown }

/-- Ends the rounds. Fewer workers than wanted are reported and the application runs with them. -/
def settle (rounds : Nat) (c : Coordinator σ) : Coordinator σ :=
  let outcome : RoundsOutcome := ⟨rounds, c.workers, c.plan.limits.target⟩
  let c :=
    if outcome.satisfied then c.advance .workersSatisfied
    else (c.log (.targetMissed outcome.target rounds outcome.workers)).advance .workersExhausted
  ((c.log .launched).advance .running).awaitShutdown

def submitRound (planned : Round) (round : Nat) (c : Coordinator σ) : Coordinator σ :=
  let request := c.plan.requests.forWorker planned.hosts
  let first := c.plan.limits.target - planned.needed
  let c := c.submitWorkers clients request round first planned.needed
  (c.advance (.workersRequesting round)).log (.waitingForWorkers planned.needed round)

def listHosts (c : Coordinator σ) : Except String HostSet × Coordinator σ :=
  let (known, batches, env) := clients.nodeHosts c.env
  let c := { c with env, journal := .call .nodeHosts (failure? known) :: c.journal }
  (known, batches.foldl (fun c containers => c.onAllocated clients containers) c)

/-- Runs up to `left` more rounds, each when the one before it is drained. -/
def runRounds : (left : Nat) → Coordinator σ → Coordinator σ
  | 0, c => c.settle maxRounds
  | left + 1, c =>
    let round := maxRounds - left
    if c.roster.hasEnough c.plan.limits then c.settle (round - 1)
    else
      match c.listHosts clients with
      | (.error cause, c) => c.finish (.error (.inventory cause))
      | (.ok known, c) =>
        match c.roster.nextRound c.plan.limits known with
        | .error error => c.finish (.error error)
        | .ok none => c.settle (round - 1)
        | .ok (some (planned, roster)) =>
          let c := { c with roster }.submitRound clients planned round
          if c.roster.gate.isDrained then runRounds left c
          else { c with control := .awaitingRound round }

def awaitMaster (c : Coordinator σ) : Coordinator σ :=
  if c.master.isSome then (c.advance .masterLaunched).runRounds clients maxRounds
  else { c with control := .awaitingMaster }

/-- Runs the sequence until it ends or has to wait. -/
def resume (c : Coordinator σ) : Coordinator σ :=
  match c.control with
  | .idle | .finished _ => c
  | .begun => (c.submitMaster clients).awaitMaster clients
  | .awaitingMaster => c.awaitMaster clients
  | .awaitingRound round =>
    if c.roster.gate.isDrained then c.runRounds clients (maxRounds - round) else c
  | .awaitingShutdown => c.awaitShutdown

end Muster.Coordinator
