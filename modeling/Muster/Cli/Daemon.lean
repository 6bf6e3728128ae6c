import Muster.Bringup
import Muster.Cli.Arguments
import Muster.Config.Toml

/-!
What the program does with its arguments: it prints the effective configuration, or brings a master
and workers up on a simulated cluster and runs until it is interrupted. The cluster's clock is its
heartbeats, so that a run is a value and takes no time of its own.
-/

namespace Muster.Cli

def Overrides.apply (overrides : Overrides) (config : Config) : Config :=
  { config with
    worker := { config.worker with
      count := overrides.workers.getD config.worker.count }
    master := { config.master with
      host := overrides.masterHost.getD config.master.host }
    resources := { config.resources with
      path := overrides.resourcePath.getD config.resources.path } }

/-- The effective configuration. The file has to be valid by itself, and so has the result. -/
def Overrides.load (overrides : Overrides) (readFile : String → Option ByteArray) :
    Except ConfigError Config := do
  let config ←
    match overrides.file with
    | none => .ok {}
    | some path =>
      match readFile path with
      | some bytes => Config.ofBytes bytes
      | none => .error .unreadable
  let config := overrides.apply config
  config.validate
  return config

inductive Failure
  | config (error : ConfigError)
  | bringup (error : BringupError)
  deriving DecidableEq, Repr

def Failure.message : Failure → String
  | .config error => error.message
  | .bringup error => error.message

def isSettled {σ : Type} (c : Coordinator σ) : Bool :=
  match c.control with
  | .finished _ | .awaitingShutdown => true
  | _ => false

/-- Lets heartbeats pass until the bring-up is settled, or until one delivers nothing and so all
later ones would. -/
def settle : (fuel : Nat) → Coordinator Cluster → Coordinator Cluster
  | 0, c => c
  | fuel + 1, c =>
    if isSettled c || c.env.heartbeat.1.isEmpty then c else settle fuel (Bringup.heartbeat c)

/-- The heartbeats that a bring-up of `target` workers may take: for the master, and for every
round as many as it has requests, with as many again in which only ends are delivered. -/
def patience (target : Nat) : Nat :=
  2 * (2 + Coordinator.maxRounds * (target + 1))

def conclude (outcome : Except BringupError Unit) (c : Coordinator Cluster) :
    Except Failure (Coordinator Cluster) :=
  let c := c.stopAfter Cluster.clients outcome
  match outcome with
  | .ok _ => .ok c
  | .error error => .error (.bringup error)

def await : (beats : Nat) → Coordinator Cluster → Coordinator Cluster
  | 0, c => c
  | beats + 1, c => if c.outcome?.isSome then c else await beats (Bringup.heartbeat c)

inductive Interrupts
  | onceSettled
  | every (milliseconds : Nat)
  deriving DecidableEq, Repr

/-- Interrupts a run until it ends. The first interrupt asks for a shutdown, which ends an
application that is up; a second one, `beats` heartbeats later, abandons a bring-up that is not
over. -/
def interrupted (beats : Nat) (c : Coordinator Cluster) : Except Failure (Coordinator Cluster) :=
  let c := await beats { c with env := c.env.requestShutdown }
  match c.outcome? with
  | some outcome => conclude outcome c
  | none => .ok (c.stop Cluster.clients .killed "interrupted before bring-up finished")

/-- Lets a run go on to its first interrupt; answers as well the heartbeats up to a second one. A
cluster without a heartbeat has none in any time. -/
def untilInterrupted (interrupts : Interrupts) (c : Coordinator Cluster) :
    Coordinator Cluster × Nat :=
  match interrupts with
  | .onceSettled => (settle (patience c.plan.limits.target) c, 1)
  | .every milliseconds =>
    let first := milliseconds / c.env.config.heartbeatMs
    let second := 2 * milliseconds / c.env.config.heartbeatMs
    (await first c, second - first)

def runPlan (plan : BringupPlan) (cluster : ClusterConfig) (interrupts : Interrupts) :
    Except Failure (Coordinator Cluster) :=
  match (Bringup.init plan cluster).start Cluster.clients with
  | (.error error, _) => .error (.bringup error)
  | (.ok _, c) =>
    let (c, beats) := untilInterrupted interrupts (c.request.resume Cluster.clients)
    match c.outcome? with
    | some outcome => conclude outcome c
    | none => interrupted beats c

def summary (c : Coordinator Cluster) : String :=
  let master := Text.quote (c.master.getD "-")
  let hosts := c.workerHosts.map fun (host, count) => "(" ++ Text.quote host ++ s!", {count})"
  s!"master={master} workers={c.workers} wanted={c.plan.limits.target} hosts=" ++
    Text.bracketed hosts

inductive Outcome
  | usageError
  | helped
  | printed (text : String)
  | ran (summary : String)
  | failed (failure : Failure)
  deriving DecidableEq, Repr

def Outcome.exitCode : Outcome → Nat
  | usageError => 2
  | failed _ => 1
  | helped | printed _ | ran _ => 0

def execute (readFile : String → Option ByteArray) (localHost : Host) (interrupts : Interrupts) :
    Invocation → Outcome
  | .help => .helped
  | .showConfig overrides =>
    match overrides.load readFile with
    | .ok config => .printed config.toToml
    | .error error => .failed (.config error)
  | .run overrides cluster =>
    match overrides.load readFile with
    | .error error => .failed (.config error)
    | .ok config =>
      match BringupPlan.ofConfig config localHost with
      | .error error => .failed (.bringup error)
      | .ok plan =>
        match runPlan plan cluster interrupts with
        | .ok c => .ran (summary c)
        | .error failure => .failed failure

def runCommand (readFile : String → Option ByteArray) (localHost : Host)
    (interrupts : Interrupts) (arguments : List String) : Outcome :=
  match parse? arguments with
  | none => .usageError
  | some invocation => execute readFile localHost interrupts invocation

end Muster.Cli
