import Muster.Coordinator.Client
import Muster.Phase
import Muster.Text.Quoted

/-!
The journal of a coordinator: the calls it made and the events it logged, in one order. Each event
has a level, a message and fields, and is written on one line.
-/

namespace Muster

inductive Level
  | debug
  | info
  | warn
  | error
  deriving DecidableEq, Repr

def Level.label : Level → String
  | .debug => "DEBUG"
  | .info => "INFO"
  | .warn => "WARN"
  | .error => "ERROR"

inductive Event
  | registered (host : Host)
  | phaseChanged (phase : Phase)
  | requestingMaster (request : ContainerRequest) (host : Host)
  | waitingForMaster
  | requestingWorker (worker round : Nat) (request : ContainerRequest)
  | waitingForWorkers (outstanding round : Nat)
  | targetMissed (wanted rounds workers : Nat)
  | launched
  | noMasterContainer
  | surplusMasters (count : Nat)
  | launchingMaster (container : Container) (context : LaunchContext)
  | masterLaunched (address : String)
  | masterLaunchFailed (id : ContainerId) (cause : String)
  | releasing (container : Container) (haveEnough hostFull : Bool)
  | launchingWorker (container : Container) (worker : Nat)
  | workerRecorded (host : Host) (count total : Nat)
  | workerLaunchFailed (id : ContainerId) (cause : String)
  | requestAnswered (outstanding : Nat)
  | containerAborted (id : ContainerId)
  | containerCompleted (status : ContainerStatus)
  | shutdownRequested
  | managerError (cause : String)
  | unregisterFailed (cause : String)
  | stopped (status : FinalStatus)
  | alreadyStopped
  deriving DecidableEq, Repr

namespace Event

def level : Event → Level
  | phaseChanged _ | workerRecorded .. | requestAnswered _ | managerError _ | alreadyStopped =>
    .debug
  | noMasterContainer | surplusMasters _ => .warn
  | targetMissed .. | masterLaunchFailed .. | workerLaunchFailed .. | containerCompleted _
  | unregisterFailed _ => .error
  | _ => .info

def message : Event → String
  | registered _ => "application master registered"
  | phaseChanged _ => "phase changed"
  | requestingMaster .. => "requesting master container"
  | waitingForMaster => "waiting for master container to be allocated"
  | requestingWorker .. => "requesting worker container"
  | waitingForWorkers .. => "waiting for worker containers to be allocated"
  | targetMissed .. => "could not reach the worker target, proceeding with fewer workers"
  | launched => "master and workers are launched"
  | noMasterContainer => "master launch called with no containers"
  | surplusMasters _ => "multiple containers allocated for the master, releasing all but one"
  | launchingMaster .. => "launching master container"
  | masterLaunched _ => "master launched"
  | masterLaunchFailed .. => "error launching master container"
  | releasing .. => "releasing assigned container"
  | launchingWorker .. => "launching worker container"
  | workerRecorded .. => "worker recorded"
  | workerLaunchFailed .. => "error launching worker container"
  | requestAnswered _ => "worker request answered"
  | containerAborted _ => "aborted container"
  | containerCompleted _ => "container completed"
  | shutdownRequested => "shutdown requested"
  | managerError _ => "resource manager reported an error"
  | unregisterFailed _ => "failed to unregister application"
  | stopped _ => "application master stopped"
  | alreadyStopped => "application master already stopped"

/-- The names and the values of the fields. Lists of hosts are quoted; all else stands as it is. -/
def fields : Event → List (String × String)
  | registered host => [("host", host)]
  | phaseChanged phase => [("phase", phase.label)]
  | requestingMaster request host =>
    [("cpu", toString request.shape.vcores.toNat),
      ("memory_mb", toString request.shape.memoryMb.toNat), ("host", host),
      ("relax_locality", toString request.placement.relaxLocality)]
  | requestingWorker worker round request =>
    [("worker", toString worker), ("round", toString round),
      ("cpu", toString request.shape.vcores.toNat),
      ("memory_mb", toString request.shape.memoryMb.toNat),
      ("hosts", Text.bracketed (request.placement.hosts.map Text.quote))]
  | waitingForWorkers outstanding round =>
    [("outstanding", toString outstanding), ("round", toString round)]
  | targetMissed wanted rounds workers =>
    [("wanted", toString wanted), ("rounds", toString rounds), ("workers", toString workers)]
  | surplusMasters count => [("count", toString count)]
  | launchingMaster container context =>
    [("container", container.id.name), ("node", container.nodeHttpAddress),
      ("command", " ".intercalate context.commands)]
  | masterLaunched address => [("address", address)]
  | masterLaunchFailed id cause => [("container", id.name), ("error", cause)]
  | releasing container haveEnough hostFull =>
    [("host", container.host), ("container", container.id.name),
      ("have_enough", toString haveEnough), ("host_full", toString hostFull)]
  | launchingWorker container worker =>
    [("container", container.id.name), ("worker", toString worker),
      ("node", container.nodeHttpAddress)]
  | workerRecorded host count total =>
    [("host", host), ("count", toString count), ("total", toString total)]
  | workerLaunchFailed id cause => [("container", id.name), ("error", cause)]
  | requestAnswered outstanding => [("outstanding", toString outstanding)]
  | containerAborted id => [("container", id.name)]
  | containerCompleted status =>
    [("container", status.id.name), ("exit_status", status.exitStatus.render),
      ("diagnostics", status.diagnostics)]
  | managerError cause => [("error", cause)]
  | unregisterFailed cause => [("error", cause)]
  | stopped status => [("status", status.label)]
  | waitingForMaster | launched | noMasterContainer | shutdownRequested | alreadyStopped => []

def render (event : Event) : String :=
  event.fields.foldl (fun line field => line ++ " " ++ field.1 ++ "=" ++ field.2)
    (event.level.label ++ " " ++ event.message)

end Event

/-- An entry of the journal. A call that failed is recorded with the text of its failure. -/
inductive Entry
  | call (call : Call) (failure : Option String)
  | event (event : Event)
  deriving DecidableEq, Repr

end Muster
