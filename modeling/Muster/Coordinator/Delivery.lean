import Muster.Coordinator.State

/-!
What a coordinator does with what the resource manager delivers. The first container in which the
master can be launched becomes the master's; after that each container becomes a worker's, unless
there are workers enough or its host is full, and then it is handed back.
-/

namespace Muster.Coordinator

variable {σ : Type} (clients : Clients σ)

def release (id : ContainerId) (c : Coordinator σ) : Coordinator σ :=
  c.tell (.release id) (clients.release id)

def startContainer (container : Container) (context : LaunchContext) (c : Coordinator σ) :
    Except String Unit × Coordinator σ :=
  c.ask (.startContainer container context) (clients.startContainer container context)

def launchMasterIn (container : Container) (c : Coordinator σ) : Coordinator σ :=
  let context := c.plan.launch.forMaster
  match (c.log (.launchingMaster container context)).startContainer clients container context with
  | (.ok _, c) =>
    let address := container.netAddress
    { c.log (.masterLaunched address) with master := some address }
  | (.error cause, c) => c.log (.masterLaunchFailed container.id cause)

/-- Launches the master in the first of a batch of containers and hands the others back first. -/
def placeMaster (containers : List Container) (c : Coordinator σ) : Coordinator σ :=
  match containers with
  | [] => c.log .noMasterContainer
  | container :: [] => c.launchMasterIn clients container
  | container :: surplus =>
    let c := c.log (.surplusMasters containers.length)
    let c := surplus.foldl (fun c other => c.release clients other.id) c
    c.launchMasterIn clients container

def launchWorkerIn (context : LaunchContext) (container : Container) (c : Coordinator σ) :
    Coordinator σ :=
  match (c.log (.launchingWorker container c.workers)).startContainer clients container context with
  | (.ok _, c) =>
    let roster := c.roster.record container.host
    { c with roster }.log
      (.workerRecorded container.host (roster.placement.count container.host) roster.workers)
  | (.error cause, c) => c.log (.workerLaunchFailed container.id cause)

/-- Uses one container for a worker or hands it back. Either way one request of the round is
answered. -/
def placeWorker (context : LaunchContext) (container : Container) (c : Coordinator σ) :
    Coordinator σ :=
  let haveEnough := c.roster.hasEnough c.plan.limits
  let hostFull := c.roster.isHostFull c.plan.limits container.host
  let c :=
    if haveEnough || hostFull then
      (c.log (.releasing container haveEnough hostFull)).release clients container.id
    else c.launchWorkerIn clients context container
  let roster := c.roster.answer
  { c with roster }.log (.requestAnswered roster.gate.outstanding)

def onAllocated (containers : List Container) (c : Coordinator σ) : Coordinator σ :=
  match c.master with
  | none => c.placeMaster clients containers
  | some address =>
    let context := c.plan.launch.forWorker address
    containers.foldl (fun c container => c.placeWorker clients context container) c

/-- Takes note of the end of a container. Containers that are handed back end as aborted, which is
no error. -/
def onCompleted (status : ContainerStatus) (c : Coordinator σ) : Coordinator σ :=
  if status.exitStatus = .aborted then c.log (.containerAborted status.id)
  else c.log (.containerCompleted status)

def onShutdown (c : Coordinator σ) : Coordinator σ :=
  let (opened, done) := c.done.countDown
  let c := { c with done }
  if opened then (c.log .shutdownRequested).advance .shutdownRequested else c

def onError (cause : String) (c : Coordinator σ) : Coordinator σ :=
  c.log (.managerError cause)

inductive Delivery
  | allocated (containers : List Container)
  | completed (statuses : List ContainerStatus)
  | nodes (reports : List NodeReport)
  | shutdown
  | error (cause : String)
  deriving DecidableEq, Repr

def receive (delivery : Delivery) (c : Coordinator σ) : Coordinator σ :=
  match delivery with
  | .allocated containers => c.onAllocated clients containers
  | .completed statuses => statuses.foldl (fun c status => c.onCompleted status) c
  | .nodes _ => c
  | .shutdown => c.onShutdown
  | .error cause => c.onError cause

end Muster.Coordinator
