import Muster.Cluster.Error
import Muster.Coordinator.Client

/-!
The state of a simulated cluster: a resource manager with fixed hosts, each with a number of slots,
and what it has granted, launched and queued so far.
-/

namespace Muster

inductive PlacementPolicy
  | leastLoaded
  | firstFit
  deriving DecidableEq, Repr

structure ClusterConfig where
  /-- The hosts in the order of the inventory, which may repeat some. -/
  hosts : List Host
  slotsPerHost : Nat := 4
  /-- The milliseconds between two deliveries; with none, nothing is ever delivered. -/
  heartbeatMs : Nat := 500
  policy : PlacementPolicy := .leastLoaded
  surplusMaster : Nat := 0
  surplusWorkers : Nat := 0
  /-- Whether there is something to deliver events in the background. -/
  hasRuntime : Bool := true
  deriving DecidableEq, Repr

/-- A container that holds a slot, and whether a process was launched in it. One record stands for
the two collections of live and of launched containers: a launch needs a live container, and what
ends a container takes it from both, so that the launched ones are always live. -/
structure Occupant where
  container : Container
  launched : Bool
  deriving DecidableEq, Repr

structure Cluster where
  config : ClusterConfig
  /-- Whether the resource manager was started, and so delivers to an application. -/
  started : Bool := false
  inventoryStarted : Bool := false
  pending : List ContainerRequest := []
  requests : List ContainerRequest := []
  /-- The slots in use on each host that ever had one in use. -/
  slots : Dict Nat := .empty
  live : Dict Occupant := .empty
  launches : List (Container × LaunchContext) := []
  released : List ContainerId := []
  granted : Nat := 0
  completed : List ContainerStatus := []
  reports : List NodeReport := []
  shutdownPending : Bool := false
  registration : Option Registration := none
  finalStatus : Option (FinalStatus × String) := none
  refusesRegistration : Bool := false
  refusesUnregistration : Bool := false
  failingHosts : List Host := []
  /-- The containers still to be granted unasked, for each role. -/
  surplus : Role → Nat

namespace Cluster

def init (config : ClusterConfig) : Cluster where
  config
  surplus
    | .master => config.surplusMaster
    | .worker => config.surplusWorkers

def slotsUsed (cluster : Cluster) (host : Host) : Nat :=
  (cluster.slots.get? host).getD 0

def isFree (cluster : Cluster) (host : Host) : Bool :=
  cluster.slotsUsed host < cluster.config.slotsPerHost

def isRunning (cluster : Cluster) : Bool :=
  cluster.started && cluster.config.heartbeatMs != 0

def slotTable (cluster : Cluster) : List (Host × Nat) :=
  (HostSet.ofList cluster.config.hosts).toList.map fun host => (host, cluster.slotsUsed host)

/-- Ends a container that holds a slot: frees the slot and queues the report. A container that
holds none is left alone, and the answer tells the two apart. -/
def complete (cluster : Cluster) (id : ContainerId) (status : ExitStatus) (diagnostics : String) :
    Option Cluster :=
  match cluster.live.get? id.name with
  | none => none
  | some occupant =>
    let host := occupant.container.host
    some { cluster with
      live := cluster.live.erase id.name
      slots := cluster.slots.insert host (cluster.slotsUsed host - 1)
      completed := cluster.completed ++ [⟨id, status, diagnostics⟩] }

end Cluster

end Muster
