import Muster.Cluster.State
import Muster.Coordinator.Delivery

/-!
How the simulated resource manager grants containers. At each heartbeat it goes through the pending
requests once, in order, and grants those for which a host has a free slot; then it delivers what
has queued up.
-/

namespace Muster.Cluster

open Coordinator (Delivery)

/-- The least loaded of some hosts, the first of several. -/
def leastLoaded (load : Host → Nat) : List Host → Option Host
  | [] => none
  | host :: rest =>
    match leastLoaded load rest with
    | none => some host
    | some other => if load host ≤ load other then some host else some other

/-- The hosts with a free slot that a request may be placed on: those it lists, or, when none of
them is free, all that its constraint accepts. -/
def fittingHosts (cluster : Cluster) (placement : PlacementConstraint) : List Host :=
  let free := cluster.config.hosts.filter cluster.isFree
  let listed := free.filter placement.hosts.contains
  if listed.isEmpty then free.filter placement.accepts else listed

def chooseHost (cluster : Cluster) (placement : PlacementConstraint) : Option Host :=
  let hosts := cluster.fittingHosts placement
  match cluster.config.policy with
  | .firstFit => hosts.head?
  | .leastLoaded => leastLoaded cluster.slotsUsed hosts

def containerName (index : Nat) : String :=
  let digits := Nat.toDigits 10 index
  "container_sim_" ++ String.ofList (List.replicate (6 - digits.length) '0' ++ digits)

def grant (cluster : Cluster) (host : Host) (request : ContainerRequest) : Container × Cluster :=
  let index := cluster.granted + 1
  let container : Container := {
    id := ⟨containerName index⟩
    host
    nodeHttpAddress := host ++ ":8042"
    shape := request.shape
    priority := request.priority }
  (container, { cluster with
    granted := index
    slots := cluster.slots.insert host (cluster.slotsUsed host + 1)
    live := cluster.live.insert container.id.name ⟨container, false⟩ })

def grantExtra (request : ContainerRequest) :
    (extra : Nat) → Cluster → List Container × Cluster
  | 0, cluster => ([], cluster)
  | extra + 1, cluster =>
    match cluster.chooseHost request.placement with
    | none => ([], cluster)
    | some host =>
      let (container, cluster) := cluster.grant host request
      let (others, cluster) := grantExtra request extra cluster
      (container :: others, cluster)

/-- Grants what is to be granted unasked along with a container of a role. It is granted only once,
whether or not there was room for all of it. -/
def grantSurplus (cluster : Cluster) (request : ContainerRequest) : List Container × Cluster :=
  let surplus := fun role => if role = request.role then 0 else cluster.surplus role
  grantExtra request (cluster.surplus request.role) { cluster with surplus }

def grantAll : List ContainerRequest → Cluster →
    List Container × List ContainerRequest × Cluster
  | [], cluster => ([], [], cluster)
  | request :: rest, cluster =>
    match cluster.chooseHost request.placement with
    | none =>
      let (containers, waiting, cluster) := grantAll rest cluster
      (containers, request :: waiting, cluster)
    | some host =>
      let (container, cluster) := cluster.grant host request
      let (extra, cluster) := cluster.grantSurplus request
      let (containers, waiting, cluster) := grantAll rest cluster
      (container :: extra ++ containers, waiting, cluster)

def allocate (cluster : Cluster) : List Container × Cluster :=
  let (containers, waiting, cluster) := grantAll cluster.pending cluster
  (containers, { cluster with pending := waiting })

def deliver {α : Type} (delivery : List α → Delivery) : List α → List Delivery
  | [] => []
  | items => [delivery items]

/-- One heartbeat: reports about hosts, ends of containers, new containers and a request for a
shutdown, in this order and each only when there is one. -/
def heartbeat (cluster : Cluster) : List Delivery × Cluster :=
  if cluster.isRunning then
    let (containers, allocated) := cluster.allocate
    (deliver .nodes cluster.reports ++ deliver .completed cluster.completed ++
        deliver .allocated containers ++ (if cluster.shutdownPending then [.shutdown] else []),
      { allocated with reports := [], completed := [], shutdownPending := false })
  else ([], cluster)

end Muster.Cluster
