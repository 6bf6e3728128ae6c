import Muster.Cluster.Service

/-!
All that can happen to a simulated cluster, one call or some heartbeats at a time.
-/

namespace Muster.Cluster

open Coordinator (Delivery)

/-- What whoever controls the simulation can do. -/
inductive Intervention
  | requestShutdown
  | failLaunchesOn (host : Host)
  | refuseRegistration
  | refuseUnregistration
  | finish (id : ContainerId) (status : ExitStatus)
  | slotsUsed (host : Host)
  deriving DecidableEq, Repr

inductive Action
  | start
  | stop
  | tick (beats : Nat)
  | register (registration : Registration)
  | unregister (status : FinalStatus) (diagnostics : String)
  | add (request : ContainerRequest) (times : Nat)
  | release (id : ContainerId)
  | launch (container : Container) (context : LaunchContext)
  | startNodeManager
  | stopNodeManager
  | startInventory
  | stopInventory
  | nodeHosts
  | intervene (intervention : Intervention)
  deriving DecidableEq, Repr

inductive Reply
  | nothing
  | done
  | failed (error : ClusterError)
  | hosts (hosts : HostSet)
  | count (count : Nat)
  deriving DecidableEq, Repr

def tick : (beats : Nat) → Cluster → List Delivery × Cluster
  | 0, cluster => ([], cluster)
  | beats + 1, cluster =>
    let (first, cluster) := cluster.heartbeat
    let (rest, cluster) := tick beats cluster
    (first ++ rest, cluster)

def addRequests (request : ContainerRequest) : (times : Nat) → Cluster → Cluster
  | 0, cluster => cluster
  | times + 1, cluster => addRequests request times (cluster.addRequest request)

def settle (cluster : Cluster) : Except ClusterError Cluster → Reply × Cluster
  | .ok cluster => (.done, cluster)
  | .error error => (.failed error, cluster)

def intervene (intervention : Intervention) (cluster : Cluster) : Reply × Cluster :=
  match intervention with
  | .requestShutdown => (.nothing, cluster.requestShutdown)
  | .failLaunchesOn host => (.nothing, cluster.failLaunchesOn host)
  | .refuseRegistration => (.nothing, { cluster with refusesRegistration := true })
  | .refuseUnregistration => (.nothing, { cluster with refusesUnregistration := true })
  | .finish id status => cluster.settle (cluster.finish id status)
  | .slotsUsed host => (.count (cluster.slotsUsed host), cluster)

/-- Lets an action happen: answers its reply, what is delivered, and the cluster after it. -/
def perform (action : Action) (cluster : Cluster) : Reply × List Delivery × Cluster :=
  let quiet (result : Reply × Cluster) := (result.1, [], result.2)
  match action with
  | .start => quiet (cluster.settle cluster.start)
  | .stop => quiet (.nothing, cluster.stop)
  | .tick beats =>
    let (deliveries, cluster) := tick beats cluster
    (.nothing, deliveries, cluster)
  | .register registration => quiet (cluster.settle (cluster.register registration))
  | .unregister status diagnostics => quiet (cluster.settle (cluster.unregister status diagnostics))
  | .add request times => quiet (.nothing, addRequests request times cluster)
  | .release id => quiet (.nothing, cluster.release id)
  | .launch container context =>
    match cluster.startContainer container context with
    | (.ok _, cluster) => quiet (.done, cluster)
    | (.error error, cluster) => quiet (.failed error, cluster)
  | .startNodeManager => quiet (.done, cluster)
  | .stopNodeManager => quiet (.nothing, cluster)
  | .startInventory => quiet (.done, cluster.startInventory)
  | .stopInventory => quiet (.nothing, cluster.stopInventory)
  | .nodeHosts =>
    match cluster.nodeHosts with
    | .ok hosts => quiet (.hosts hosts, cluster)
    | .error error => quiet (.failed error, cluster)
  | .intervene intervention => quiet (cluster.intervene intervention)

end Muster.Cluster
