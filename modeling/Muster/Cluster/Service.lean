import Muster.Cluster.Allocation

/-!
The calls on a simulated cluster: those of an application, as the services that a coordinator
expects, and those of whoever controls the simulation.
-/

namespace Muster.Cluster

def start (cluster : Cluster) : Except ClusterError Cluster :=
  if cluster.started then .error .alreadyStarted
  else if !cluster.config.hasRuntime then .error .noRuntime
  else .ok { cluster with
    started := true
    reports := cluster.config.hosts.map fun host => ⟨host, true⟩ }

/-- Stops the resource manager. What is queued stays queued. -/
def stop (cluster : Cluster) : Cluster :=
  { cluster with started := false }

def register (cluster : Cluster) (registration : Registration) : Except ClusterError Cluster :=
  if !cluster.started then .error .notStarted
  else if cluster.refusesRegistration then .error .registrationRefused
  else .ok { cluster with registration := some registration }

def unregister (cluster : Cluster) (status : FinalStatus) (diagnostics : String) :
    Except ClusterError Cluster :=
  if cluster.refusesUnregistration then .error .unregistrationRefused
  else .ok { cluster with finalStatus := some (status, diagnostics) }

def addRequest (cluster : Cluster) (request : ContainerRequest) : Cluster :=
  { cluster with
    requests := cluster.requests ++ [request]
    pending := cluster.pending ++ [request] }

def release (cluster : Cluster) (id : ContainerId) : Cluster :=
  match cluster.complete id .aborted "Container released by application" with
  | some ended => { ended with released := ended.released ++ [id] }
  | none => cluster

/-- Launches a process in a container that holds a slot and has none. A host that refuses launches
ends the container. -/
def startContainer (cluster : Cluster) (container : Container) (context : LaunchContext) :
    Except ClusterError Unit × Cluster :=
  match cluster.live.get? container.id.name with
  | none => (.error (.unknownContainer container.id), cluster)
  | some occupant =>
    if occupant.launched then (.error (.alreadyLaunched container.id), cluster)
    else if cluster.failingHosts.contains container.host then
      (.error (.launchRefused container.host),
        (cluster.complete container.id .invalid "launch failed").getD cluster)
    else
      (.ok (), { cluster with
        live := cluster.live.insert container.id.name { occupant with launched := true }
        launches := cluster.launches ++ [(container, context)] })

def startInventory (cluster : Cluster) : Cluster :=
  { cluster with inventoryStarted := true }

def stopInventory (cluster : Cluster) : Cluster :=
  { cluster with inventoryStarted := false }

def nodeHosts (cluster : Cluster) : Except ClusterError HostSet :=
  if cluster.inventoryStarted then .ok (.ofList cluster.config.hosts) else .error .notStarted

def requestShutdown (cluster : Cluster) : Cluster :=
  { cluster with shutdownPending := true }

def failLaunchesOn (cluster : Cluster) (host : Host) : Cluster :=
  { cluster with failingHosts := host :: cluster.failingHosts }

def finish (cluster : Cluster) (id : ContainerId) (status : ExitStatus) :
    Except ClusterError Cluster :=
  match cluster.live.get? id.name with
  | some ⟨_, true⟩ =>
    match cluster.complete id status "container exited" with
    | some ended => .ok ended
    | none => .error (.unknownContainer id)
  | _ => .error (.unknownContainer id)

/-- A call that fails leaves the cluster as it was, and answers the text of the failure. -/
def attempt (cluster : Cluster) (result : Except ClusterError Cluster) :
    Except String Unit × Cluster :=
  match result with
  | .ok cluster => (.ok (), cluster)
  | .error error => (.error error.message, cluster)

/-- The services of a coordinator. Events are delivered at heartbeats only, never within a call. -/
def clients : Clients Cluster where
  startNodeManager cluster := (.ok (), cluster)
  startResourceManager cluster := cluster.attempt cluster.start
  startInventory cluster := (.ok (), cluster.startInventory)
  register registration cluster := cluster.attempt (cluster.register registration)
  addRequest request cluster := ([], cluster.addRequest request)
  release id cluster := cluster.release id
  startContainer container context cluster :=
    let (result, cluster) := cluster.startContainer container context
    (result.mapError ClusterError.message, cluster)
  nodeHosts cluster := (cluster.nodeHosts.mapError ClusterError.message, [], cluster)
  unregister status diagnostics _ cluster := cluster.attempt (cluster.unregister status diagnostics)
  stopResourceManager := stop
  stopNodeManager := id
  stopInventory := stopInventory

end Muster.Cluster
