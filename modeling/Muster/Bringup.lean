import Muster.Cluster.Action
import Muster.Coordinator.Action

/-!
A coordinator on a simulated cluster. At each heartbeat the cluster delivers to the coordinator, and
then the bring-up is resumed.
-/

namespace Muster.Bringup

def init (plan : BringupPlan) (config : ClusterConfig) : Coordinator Cluster :=
  .init plan (.init config)

def heartbeat (c : Coordinator Cluster) : Coordinator Cluster :=
  let (deliveries, env) := c.env.heartbeat
  let c := deliveries.foldl (fun c delivery => c.receive Cluster.clients delivery) { c with env }
  c.resume Cluster.clients

def tick : (beats : Nat) → Coordinator Cluster → Coordinator Cluster
  | 0, c => c
  | beats + 1, c => tick beats (heartbeat c)

inductive Step
  | perform (action : Coordinator.Action)
  | intervene (intervention : Cluster.Intervention)
  | tick (beats : Nat)
  deriving DecidableEq, Repr

inductive Reply
  | ofCoordinator (reply : Coordinator.Reply)
  | ofCluster (reply : Cluster.Reply)
  deriving DecidableEq, Repr

def take (step : Step) (c : Coordinator Cluster) : Reply × Coordinator Cluster :=
  match step with
  | .perform action =>
    let (reply, c) := c.perform Cluster.clients action
    (.ofCoordinator reply, c.resume Cluster.clients)
  | .intervene intervention =>
    let (reply, env) := c.env.intervene intervention
    (.ofCluster reply, { c with env }.resume Cluster.clients)
  | .tick beats => (.ofCoordinator .nothing, tick beats c)

end Muster.Bringup
