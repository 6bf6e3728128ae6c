import Muster.HostSet
import Muster.LaunchContext
import Muster.Request

/-!
The services around a coordinator, as it sees them: a resource manager, the node managers and an
inventory of the hosts. What stands behind them is a state of any type, which each call may change.
-/

namespace Muster

structure Registration where
  host : Host
  port : Nat
  trackingUrl : String
  deriving DecidableEq, Repr

/-- The calls that a coordinator makes. A call that can fail answers the text of the failure. -/
structure Clients (σ : Type) where
  startNodeManager : σ → Except String Unit × σ
  startResourceManager : σ → Except String Unit × σ
  startInventory : σ → Except String Unit × σ
  register : Registration → σ → Except String Unit × σ
  /-- Submits a request. Containers that the resource manager hands out before the call returns are
  answered with it, batch by batch. -/
  addRequest : ContainerRequest → σ → List (List Container) × σ
  release : ContainerId → σ → σ
  startContainer : Container → LaunchContext → σ → Except String Unit × σ
  /-- Lists the hosts. Containers that are handed out before the call returns come with the answer,
  as they do for a request. -/
  nodeHosts : σ → Except String HostSet × List (List Container) × σ
  unregister : FinalStatus → String → String → σ → Except String Unit × σ
  stopResourceManager : σ → σ
  stopNodeManager : σ → σ
  stopInventory : σ → σ

inductive Call
  | startNodeManager
  | startResourceManager
  | startInventory
  | register (registration : Registration)
  | addRequest (request : ContainerRequest)
  | release (id : ContainerId)
  | startContainer (container : Container) (context : LaunchContext)
  | nodeHosts
  | unregister (status : FinalStatus) (diagnostics trackingUrl : String)
  | stopResourceManager
  | stopNodeManager
  | stopInventory
  deriving DecidableEq, Repr

end Muster
