import Muster.Container

/-!
Requests for containers: which process a container is wanted for, and where it may be placed.
-/

namespace Muster

inductive Role
  | master
  | worker
  deriving DecidableEq, Repr

namespace Role

/-- The priority of the role's requests. The resource manager takes relaxed and strict requests
only at different priorities, so the two differ. -/
def priority : Role → Priority
  | .master => ⟨0⟩
  | .worker => ⟨1⟩

def word : Role → String
  | .master => "master"
  | .worker => "worker"

end Role

structure PlacementConstraint where
  /-- The hosts to choose from; with none listed, any host will do. -/
  hosts : List Host := []
  /-- Whether a host that is not listed will do as well. -/
  relaxLocality : Bool := false
  deriving DecidableEq, Repr

def PlacementConstraint.accepts (constraint : PlacementConstraint) (host : Host) : Bool :=
  constraint.relaxLocality || constraint.hosts.isEmpty || constraint.hosts.contains host

structure ContainerRequest where
  role : Role
  shape : ResourceShape
  placement : PlacementConstraint
  racks : List String
  priority : Priority
  deriving DecidableEq, Repr

end Muster
