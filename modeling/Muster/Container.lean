import Muster.HostSet

/-!
Containers: the execution slots that a resource manager grants on the hosts of a cluster, and what
it reports about them and about the hosts.
-/

namespace Muster

/-- The importance of a request within the application; a lower level is more important. -/
structure Priority where
  level : UInt32
  deriving DecidableEq, Repr

structure ResourceShape where
  memoryMb : UInt64
  vcores : UInt32
  deriving DecidableEq, Repr

structure ContainerId where
  name : String
  deriving DecidableEq, Repr

/-- A granted slot. It is used once: either a process is launched in it or it is released. -/
structure Container where
  id : ContainerId
  host : Host
  nodeHttpAddress : String
  shape : ResourceShape
  priority : Priority
  deriving DecidableEq, Repr

/-- The part of the node manager's address before its first colon. -/
def Container.netAddress (container : Container) : String :=
  String.ofList (container.nodeHttpAddress.toList.takeWhile (· != ':'))

structure ExitStatus where
  code : Int32
  deriving DecidableEq, Repr

namespace ExitStatus

def success : ExitStatus := ⟨0⟩

/-- The process never ran. -/
def invalid : ExitStatus := ⟨-1000⟩

/-- The container was released, or the framework ended it. -/
def aborted : ExitStatus := ⟨-100⟩

def render (status : ExitStatus) : String :=
  toString status.code.toInt

end ExitStatus

structure ContainerStatus where
  id : ContainerId
  exitStatus : ExitStatus
  diagnostics : String
  deriving DecidableEq, Repr

structure NodeReport where
  host : Host
  healthy : Bool
  deriving DecidableEq, Repr

inductive FinalStatus
  | succeeded
  | failed
  | killed
  deriving DecidableEq, Repr

def FinalStatus.label : FinalStatus → String
  | .succeeded => "Succeeded"
  | .failed => "Failed"
  | .killed => "Killed"

end Muster
