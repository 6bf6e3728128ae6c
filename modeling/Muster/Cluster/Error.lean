import Muster.Container

/-!
What a simulated cluster refuses.
-/

namespace Muster

inductive ClusterError
  | notStarted
  | alreadyStarted
  | registrationRefused
  | unregistrationRefused
  | unknownContainer (id : ContainerId)
  | alreadyLaunched (id : ContainerId)
  | launchRefused (host : Host)
  /-- Nothing is there to deliver events in the background. -/
  | noRuntime
  deriving DecidableEq, Repr

def ClusterError.message : ClusterError → String
  | .notStarted => "resource manager client not started"
  | .alreadyStarted => "resource manager client already started"
  | .registrationRefused => "registration refused"
  | .unregistrationRefused => "unregistration refused"
  | .unknownContainer id => "unknown container: " ++ id.name
  | .alreadyLaunched id => s!"container {id.name} already launched"
  | .launchRefused host => s!"node manager on {host} refused the launch"
  | .noRuntime => "no tokio runtime to run event delivery on"

end Muster
