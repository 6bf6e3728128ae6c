import Muster.Dict

/-!
What a node manager needs to start a process in a container.
-/

namespace Muster

structure LocalResource where
  uri : String
  deriving DecidableEq, Repr

/-- The commands to run, the files to copy first, by their names, and the environment. -/
structure LaunchContext where
  commands : List String := []
  localResources : Dict LocalResource := .empty
  environment : Dict String := .empty
  deriving DecidableEq, Repr

end Muster
