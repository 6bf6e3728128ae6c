import Muster.Config
import Muster.Coordinator.Error
import Muster.LaunchContext
import Muster.Request

/-!
What a coordinator asks the cluster for: the requests for containers and the contexts of launches.
Both come from templates that are filled in once from the configuration.
-/

namespace Muster

structure RequestTemplate where
  masterShape : ResourceShape
  workerShape : ResourceShape
  masterHost : Host
  relaxesMaster : Bool
  deriving DecidableEq, Repr

namespace RequestTemplate

def ofConfig (config : Config) : Except BringupError RequestTemplate := do
  let masterShape ← config.masterShape.mapError .config
  let workerShape ← config.workerShape.mapError .config
  return {
    masterShape
    workerShape
    masterHost := config.master.host
    relaxesMaster := config.relaxesMaster }

def forMaster (template : RequestTemplate) : ContainerRequest where
  role := .master
  shape := template.masterShape
  placement := ⟨[template.masterHost], template.relaxesMaster⟩
  racks := []
  priority := Role.master.priority

def forWorker (template : RequestTemplate) (hosts : List Host) : ContainerRequest where
  role := .worker
  shape := template.workerShape
  placement := ⟨hosts, false⟩
  racks := []
  priority := Role.worker.priority

end RequestTemplate

structure LaunchTemplate where
  /-- The directory of the files to ship, without slashes at its end. -/
  resourcePath : String
  tarball : String
  setupScript : String
  envPrefix : String
  logDir : String
  ramdiskBytes : Nat
  deriving DecidableEq, Repr

namespace LaunchTemplate

/-- A path without the white space at its ends and without slashes at its end. -/
def barePath (path : String) : String :=
  String.ofList (Text.dropEnd (· == '/') (Text.trimChars path.toList))

/-- Fails when the directory of the files to ship is blank, since no container could be launched
without them. -/
def ofConfig (config : Config) : Except BringupError LaunchTemplate :=
  let resourcePath := barePath config.resources.path
  if resourcePath.isEmpty then .error .resourcePathUnset
  else do
    let ramdiskMb ← config.ramdiskMb.mapError .config
    return {
      resourcePath
      tarball := config.resources.tarball
      setupScript := config.resources.setupScript
      envPrefix := config.launch.envPrefix
      logDir := config.launch.logDir
      ramdiskBytes := ramdiskMb * Size.megabyte }

/-- The shell command that starts the process of a role through the setup script. -/
def command (template : LaunchTemplate) (role : Role) : String :=
  let log := template.logDir
  s!"./{template.setupScript} {role.word} 1>{log}/stdout 2>{log}/stderr"

def shippedFiles (template : LaunchTemplate) : Dict LocalResource :=
  .ofList ([template.tarball, template.setupScript].map fun name =>
    (name, ⟨template.resourcePath ++ "/" ++ name⟩))

def variableName (template : LaunchTemplate) (name : String) : String :=
  template.envPrefix ++ "_" ++ name

def baseEnvironment (template : LaunchTemplate) : Dict String :=
  Dict.empty.insert (template.variableName "HOME") "$PWD"

def forMaster (template : LaunchTemplate) : LaunchContext where
  commands := [template.command .master]
  localResources := template.shippedFiles
  environment := template.baseEnvironment

def forWorker (template : LaunchTemplate) (masterAddress : String) : LaunchContext where
  commands := [template.command .worker]
  localResources := template.shippedFiles
  environment := (template.baseEnvironment.insert (template.variableName "MASTER_HOSTNAME")
    masterAddress).insert (template.variableName "WORKER_MEMORY_SIZE")
      (Size.format template.ramdiskBytes)

end LaunchTemplate

end Muster
