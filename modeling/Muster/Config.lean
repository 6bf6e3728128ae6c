import Muster.Config.Error
import Muster.Container

/-!
The configuration of a bring-up. Every setting has a default, so that an empty file is a valid
configuration; sizes of memory are texts such as `1024MB`.
-/

namespace Muster

/-- The name of the machine itself. A master on it may be placed on any host, which lets a setup of
a single node work without naming the node. -/
def bootstrapHost : Host := "localhost"

structure MasterConfig where
  host : Host := bootstrapHost
  cpu : UInt32 := 1
  memory : String := "1024MB"
  deriving DecidableEq, Repr

structure WorkerConfig where
  count : UInt32 := 1
  cpu : UInt32 := 1
  memory : String := "1024MB"
  /-- The memory for the worker's RAM disk, which is requested on top. -/
  ramdiskMemory : String := "1024MB"
  maxPerHost : UInt32 := 1
  deriving DecidableEq, Repr

structure ResourcesConfig where
  path : String := ""
  tarball : String := "app.tar.gz"
  setupScript : String := "app-yarn-setup.sh"
  deriving DecidableEq, Repr

structure LaunchConfig where
  envPrefix : String := "APP"
  /-- The directory of logs, a token that the node manager expands. -/
  logDir : String := "<LOG_DIR>"
  deriving DecidableEq, Repr

structure Config where
  master : MasterConfig := {}
  worker : WorkerConfig := {}
  resources : ResourcesConfig := {}
  launch : LaunchConfig := {}
  deriving DecidableEq, Repr

namespace Config

def megabytes (size : String) : Except ConfigError Nat :=
  ((Size.parse size).map (· / Size.megabyte)).mapError .invalidSize

def masterShape (config : Config) : Except ConfigError ResourceShape := do
  let memory ← megabytes config.master.memory
  return ⟨.ofNat memory, config.master.cpu⟩

def ramdiskMb (config : Config) : Except ConfigError Nat :=
  megabytes config.worker.ramdiskMemory

def workerShape (config : Config) : Except ConfigError ResourceShape := do
  let memory ← megabytes config.worker.memory
  let ramdisk ← config.ramdiskMb
  return ⟨.ofNat (memory + ramdisk), config.worker.cpu⟩

def relaxesMaster (config : Config) : Bool :=
  config.master.host == bootstrapHost

/-- Refuses the settings that a bring-up cannot work with; of several, the first in the order of
the conditions is reported. -/
def validate (config : Config) : Except ConfigError Unit :=
  if (Text.trim config.master.host).isEmpty then .error (.invalid .masterHostEmpty)
  else if config.master.cpu = 0 ∨ config.worker.cpu = 0 then .error (.invalid .cpuZero)
  else if config.worker.maxPerHost = 0 then .error (.invalid .maxPerHostZero)
  else do
    let _ ← config.masterShape
    let _ ← config.workerShape

end Config

end Muster
