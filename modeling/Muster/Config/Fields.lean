import Muster.Config

/-!
Reading a configuration out of a tree of values. A document format takes part by saying how one of
its values shows the fields of a section, a text and a count; what is missing takes its default.
-/

namespace Muster

/-- How the values of a document format are looked into. -/
structure FieldSource (α : Type) where
  fields? : List String → α → Option (List (Option α))
  text? : α → Option String
  count? : α → Option UInt32

namespace FieldSource

variable {α : Type} (source : FieldSource α)

def optional {β : Type} (read? : α → Option β) (default : β) : Option α → Option β
  | none => some default
  | some value => read? value

def master? (value : α) : Option MasterConfig := do
  let default : MasterConfig := {}
  match ← source.fields? ["host", "cpu", "memory"] value with
  | [host, cpu, memory] =>
    return {
      host := ← optional source.text? default.host host
      cpu := ← optional source.count? default.cpu cpu
      memory := ← optional source.text? default.memory memory }
  | _ => none

def worker? (value : α) : Option WorkerConfig := do
  let default : WorkerConfig := {}
  match ← source.fields? ["count", "cpu", "memory", "ramdisk_memory", "max_per_host"] value with
  | [count, cpu, memory, ramdiskMemory, maxPerHost] =>
    return {
      count := ← optional source.count? default.count count
      cpu := ← optional source.count? default.cpu cpu
      memory := ← optional source.text? default.memory memory
      ramdiskMemory := ← optional source.text? default.ramdiskMemory ramdiskMemory
      maxPerHost := ← optional source.count? default.maxPerHost maxPerHost }
  | _ => none

def resources? (value : α) : Option ResourcesConfig := do
  let default : ResourcesConfig := {}
  match ← source.fields? ["path", "tarball", "setup_script"] value with
  | [path, tarball, setupScript] =>
    return {
      path := ← optional source.text? default.path path
      tarball := ← optional source.text? default.tarball tarball
      setupScript := ← optional source.text? default.setupScript setupScript }
  | _ => none

def launch? (value : α) : Option LaunchConfig := do
  let default : LaunchConfig := {}
  match ← source.fields? ["env_prefix", "log_dir"] value with
  | [envPrefix, logDir] =>
    return {
      envPrefix := ← optional source.text? default.envPrefix envPrefix
      logDir := ← optional source.text? default.logDir logDir }
  | _ => none

def config? (value : α) : Option Config := do
  match ← source.fields? ["master", "worker", "resources", "launch"] value with
  | [master, worker, resources, launch] =>
    return {
      master := ← optional source.master? {} master
      worker := ← optional source.worker? {} worker
      resources := ← optional source.resources? {} resources
      launch := ← optional source.launch? {} launch }
  | _ => none

end FieldSource

end Muster
