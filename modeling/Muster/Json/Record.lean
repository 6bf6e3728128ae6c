import Muster.Config.Fields
import Muster.Json
import Muster.LaunchContext
import Muster.Request

/-!
The records of the library as JSON values. Each type has an encoding `toJson`, and a reader
`ofJson?` that accepts it along with every other spelling of the same record: fields in any order
or by position, and members that the record does not know.
-/

namespace Muster

open Json

namespace Role

def toJson (role : Role) : Json :=
  string role.word

def ofJson? (json : Json) : Option Role := do
  match ← alternative? json with
  | "master" => some .master
  | "worker" => some .worker
  | _ => none

end Role

namespace Priority

def toJson (priority : Priority) : Json :=
  integer priority.level.toNat

def ofJson? (json : Json) : Option Priority :=
  (uint32? json).map .mk

end Priority

namespace ResourceShape

def toJson (shape : ResourceShape) : Json :=
  object [("memory_mb", integer shape.memoryMb.toNat), ("vcores", integer shape.vcores.toNat)]

def ofJson? (json : Json) : Option ResourceShape := do
  match ← fields? ["memory_mb", "vcores"] json with
  | [memoryMb, vcores] => return ⟨← uint64? memoryMb, ← uint32? vcores⟩
  | _ => none

end ResourceShape

namespace PlacementConstraint

def toJson (constraint : PlacementConstraint) : Json :=
  object [("hosts", array (constraint.hosts.map string)),
    ("relax_locality", bool constraint.relaxLocality)]

def ofJson? (json : Json) : Option PlacementConstraint := do
  match ← fields? ["hosts", "relax_locality"] json with
  | [hosts, relaxLocality] => return ⟨← list? text? hosts, ← bool? relaxLocality⟩
  | _ => none

end PlacementConstraint

namespace ContainerRequest

def toJson (request : ContainerRequest) : Json :=
  object [("role", request.role.toJson), ("shape", request.shape.toJson),
    ("placement", request.placement.toJson), ("racks", array (request.racks.map string)),
    ("priority", request.priority.toJson)]

def ofJson? (json : Json) : Option ContainerRequest := do
  match ← fields? ["role", "shape", "placement", "racks", "priority"] json with
  | [role, shape, placement, racks, priority] =>
    return ⟨← Role.ofJson? role, ← ResourceShape.ofJson? shape,
      ← PlacementConstraint.ofJson? placement, ← list? text? racks, ← Priority.ofJson? priority⟩
  | _ => none

end ContainerRequest

namespace ContainerId

def toJson (id : ContainerId) : Json :=
  string id.name

def ofJson? (json : Json) : Option ContainerId :=
  (text? json).map .mk

end ContainerId

namespace Container

def toJson (container : Container) : Json :=
  object [("id", container.id.toJson), ("host", string container.host),
    ("node_http_address", string container.nodeHttpAddress), ("shape", container.shape.toJson),
    ("priority", container.priority.toJson)]

def ofJson? (json : Json) : Option Container := do
  match ← fields? ["id", "host", "node_http_address", "shape", "priority"] json with
  | [id, host, nodeHttpAddress, shape, priority] =>
    return ⟨← ContainerId.ofJson? id, ← text? host, ← text? nodeHttpAddress,
      ← ResourceShape.ofJson? shape, ← Priority.ofJson? priority⟩
  | _ => none

end Container

namespace ExitStatus

def toJson (status : ExitStatus) : Json :=
  integer status.code.toInt

def ofJson? (json : Json) : Option ExitStatus :=
  (int32? json).map .mk

end ExitStatus

namespace ContainerStatus

def toJson (status : ContainerStatus) : Json :=
  object [("id", status.id.toJson), ("exit_status", status.exitStatus.toJson),
    ("diagnostics", string status.diagnostics)]

def ofJson? (json : Json) : Option ContainerStatus := do
  match ← fields? ["id", "exit_status", "diagnostics"] json with
  | [id, exitStatus, diagnostics] =>
    return ⟨← ContainerId.ofJson? id, ← ExitStatus.ofJson? exitStatus, ← text? diagnostics⟩
  | _ => none

end ContainerStatus

namespace NodeReport

def toJson (report : NodeReport) : Json :=
  object [("host", string report.host), ("healthy", bool report.healthy)]

def ofJson? (json : Json) : Option NodeReport := do
  match ← fields? ["host", "healthy"] json with
  | [host, healthy] => return ⟨← text? host, ← bool? healthy⟩
  | _ => none

end NodeReport

namespace FinalStatus

def toJson : FinalStatus → Json
  | .succeeded => string "succeeded"
  | .failed => string "failed"
  | .killed => string "killed"

def ofJson? (json : Json) : Option FinalStatus := do
  match ← alternative? json with
  | "succeeded" => some .succeeded
  | "failed" => some .failed
  | "killed" => some .killed
  | _ => none

end FinalStatus

namespace Dict

variable {α : Type}

def toJson (valueToJson : α → Json) (dict : Dict α) : Json :=
  object (dict.entries.map fun entry => (entry.1, valueToJson entry.2))

/-- Only an object is a dictionary; of several members with one key the last counts. -/
def ofJson? (valueOfJson? : Json → Option α) : Json → Option (Dict α)
  | object members => do
    let entries ← members.mapM fun entry => return (entry.1, ← valueOfJson? entry.2)
    return ofList entries
  | _ => none

end Dict

namespace LocalResource

def toJson (resource : LocalResource) : Json :=
  object [("uri", string resource.uri)]

def ofJson? (json : Json) : Option LocalResource := do
  match ← fields? ["uri"] json with
  | [uri] => return ⟨← text? uri⟩
  | _ => none

end LocalResource

namespace LaunchContext

def toJson (context : LaunchContext) : Json :=
  object [("commands", array (context.commands.map string)),
    ("local_resources", context.localResources.toJson LocalResource.toJson),
    ("environment", context.environment.toJson string)]

def ofJson? (json : Json) : Option LaunchContext := do
  match ← fields? ["commands", "local_resources", "environment"] json with
  | [commands, localResources, environment] =>
    return ⟨← list? text? commands, ← Dict.ofJson? LocalResource.ofJson? localResources,
      ← Dict.ofJson? text? environment⟩
  | _ => none

end LaunchContext

namespace Config

def toJson (config : Config) : Json :=
  object [
    ("master", object [("host", string config.master.host),
      ("cpu", integer config.master.cpu.toNat), ("memory", string config.master.memory)]),
    ("worker", object [("count", integer config.worker.count.toNat),
      ("cpu", integer config.worker.cpu.toNat), ("memory", string config.worker.memory),
      ("ramdisk_memory", string config.worker.ramdiskMemory),
      ("max_per_host", integer config.worker.maxPerHost.toNat)]),
    ("resources", object [("path", string config.resources.path),
      ("tarball", string config.resources.tarball),
      ("setup_script", string config.resources.setupScript)]),
    ("launch", object [("env_prefix", string config.launch.envPrefix),
      ("log_dir", string config.launch.logDir)])]

/-- How a configuration is looked for in JSON: what is left out takes its default. -/
def jsonSource : FieldSource Json where
  fields? := settings?
  text? := Json.text?
  count? := uint32?

def ofJson? (json : Json) : Option Config :=
  jsonSource.config? json

end Config

end Muster
