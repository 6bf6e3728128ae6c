import Muster.Config.Fields
import Muster.Toml.Parser
import Muster.Toml.Printer

/-!
The configuration file: reading it, in any layout that TOML allows, and writing it in one.
-/

namespace Muster.Config

open Toml (Entries Value)

def firstFields (values : List Value) : (count : Nat) → List (Option Value)
  | 0 => []
  | count + 1 => values.head? :: firstFields values.tail count

/-- How a configuration is looked for in TOML. A section is a table, or an array of its settings in
order; a date or time has none of them. -/
def tomlSource : FieldSource Value where
  fields? names
    | .table _ entries => some (names.map (Entries.valueAt? entries))
    | .array items => some (firstFields items names.length)
    | .tables elements => some (firstFields (elements.map (.table .header)) names.length)
    | .moment => some (names.map fun _ => none)
    | _ => none
  text?
    | .text text => some text
    | _ => none
  count?
    | .integer value => if 0 ≤ value ∧ value < UInt32.size then some (.ofNat value.toNat) else none
    | _ => none

def ofToml (document : String) : Except ConfigError Config :=
  match Toml.parse? document with
  | none => .error .malformed
  | some entries =>
    match tomlSource.config? (.table .header entries) with
    | none => .error .malformed
    | some config => config.validate.map fun _ => config

def ofBytes (bytes : ByteArray) : Except ConfigError Config :=
  match String.fromUTF8? bytes with
  | none => .error .unreadable
  | some document => ofToml document

def settingLine (name value : String) : String :=
  name ++ " = " ++ value ++ "\n"

def textLine (name text : String) : String :=
  settingLine name (Toml.writeText text)

def countLine (name : String) (count : UInt32) : String :=
  settingLine name (toString count.toNat)

def sectionText (name : String) (lines : List String) : String :=
  "[" ++ name ++ "]\n" ++ String.join lines

def toToml (config : Config) : String :=
  "\n".intercalate [
    sectionText "master" [
      textLine "host" config.master.host,
      countLine "cpu" config.master.cpu,
      textLine "memory" config.master.memory],
    sectionText "worker" [
      countLine "count" config.worker.count,
      countLine "cpu" config.worker.cpu,
      textLine "memory" config.worker.memory,
      textLine "ramdisk_memory" config.worker.ramdiskMemory,
      countLine "max_per_host" config.worker.maxPerHost],
    sectionText "resources" [
      textLine "path" config.resources.path,
      textLine "tarball" config.resources.tarball,
      textLine "setup_script" config.resources.setupScript],
    sectionText "launch" [
      textLine "env_prefix" config.launch.envPrefix,
      textLine "log_dir" config.launch.logDir]]

end Muster.Config
