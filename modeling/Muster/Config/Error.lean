import Muster.Size

/-!
What can be wrong with a configuration.
-/

namespace Muster

/-- A setting that is well formed and that no bring-up can work with. -/
inductive ConfigFlaw
  | masterHostEmpty
  | cpuZero
  | maxPerHostZero
  deriving DecidableEq, Repr

def ConfigFlaw.message : ConfigFlaw → String
  | .masterHostEmpty => "master.host must not be empty"
  | .cpuZero => "cpu must be at least 1"
  | .maxPerHostZero => "worker.max_per_host must be at least 1"

inductive ConfigError
  | unreadable
  /-- The text is not TOML, or a setting has a value of the wrong kind. -/
  | malformed
  | invalidSize (size : Size.Invalid)
  | invalid (flaw : ConfigFlaw)
  deriving DecidableEq, Repr

def ConfigError.message : ConfigError → String
  | .unreadable => "failed to read config file"
  | .malformed => "failed to parse config"
  | .invalidSize size => "invalid size: " ++ size.text
  | .invalid flaw => "invalid config: " ++ flaw.message

end Muster
