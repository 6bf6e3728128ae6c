import Muster.Config.Error

/-!
Why a bring-up fails.
-/

namespace Muster

inductive Service
  | nodeManager
  | resourceManager
  | inventory
  deriving DecidableEq, Repr

def Service.name : Service → String
  | .nodeManager => "node manager"
  | .resourceManager => "resource manager"
  | .inventory => "cluster inventory"

/-- The causes that end a bring-up. Those that a service reports carry its text. -/
inductive BringupError
  /-- The hosts that still have room could not hold the workers that are still missing. -/
  | capacityInsufficient (needed hosts perHost : Nat)
  | registration (cause : String)
  | clientStart (service : Service) (cause : String)
  | inventory (cause : String)
  | resourcePathUnset
  | config (error : ConfigError)
  deriving DecidableEq, Repr

def BringupError.message : BringupError → String
  | .capacityInsufficient needed hosts perHost =>
    s!"not enough hosts to launch {needed} workers: {hosts} hosts available with room for " ++
      s!"{perHost} each"
  | .registration cause => "failed to register application master: " ++ cause
  | .clientStart service cause => s!"failed to start {service.name} client: " ++ cause
  | .inventory cause => "failed to list cluster hosts: " ++ cause
  | .resourcePathUnset =>
    "cannot resolve local resource resources.path: resource path is not set"
  | .config error => "config error: " ++ error.message

end Muster
