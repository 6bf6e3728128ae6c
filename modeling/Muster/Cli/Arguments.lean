import Muster.Cluster.State

/-!
The command line. Arguments are read from left to right: the first that is wrong makes a usage
error, unless a request for help stands before it.
-/

namespace Muster.Cli

structure Overrides where
  file : Option String := none
  workers : Option UInt32 := none
  masterHost : Option Host := none
  resourcePath : Option String := none
  deriving DecidableEq, Repr

inductive Invocation
  | help
  | run (overrides : Overrides) (cluster : ClusterConfig)
  | showConfig (overrides : Overrides)
  deriving DecidableEq, Repr

inductive Halt
  | help
  | usage
  deriving DecidableEq, Repr

inductive Subcommand
  | run
  | config
  deriving DecidableEq, Repr

inductive Setting
  | file
  | workers
  | masterHost
  | resourcePath
  | hosts
  | slotsPerHost
  | heartbeatMs
  deriving DecidableEq, Repr

def Setting.ofName? (subcommand : Subcommand) (name : String) : Option Setting :=
  match name with
  | "config" => some .file
  | "num-workers" => some .workers
  | "master-address" => some .masterHost
  | "resource-path" => some .resourcePath
  | _ =>
    match subcommand, name with
    | .run, "hosts" => some .hosts
    | .run, "slots-per-host" => some .slotsPerHost
    | .run, "heartbeat-ms" => some .heartbeatMs
    | _, _ => none

structure Given where
  overrides : Overrides := {}
  hosts : List Host := []
  slotsPerHost : Option UInt32 := none
  heartbeatMs : Option UInt64 := none
  firstFit : Bool := false
  deriving DecidableEq, Repr

def natOf? (digits : List Char) : Option Nat :=
  if digits.isEmpty || !digits.all Char.isDigit then none
  else some (Nat.ofDigitChars 10 digits 0)

/-- A count that thirty-two bits hold. A sign is allowed, so that zero may have a minus sign. -/
def count32? (text : String) : Option UInt32 := do
  let value ←
    match text.toList with
    | '+' :: digits => natOf? digits
    | '-' :: digits => do
      let value ← natOf? digits
      if value = 0 then some 0 else none
    | digits => natOf? digits
  if value < UInt32.size then some (.ofNat value) else none

/-- A count that sixty-four bits hold. A plus sign is allowed. -/
def count64? (text : String) : Option UInt64 := do
  let value ←
    match text.toList with
    | '+' :: digits => natOf? digits
    | digits => natOf? digits
  if value < UInt64.size then some (.ofNat value) else none

def once {α : Type} (current value : Option α) : Except Halt (Option α) :=
  match current, value with
  | none, some value => .ok (some value)
  | _, _ => .error .usage

def splitAtCommas (text : String) : List String :=
  let (current, parts) := text.toList.foldr
    (fun c (current, parts) =>
      if c = ',' then ([], String.ofList current :: parts) else (c :: current, parts))
    ([], [])
  String.ofList current :: parts

def Given.set (given : Given) (setting : Setting) (value : String) : Except Halt Given :=
  let overrides := given.overrides
  match setting with
  | .file => do
    let file ← once overrides.file (if value.isEmpty then none else some value)
    return { given with overrides := { overrides with file } }
  | .workers => do
    let workers ← once overrides.workers (count32? value)
    return { given with overrides := { overrides with workers } }
  | .masterHost => do
    let masterHost ← once overrides.masterHost (some value)
    return { given with overrides := { overrides with masterHost } }
  | .resourcePath => do
    let resourcePath ← once overrides.resourcePath (some value)
    return { given with overrides := { overrides with resourcePath } }
  | .hosts => .ok { given with hosts := given.hosts ++ splitAtCommas value }
  | .slotsPerHost => do
    return { given with slotsPerHost := ← once given.slotsPerHost (count32? value) }
  | .heartbeatMs => do
    return { given with heartbeatMs := ← once given.heartbeatMs (count64? value) }

inductive Form
  | endOfOptions
  | long (name : String) (value : Option String)
  | short (letters : List Char)
  | plain
  deriving DecidableEq, Repr

def Form.of (argument : String) : Form :=
  match argument.toList with
  | ['-', '-'] => .endOfOptions
  | '-' :: '-' :: option =>
    let name := String.ofList (option.takeWhile (· != '='))
    match option.dropWhile (· != '=') with
    | [] => .long name none
    | _ :: value => .long name (some (String.ofList value))
  | '-' :: c :: letters => .short (c :: letters)
  | _ => .plain

/-- Reads the arguments of a subcommand. `awaiting` is an option whose value comes next. -/
def readOptions (subcommand : Subcommand) :
    (awaiting : Option Setting) → Given → List String → Except Halt Given
  | none, given, [] => .ok given
  | some _, _, [] => .error .usage
  | some setting, given, argument :: rest =>
    match Form.of argument with
    | .plain => do readOptions subcommand none (← given.set setting argument) rest
    | _ => .error .usage
  | none, given, argument :: rest =>
    match Form.of argument with
    | .endOfOptions => if rest.isEmpty then .ok given else .error .usage
    | .short ('h' :: _) => .error .help
    | .long "help" none => .error .help
    | .long "first-fit" none =>
      if subcommand = .run ∧ !given.firstFit then
        readOptions subcommand none { given with firstFit := true } rest
      else .error .usage
    | .long name value =>
      match Setting.ofName? subcommand name, value with
      | some setting, some value => do
        readOptions subcommand none (← given.set setting value) rest
      | some setting, none => readOptions subcommand (some setting) given rest
      | none, _ => .error .usage
    | _ => .error .usage

def Given.cluster (given : Given) : Except Halt ClusterConfig :=
  if given.hosts.isEmpty then .error .usage
  else
    let default : ClusterConfig := { hosts := given.hosts }
    .ok { default with
      slotsPerHost := (given.slotsPerHost.map UInt32.toNat).getD default.slotsPerHost
      heartbeatMs := (given.heartbeatMs.map UInt64.toNat).getD default.heartbeatMs
      policy := if given.firstFit then .firstFit else .leastLoaded }

def readSubcommand (subcommand : Subcommand) (arguments : List String) :
    Except Halt Invocation := do
  let given ← readOptions subcommand none {} arguments
  match subcommand with
  | .config => return .showConfig given.overrides
  | .run => return .run given.overrides (← given.cluster)

/-- Whether `help` is asked about something that there is help for. -/
def isHelpTopic : List String → Bool
  | [] => true
  | [topic] => ["run", "config", "help"].contains topic
  | _ => false

def readArguments : List String → Except Halt Invocation
  | "run" :: arguments => readSubcommand .run arguments
  | "config" :: arguments => readSubcommand .config arguments
  | "help" :: topics => if isHelpTopic topics then .ok .help else .error .usage
  | argument :: _ =>
    match Form.of argument with
    | .short ('h' :: _) => .ok .help
    | .long "help" none => .ok .help
    | _ => .error .usage
  | [] => .error .usage

def parse? (arguments : List String) : Option Invocation :=
  match readArguments arguments with
  | .ok invocation => some invocation
  | .error .help => some .help
  | .error .usage => none

def Invocation.file? : Invocation → Option String
  | .help => none
  | .run overrides _ => overrides.file
  | .showConfig overrides => overrides.file

def usage : String :=
  String.join [
    "Usage: muster <COMMAND>\n\n",
    "Commands:\n",
    "  run     Bring up the master and workers on a simulated cluster\n",
    "  config  Print the effective configuration as TOML\n",
    "  help    Print this message\n\n",
    "Options of both:\n",
    "  --config <FILE>            Configuration file\n",
    "  --num-workers <COUNT>      Number of workers\n",
    "  --master-address <HOST>    Host of the master\n",
    "  --resource-path <PATH>     Shared directory of the files to ship\n\n",
    "Options of run:\n",
    "  --hosts <HOSTS>            Cluster hosts, comma separated (required)\n",
    "  --slots-per-host <COUNT>   Containers that a host can hold\n",
    "  --heartbeat-ms <MS>        Milliseconds between two heartbeats\n",
    "  --first-fit                Fill the hosts one after the other\n"]

end Muster.Cli
