import Muster.Coordinator.Action

/-!
Rehearsals: a coordinator whose services follow a script. The script says which calls fail, on which
hosts launches fail, which hosts the inventory lists, and which requests are answered at once.
-/

namespace Muster

inductive Fault
  | startNodeManager
  | startResourceManager
  | startInventory
  | register
  | nodeHosts
  | unregister
  deriving DecidableEq, Repr

structure Script where
  inventory : HostSet := .empty
  failHosts : List Host := []
  faults : List (Fault × String) := []
  /-- For each request to come, the host of the container that answers it at once, if one does. -/
  answers : List (Option Host) := []
  /-- Whether the resource manager was started, and so knows where to deliver to. -/
  connected : Bool := false
  handedOut : Nat := 0
  deriving Repr

namespace Script

def faultOf? (script : Script) (fault : Fault) : Option String :=
  (script.faults.find? (·.1 == fault)).map (·.2)

def attempt (script : Script) (fault : Fault) : Except String Unit :=
  match script.faultOf? fault with
  | some cause => .error cause
  | none => .ok ()

def setFault (script : Script) (fault : Fault) (cause : Option String) : Script :=
  let others := script.faults.filter (·.1 != fault)
  match cause with
  | some cause => { script with faults := (fault, cause) :: others }
  | none => { script with faults := others }

def container (index : Nat) (host : Host) : Container where
  id := ⟨s!"auto-{index}"⟩
  host
  nodeHttpAddress := host ++ ":8042"
  shape := ⟨1024, 1⟩
  priority := ⟨0⟩

def startResourceManager (script : Script) : Except String Unit × Script :=
  match script.attempt .startResourceManager with
  | .ok _ => (.ok (), { script with connected := true })
  | .error cause => (.error cause, script)

def addRequest (script : Script) : List (List Container) × Script :=
  match script.answers with
  | [] => ([], script)
  | none :: answers => ([], { script with answers })
  | some host :: answers =>
    if script.connected then
      let index := script.handedOut + 1
      ([[container index host]], { script with answers, handedOut := index })
    else ([], { script with answers })

def startContainer (script : Script) (container : Container) : Except String Unit :=
  if script.failHosts.contains container.host then
    .error s!"node manager on {container.host} refused the launch"
  else .ok ()

def clients : Clients Script where
  startNodeManager script := (script.attempt .startNodeManager, script)
  startResourceManager := startResourceManager
  startInventory script := (script.attempt .startInventory, script)
  register _ script := (script.attempt .register, script)
  addRequest _ := addRequest
  release _ := id
  startContainer container _ script := (script.startContainer container, script)
  nodeHosts script := ((script.attempt .nodeHosts).map fun _ => script.inventory, [], script)
  unregister _ _ _ script := (script.attempt .unregister, script)
  stopResourceManager := id
  stopNodeManager := id
  stopInventory := id

end Script

inductive RehearsalStep
  | perform (action : Coordinator.Action)
  | setFault (fault : Fault) (cause : Option String)
  | setFailHosts (hosts : List Host)
  | setInventory (hosts : HostSet)
  | setAnswers (hosts : List (Option Host))
  | wait
  deriving Repr

namespace Rehearsal

/-- Takes a step, and then resumes the bring-up unless it is held. -/
def take (step : RehearsalStep) (held : Bool) (c : Coordinator Script) :
    Coordinator.Reply × Coordinator Script :=
  let (reply, c) :=
    match step with
    | .perform action => c.perform Script.clients action
    | .setFault fault cause => (.nothing, { c with env := c.env.setFault fault cause })
    | .setFailHosts hosts => (.nothing, { c with env := { c.env with failHosts := hosts } })
    | .setInventory inventory => (.nothing, { c with env := { c.env with inventory } })
    | .setAnswers answers => (.nothing, { c with env := { c.env with answers } })
    | .wait => (.nothing, c)
  (reply, if held then c else c.resume Script.clients)

end Rehearsal

end Muster
