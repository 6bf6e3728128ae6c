import Muster.Coordinator.Sequence

/-!
All that can happen to a coordinator: its owner starts it, begins and drops bring-ups and stops it,
the resource manager delivers, and a bring-up that waits is resumed.
-/

namespace Muster.Coordinator

variable {σ : Type} (clients : Clients σ)

def init (plan : BringupPlan) (env : σ) : Coordinator σ :=
  { plan, env }

def startService (service : Service) (call : Call) (act : σ → Except String Unit × σ)
    (c : Coordinator σ) : Except BringupError Unit × Coordinator σ :=
  let (result, c) := c.ask call act
  (result.mapError (.clientStart service), c)

/-- What is registered: the local host, and that nothing there listens for the resource manager. -/
def registration (c : Coordinator σ) : Registration :=
  ⟨c.plan.localHost, 0, ""⟩

def start (c : Coordinator σ) : Except BringupError Unit × Coordinator σ :=
  match c.startService .nodeManager .startNodeManager clients.startNodeManager with
  | (.error error, c) => (.error error, c)
  | (.ok _, c) =>
    match c.startService .resourceManager .startResourceManager clients.startResourceManager with
    | (.error error, c) => (.error error, c)
    | (.ok _, c) =>
      match c.startService .inventory .startInventory clients.startInventory with
      | (.error error, c) => (.error error, c)
      | (.ok _, c) =>
        match c.ask (.register c.registration) (clients.register c.registration) with
        | (.error cause, c) => (.error (.registration cause), c)
        | (.ok _, c) => (.ok (), (c.advance .started).log (.registered c.plan.localHost))

def request (c : Coordinator σ) : Coordinator σ :=
  { c with control := .begun }

def cancel (c : Coordinator σ) : Coordinator σ :=
  match c.control with
  | .finished _ => c
  | _ => { c with control := .idle }

/-- Unregisters the application and stops the services. Only the first stop does so; a failure to
unregister does not keep the services from being stopped. -/
def stop (status : FinalStatus) (diagnostics : String) (c : Coordinator σ) : Coordinator σ :=
  if c.phase.isTerminal then c.log .alreadyStopped
  else
    let (result, c) :=
      c.ask (.unregister status diagnostics "") (clients.unregister status diagnostics "")
    let c :=
      match result with
      | .error cause => c.log (.unregisterFailed cause)
      | .ok _ => c
    let c := c.tell .stopResourceManager clients.stopResourceManager
    let c := c.tell .stopNodeManager clients.stopNodeManager
    let c := c.tell .stopInventory clients.stopInventory
    (c.advance .stopped).log (.stopped status)

def stopAfter (outcome : Except BringupError Unit) (c : Coordinator σ) : Coordinator σ :=
  match outcome with
  | .ok _ => c.stop clients .succeeded ""
  | .error error => c.stop clients .failed error.message

def outcome? (c : Coordinator σ) : Option (Except BringupError Unit) :=
  match c.control with
  | .finished outcome => some outcome
  | _ => none

inductive Action
  | start
  | request
  | cancel
  | resume
  | receive (delivery : Delivery)
  | progress
  | stop (status : FinalStatus) (diagnostics : String)
  | stopAfter
  deriving DecidableEq, Repr

inductive Reply
  | nothing
  | done
  | failed (error : BringupError)
  | noOutcome
  /-- The share of the work that is done, which a coordinator does not measure. -/
  | progressUnknown
  deriving DecidableEq, Repr

def perform (action : Action) (c : Coordinator σ) : Reply × Coordinator σ :=
  match action with
  | .start =>
    match c.start clients with
    | (.ok _, c) => (.done, c)
    | (.error error, c) => (.failed error, c)
  | .request => (.nothing, c.request)
  | .cancel => (.nothing, c.cancel)
  | .resume => (.nothing, c.resume clients)
  | .receive delivery => (.nothing, c.receive clients delivery)
  | .progress => (.progressUnknown, c)
  | .stop status diagnostics => (.nothing, c.stop clients status diagnostics)
  | .stopAfter =>
    match c.outcome? with
    | some outcome => (.nothing, c.stopAfter clients outcome)
    | none => (.noOutcome, c)

end Muster.Coordinator
