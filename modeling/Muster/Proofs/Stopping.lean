import Muster.Proofs.Capacity
import Muster.Proofs.ClusterBringup
import Muster.Proofs.Consumption
import Muster.Proofs.History
import Muster.Proofs.Phases

/-!
How a coordinator stops. The first stop unregisters the application and stops the services, and no
other step of a run makes any of these calls. A simulated cluster delivers nothing after them.
-/

namespace Muster

def Call.stops : Call → Bool
  | unregister .. => true
  | stopResourceManager => true
  | stopNodeManager => true
  | stopInventory => true
  | _ => false

/-- The calls of a stop, in their order. -/
def stopCalls (status : FinalStatus) (diagnostics : String) : List Call :=
  [.unregister status diagnostics "", .stopResourceManager, .stopNodeManager, .stopInventory]

theorem Call.not_stops_of_usesContainer {call : Call} (uses : call.usesContainer = true) :
    call.stops = false := by
  cases call <;> simp [usesContainer, stops] at uses ⊢

namespace Coordinator

open Relation (ReflTransGen)

def Action.mayStop : Action → Bool
  | stop .. => true
  | stopAfter => true
  | _ => false

variable {σ : Type} {clients : Clients σ} {c c' c'' : Coordinator σ}
  {related : Coordinator σ → Coordinator σ → Prop}

/-- The status and the diagnostics with which an action stops a coordinator, if it does. -/
def stopRequest? (action : Action) (c : Coordinator σ) : Option (FinalStatus × String) :=
  match action, c.outcome? with
  | .stop status diagnostics, _ => some (status, diagnostics)
  | .stopAfter, some (.ok _) => some (.succeeded, "")
  | .stopAfter, some (.error error) => some (.failed, error.message)
  | _, _ => none

theorem perform_stop {action : Action} {status : FinalStatus} {diagnostics : String}
    (asked : c.stopRequest? action = some (status, diagnostics)) :
    (c.perform clients action).2 = c.stop clients status diagnostics := by
  unfold stopRequest? at asked
  split at asked
  · cases asked
    rfl
  · rename_i ended
    cases asked
    simp only [perform, ended, stopAfter]
  · rename_i ended
    cases asked
    simp only [perform, ended, stopAfter]
  · cases asked

theorem perform_unasked {action : Action} (stops : action.mayStop = true)
    (unasked : c.stopRequest? action = none) : (c.perform clients action).2 = c := by
  cases action with
  | stop status diagnostics => simp [stopRequest?] at unasked
  | stopAfter =>
      cases ended : c.outcome? with
      | none => simp only [perform, ended]
      | some outcome =>
          cases outcome with
          | ok => simp [stopRequest?, ended] at unasked
          | error error => simp [stopRequest?, ended] at unasked
  | _ => cases stops

theorem stop_stopped (status : FinalStatus) (diagnostics : String) (stopped : c.phase = .stopped) :
    c.stop clients status diagnostics = c.log .alreadyStopped := by
  simp [stop, stopped, Phase.isTerminal]

theorem CoversWork.perform (covers : CoversWork clients related) {action : Action}
    (other : action.mayStop = false)
    (start : action = .start → ∀ c, related c (c.start clients).2)
    (allocate : ∀ c containers, related c (c.onAllocated clients containers))
    (c : Coordinator σ) : related c (c.perform clients action).2 := by
  cases action with
  | start =>
      rw [perform_start]
      exact start rfl c
  | request => exact covers.turn _ _
  | cancel =>
      simp only [Coordinator.perform, cancel]
      split
      · exact covers.refl c
      · exact covers.turn _ _
  | resume => exact covers.resume c
  | receive delivery =>
      cases delivery with
      | allocated containers => exact allocate c containers
      | _ =>
          simp only [Coordinator.perform]
          exact covers.receive (by simp) c
  | progress => exact covers.refl c
  | stop => cases other
  | stopAfter => cases other

def Spares (c c' : Coordinator σ) : Prop :=
  ∃ made, c'.calls = c.calls ++ made ∧ ∀ call ∈ made, call.stops = false

theorem spares_same (same : c'.calls = c.calls) : Spares c c' :=
  ⟨[], by rw [same, List.append_nil], by simp⟩

theorem spares_call {call : Call} (other : call.stops = false)
    (made : c'.calls = c.calls ++ [call]) : Spares c c' :=
  ⟨[call], made, by simpa using other⟩

theorem Spares.trans (first : Spares c c') (second : Spares c' c'') : Spares c c'' := by
  obtain ⟨made, calls, others⟩ := first
  obtain ⟨more, after, rest⟩ := second
  refine ⟨made ++ more, ?_, ?_⟩
  · rw [after, calls, List.append_assoc]
  · intro call member
    rcases List.mem_append.mp member with before | later
    · exact others call before
    · exact rest call later

theorem spares_onAllocated (containers : List Container) :
    Spares c (c.onAllocated clients containers) := by
  obtain ⟨made, routes⟩ : ∃ made, Routes clients containers c made := exists_routes containers
  refine ⟨made, routes.calls, ?_⟩
  intro call member
  rw [← routes.once.filter] at member
  exact Call.not_stops_of_usesContainer (List.mem_filter.mp member).2

theorem spares_ask {α : Type} (call : Call) (act : σ → Except String α × σ)
    (other : call.stops = false) : Spares c (c.ask call act).2 :=
  spares_call other (List.reverse_cons)

theorem covers_events_spares : CoversEvents (Spares (σ := σ)) where
  refl _ := spares_same rfl
  trans := Spares.trans
  set _ _ _ := spares_same rfl
  log _ _ _ := spares_same rfl

theorem covers_spares : CoversWork clients Spares where
  toCoversEvents := covers_events_spares
  turn _ _ := spares_same rfl
  list c := by
    refine Spares.trans ?_ (covers_events_spares.foldl _ (fun _ => spares_onAllocated) _ _)
    have other : Call.nodeHosts.stops = false := rfl
    exact spares_call other List.reverse_cons
  plan _ _ _ _ _ := spares_same rfl
  announce _ _ _ _ := spares_same rfl
  request c request := by
    unfold addRequest
    refine Spares.trans ?_ (covers_events_spares.foldl _ (fun _ => spares_onAllocated) _ _)
    have other : (Call.addRequest request).stops = false := rfl
    exact spares_call other List.reverse_cons

theorem spares_start : Spares c (c.start clients).2 := by
  refine start_related Spares.trans ?_ ?_
  · intro c call act starts
    refine spares_ask call act ?_
    cases starts <;> rfl
  · exact fun c host => (covers_events_spares.advance .started c).trans (spares_same rfl)

theorem spares_perform {action : Action} (other : action.mayStop = false) :
    Spares c (c.perform clients action).2 :=
  covers_spares.perform other (fun _ _ => spares_start) (fun _ => spares_onAllocated) c

/-! ## The only stop of a run -/

abbrev Unstopped (clients : Clients σ) : Coordinator σ → Coordinator σ → Prop :=
  ReflTransGen (Step clients fun action => action.mayStop = false)

/-- The stop of a run: the first one that was asked for, at `before`, and the only one that did
anything. -/
structure StoppedBy (clients : Clients σ) (start before c : Coordinator σ) (action : Action)
    (status : FinalStatus) (diagnostics : String) : Prop where
  unstopped : Unstopped clients start before
  asked : before.stopRequest? action = some (status, diagnostics)
  ended : (before.perform clients action).2.phase = .stopped
  made : (before.perform clients action).2.calls = before.calls ++ stopCalls status diagnostics
  rest : Run clients (before.perform clients action).2 c
  stopped : c.phase = .stopped
  only : ∃ later, c.calls = before.calls ++ stopCalls status diagnostics ++ later ∧
    ∀ call ∈ before.calls ++ later, call.stops = false

variable {start before : Coordinator σ} {action : Action} {status : FinalStatus}
  {diagnostics : String}

theorem spares_stopped (action : Action) (stopped : c.phase = .stopped) :
    Spares c (c.perform clients action).2 := by
  cases stops : action.mayStop with
  | false => exact spares_perform stops
  | true =>
      cases asked : c.stopRequest? action with
      | none =>
          rw [perform_unasked stops asked]
          exact spares_same rfl
      | some request =>
          rw [perform_stop asked, stop_stopped _ _ stopped]
          exact spares_same rfl

theorem StoppedBy.step (once : StoppedBy clients start before c action status diagnostics)
    (step : Step clients (fun _ => True) c c') (stopped : c'.phase = .stopped) :
    StoppedBy clients start before c' action status diagnostics := by
  obtain ⟨unstopped, asked, ended, made, rest, already, later, calls, others⟩ := once
  have spared : Spares c c' := by
    cases step with
    | perform next => exact spares_stopped next already
    | environment env => exact spares_same rfl
  obtain ⟨more, grown, spare⟩ := spared
  refine ⟨unstopped, asked, ended, made, rest.tail step, stopped, later ++ more, ?_, ?_⟩
  · rw [grown, calls, List.append_assoc]
  · intro call member
    rw [← List.append_assoc] at member
    rcases List.mem_append.mp member with known | added
    · exact others call known
    · exact spare call added

theorem covers_env (kept : σ → Prop) : CoversEvents (Keeps fun c : Coordinator σ => kept c.env) where
  refl _ := id
  trans first second start := second (first start)
  set _ _ _ := id
  log _ _ _ := id

theorem env_onAllocated (kept : σ → Prop)
    (release : ∀ id env, kept env → kept (clients.release id env))
    (launch : ∀ container context env, kept env →
      kept (clients.startContainer container context env).2)
    (containers : List Container) :
    Keeps (fun c => kept c.env) c (c.onAllocated clients containers) := by
  have placed (context : LaunchContext) (container : Container) (c : Coordinator σ) :
      Keeps (fun c => kept c.env) c (c.placeWorker clients context container) := by
    intro start
    cases decision : c.roster.hasEnough c.plan.limits ||
        c.roster.isHostFull c.plan.limits container.host with
    | true =>
        rw [placeWorker_refused _ _ decision]
        exact release container.id c.env start
    | false =>
        cases outcome : (clients.startContainer container context c.env).1 with
        | ok =>
            rw [placeWorker_launched _ _ decision outcome]
            exact launch container context c.env start
        | error cause =>
            rw [placeWorker_failed _ _ decision outcome]
            exact launch container context c.env start
  have manned (container : Container) (c : Coordinator σ) :
      Keeps (fun c => kept c.env) c (c.launchMasterIn clients container) := by
    intro start
    cases outcome : (clients.startContainer container c.plan.launch.forMaster c.env).1 with
    | ok =>
        rw [launchMasterIn_launched container outcome]
        exact launch container c.plan.launch.forMaster c.env start
    | error cause =>
        rw [launchMasterIn_failed container outcome]
        exact launch container c.plan.launch.forMaster c.env start
  unfold onAllocated
  split
  · rename_i closed
    exact @placeMaster_related _ _ _ (Keeps fun c => kept c.env) (covers_env kept).trans
      (fun _ => id) (fun _ _ => id) (fun c id => release id c.env)
      (fun c container _ => manned container c) containers closed
  · exact (covers_env kept).foldl _ (fun c container => placed _ container c) containers c

end Coordinator

namespace Cluster

variable {cluster : Cluster}

theorem started_intervene (intervention : Intervention) :
    (cluster.intervene intervention).2.started = cluster.started := by
  by_cases asks : intervention = .requestShutdown
  · rw [asks]
    rfl
  · exact (sameNews_intervene asks).started

end Cluster

namespace Coordinator

/-! ## The cluster after a stop -/

variable {c : Coordinator Cluster}

def Unstarted (c : Coordinator Cluster) : Prop :=
  c.env.started = false

theorem covers_unstarted : CoversWork Cluster.clients (Keeps Unstarted) where
  toCoversEvents := covers_env fun cluster : Cluster => cluster.started = false
  turn _ _ := id
  list _ := id
  plan _ _ _ _ _ := id
  announce _ _ _ _ := id
  request _ _ := id

theorem unstarted_stop (status : FinalStatus) (diagnostics : String) :
    Keeps Unstarted c (c.stop Cluster.clients status diagnostics) := by
  refine covers_unstarted.toCoversEvents.stop status diagnostics ?_ ?_ c
  · intro c unstarted
    simp only [Unstarted, ask_eq, Cluster.clients, Cluster.unregister]
    split
    · exact unstarted
    · exact unstarted
  · intro c call act tells unstarted
    cases tells with
    | stopResourceManager => rfl
    | stopNodeManager => exact unstarted
    | stopInventory => exact unstarted

theorem unstarted_perform {action : Action} (other : action ≠ .start) :
    Keeps Unstarted c (c.perform Cluster.clients action).2 := by
  cases stops : action.mayStop with
  | false =>
      refine covers_unstarted.perform stops (fun start => absurd start other) ?_ c
      intro c containers
      refine env_onAllocated (fun cluster : Cluster => cluster.started = false) ?_ ?_ containers
      · exact fun id cluster unstarted => (Cluster.sameNews_release id).started.trans unstarted
      · exact fun container context cluster unstarted =>
          (Cluster.sameNews_startContainer container context).started.trans unstarted
  | true =>
      cases asked : c.stopRequest? action with
      | none =>
          rw [perform_unasked stops asked]
          exact id
      | some request =>
          rw [perform_stop asked]
          exact unstarted_stop _ _

/-- A coordinator with nothing to do on a cluster that delivers nothing to it. -/
structure Off (c : Coordinator Cluster) : Prop where
  unstarted : c.Unstarted
  settled : c.resume Cluster.clients = c

theorem Off.heartbeat_env (off : c.Off) : c.env.heartbeat = ([], c.env) := by
  apply Cluster.heartbeat_stopped
  rw [Cluster.isRunning, off.unstarted, Bool.false_and]

theorem Off.heartbeat (off : c.Off) : Bringup.heartbeat c = c := by
  simp only [Bringup.heartbeat, off.heartbeat_env]
  exact off.settled

theorem Off.tick (off : c.Off) (beats : Nat) : Bringup.tick beats c = c := by
  induction beats with
  | zero => rfl
  | succ beats ih => rw [Bringup.tick, off.heartbeat, ih]

theorem off_resume (unstarted : c.Unstarted) : (c.resume Cluster.clients).Off :=
  ⟨covers_unstarted.resume c unstarted, resume_resume⟩

theorem Off.take {step : Bringup.Step} (off : c.Off) (other : step ≠ .perform .start) :
    (Bringup.take step c).2.Off := by
  cases step with
  | perform action =>
      refine off_resume (unstarted_perform ?_ off.unstarted)
      rintro rfl
      exact other rfl
  | intervene intervention =>
      exact off_resume ((Cluster.started_intervene intervention).trans off.unstarted)
  | tick beats =>
      have same : (Bringup.take (.tick beats) c).2 = c := off.tick beats
      rw [same]
      exact off

theorem Off.takeAll (steps : List Bringup.Step) : ∀ {c : Coordinator Cluster}, c.Off →
    .perform .start ∉ steps → (Bringup.takeAll steps c).Off := by
  induction steps with
  | nil => exact fun off _ => off
  | cons step rest ih =>
      intro c off absent
      rw [List.mem_cons, not_or] at absent
      exact ih (off.take (Ne.symm absent.1)) absent.2

def killed : Coordinator Script :=
  performAll Script.clients
    [.start, .request, .resume, .stopAfter, .stop .killed "lost", .cancel, .stop .succeeded ""]
    (init crowdedPlan { faults := [(.unregister, "no")] })

end Coordinator

end Muster
