import Muster.Proofs.Passes

/-!
Histories of a simulated cluster: what was done to it, one action after the other, and what it
delivered. Between two heartbeats a cluster takes requests and changes in a few other ways, and
none of this delivers anything.
-/

namespace Muster.Cluster

open Coordinator (Delivery)

variable {cluster : Cluster} {config : ClusterConfig}

/-! ## Changes -/

def handedBack (id : ContainerId) : ContainerStatus :=
  ⟨id, .aborted, "Container released by application"⟩

def refusal (id : ContainerId) : ContainerStatus :=
  ⟨id, .invalid, "launch failed"⟩

def exited (id : ContainerId) (status : ExitStatus) : ContainerStatus :=
  ⟨id, status, "container exited"⟩

def ending (cluster : Cluster) (occupant : Occupant) (status : ContainerStatus) : Cluster :=
  { cluster with
    live := cluster.live.erase status.id.name
    slots := cluster.slots.insert occupant.container.host
      (cluster.slotsUsed occupant.container.host - 1)
    completed := cluster.completed ++ [status] }

/-- Nothing happened to containers or to requests for them. -/
structure SameWork (before after : Cluster) : Prop where
  config : after.config = before.config
  live : after.live = before.live
  slots : after.slots = before.slots
  granted : after.granted = before.granted
  launches : after.launches = before.launches
  released : after.released = before.released
  completed : after.completed = before.completed
  pending : after.pending = before.pending
  requests : after.requests = before.requests
  surplus : after.surplus = before.surplus

theorem SameWork.refl (cluster : Cluster) : SameWork cluster cluster :=
  ⟨rfl, rfl, rfl, rfl, rfl, rfl, rfl, rfl, rfl, rfl⟩

/-- What can happen to a cluster between two heartbeats, apart from a request. -/
inductive Change (before : Cluster) : Cluster → Prop
  | adjust {after : Cluster} (same : SameWork before after) : Change before after
  | launch (container : Container) (context : LaunchContext) (occupant : Occupant)
      (live : before.live.get? container.id.name = some occupant)
      (idle : occupant.launched = false) :
      Change before { before with
        live := before.live.insert container.id.name { occupant with launched := true }
        launches := before.launches ++ [(container, context)] }
  | release (id : ContainerId) (occupant : Occupant)
      (live : before.live.get? id.name = some occupant) :
      Change before { before.ending occupant (handedBack id) with
        released := before.released ++ [id] }
  | refuse (id : ContainerId) (occupant : Occupant)
      (live : before.live.get? id.name = some occupant) (idle : occupant.launched = false) :
      Change before (before.ending occupant (refusal id))
  | finish (id : ContainerId) (status : ExitStatus) (occupant : Occupant)
      (live : before.live.get? id.name = some occupant) (running : occupant.launched = true) :
      Change before (before.ending occupant (exited id status))

theorem complete_of_live {id : ContainerId} {occupant : Occupant} (status : ExitStatus)
    (diagnostics : String) (live : cluster.live.get? id.name = some occupant) :
    cluster.complete id status diagnostics =
      some (cluster.ending occupant ⟨id, status, diagnostics⟩) := by
  simp only [complete, live]
  rfl

theorem release_of_dead {id : ContainerId} (dead : cluster.live.get? id.name = none) :
    cluster.release id = cluster := by
  simp only [release, complete, dead]

theorem change_release (id : ContainerId) : Change cluster (cluster.release id) := by
  cases live : cluster.live.get? id.name with
  | none =>
      rw [release_of_dead live]
      exact .adjust (.refl cluster)
  | some occupant =>
      simp only [Cluster.release, complete_of_live _ _ live]
      exact .release id occupant live

theorem startContainer_cases (container : Container) (context : LaunchContext) :
    (cluster.live.get? container.id.name = none ∧
        cluster.startContainer container context =
          (.error (.unknownContainer container.id), cluster)) ∨
      ∃ occupant, cluster.live.get? container.id.name = some occupant ∧
        ((occupant.launched = true ∧ cluster.startContainer container context =
            (.error (.alreadyLaunched container.id), cluster)) ∨
          (occupant.launched = false ∧ cluster.startContainer container context =
            (.error (.launchRefused container.host),
              cluster.ending occupant (refusal container.id))) ∨
          (occupant.launched = false ∧ cluster.startContainer container context =
            (.ok (), { cluster with
              live := cluster.live.insert container.id.name { occupant with launched := true }
              launches := cluster.launches ++ [(container, context)] }))) := by
  cases live : cluster.live.get? container.id.name with
  | none => exact .inl ⟨rfl, by simp only [startContainer, live]⟩
  | some occupant =>
      refine .inr ⟨occupant, rfl, ?_⟩
      cases launched : occupant.launched with
      | true => exact .inl ⟨rfl, by simp only [startContainer, live, launched, if_true]⟩
      | false =>
          cases failing : cluster.failingHosts.contains container.host with
          | true =>
              refine .inr (.inl ⟨rfl, ?_⟩)
              simp only [startContainer, live, launched, failing, Bool.false_eq_true, if_false,
                if_true, complete_of_live _ _ live]
              rfl
          | false =>
              refine .inr (.inr ⟨rfl, ?_⟩)
              simp only [startContainer, live, launched, failing, Bool.false_eq_true, if_false]

theorem change_startContainer (container : Container) (context : LaunchContext) :
    Change cluster (cluster.startContainer container context).2 := by
  rcases cluster.startContainer_cases container context with
    ⟨_, outcome⟩ | ⟨occupant, live, ⟨_, outcome⟩ | ⟨idle, outcome⟩ | ⟨idle, outcome⟩⟩
  · rw [outcome]
    exact .adjust (.refl cluster)
  · rw [outcome]
    exact .adjust (.refl cluster)
  · rw [outcome]
    exact .refuse container.id occupant live idle
  · rw [outcome]
    exact .launch container context occupant live idle

theorem finish_cases (id : ContainerId) (status : ExitStatus) :
    cluster.finish id status = .error (.unknownContainer id) ∨
      ∃ occupant, cluster.live.get? id.name = some occupant ∧ occupant.launched = true ∧
        cluster.finish id status = .ok (cluster.ending occupant (exited id status)) := by
  cases live : cluster.live.get? id.name with
  | none => exact .inl (by simp only [finish, live])
  | some occupant =>
      obtain ⟨container, launched⟩ := occupant
      cases launched with
      | false => exact .inl (by simp only [finish, live])
      | true =>
          refine .inr ⟨_, rfl, rfl, ?_⟩
          simp only [finish, live, complete_of_live _ _ live]
          rfl

theorem sameWork_start : SameWork cluster (cluster.settle cluster.start).2 := by
  rcases cluster.start_cases with ⟨error, failed⟩ | ⟨_, began⟩
  · rw [failed]
    exact .refl cluster
  · rw [began]
    exact ⟨rfl, rfl, rfl, rfl, rfl, rfl, rfl, rfl, rfl, rfl⟩

theorem sameWork_register (registration : Registration) :
    SameWork cluster (cluster.settle (cluster.register registration)).2 := by
  rcases cluster.register_cases registration with ⟨error, failed⟩ | done
  · rw [failed]
    exact .refl cluster
  · rw [done]
    exact ⟨rfl, rfl, rfl, rfl, rfl, rfl, rfl, rfl, rfl, rfl⟩

theorem sameWork_unregister (status : FinalStatus) (diagnostics : String) :
    SameWork cluster (cluster.settle (cluster.unregister status diagnostics)).2 := by
  rcases cluster.unregister_cases status diagnostics with ⟨error, failed⟩ | done
  · rw [failed]
    exact .refl cluster
  · rw [done]
    exact ⟨rfl, rfl, rfl, rfl, rfl, rfl, rfl, rfl, rfl, rfl⟩

theorem change_intervene (intervention : Intervention) :
    Change cluster (cluster.intervene intervention).2 := by
  cases intervention with
  | finish id status =>
      simp only [intervene]
      rcases cluster.finish_cases id status with unknown | ⟨occupant, live, running, ended⟩
      · rw [unknown]
        exact .adjust (.refl cluster)
      · rw [ended]
        exact .finish id status occupant live running
  | _ => exact .adjust ⟨rfl, rfl, rfl, rfl, rfl, rfl, rfl, rfl, rfl, rfl⟩

theorem change_perform {action : Action} (still : ∀ beats, action ≠ .tick beats)
    (single : ∀ request times, action ≠ .add request times) :
    (cluster.perform action).2.1 = [] ∧ Change cluster (cluster.perform action).2.2 := by
  cases action with
  | tick beats => exact absurd rfl (still beats)
  | add request times => exact absurd rfl (single request times)
  | start => exact ⟨rfl, .adjust sameWork_start⟩
  | register registration => exact ⟨rfl, .adjust (sameWork_register registration)⟩
  | unregister status diagnostics =>
      exact ⟨rfl, .adjust (sameWork_unregister status diagnostics)⟩
  | release id => exact ⟨rfl, change_release id⟩
  | intervene intervention => exact ⟨rfl, change_intervene intervention⟩
  | launch container context =>
      have change : Change cluster _ := change_startContainer container context
      simp only [perform]
      split <;> rename_i outcome <;> rw [outcome] at change <;> exact ⟨rfl, change⟩
  | nodeHosts =>
      simp only [perform]
      split <;> exact ⟨rfl, .adjust (.refl cluster)⟩
  | _ => exact ⟨rfl, .adjust ⟨rfl, rfl, rfl, rfl, rfl, rfl, rfl, rfl, rfl, rfl⟩⟩

/-- What is queued for the application apart from containers stays. -/
structure SameNews (before after : Cluster) : Prop where
  started : after.started = before.started
  reports : after.reports = before.reports
  shutdownPending : after.shutdownPending = before.shutdownPending

theorem SameNews.refl (cluster : Cluster) : SameNews cluster cluster :=
  ⟨rfl, rfl, rfl⟩

theorem sameNews_addRequests (request : ContainerRequest) (times : Nat) (cluster : Cluster) :
    SameNews cluster (addRequests request times cluster) := by
  induction times generalizing cluster with
  | zero => exact .refl cluster
  | succ times ih =>
      have rest := ih (cluster.addRequest request)
      exact ⟨rest.started, rest.reports, rest.shutdownPending⟩

theorem sameNews_release (id : ContainerId) : SameNews cluster (cluster.release id) := by
  cases live : cluster.live.get? id.name with
  | none =>
      rw [release_of_dead live]
      exact .refl cluster
  | some occupant =>
      simp only [Cluster.release, complete_of_live _ _ live]
      exact ⟨rfl, rfl, rfl⟩

theorem sameNews_startContainer (container : Container) (context : LaunchContext) :
    SameNews cluster (cluster.startContainer container context).2 := by
  rcases cluster.startContainer_cases container context with
    ⟨_, outcome⟩ | ⟨occupant, _, ⟨_, outcome⟩ | ⟨_, outcome⟩ | ⟨_, outcome⟩⟩ <;>
    rw [outcome] <;> exact ⟨rfl, rfl, rfl⟩

theorem sameNews_intervene {intervention : Intervention}
    (unasked : intervention ≠ .requestShutdown) :
    SameNews cluster (cluster.intervene intervention).2 := by
  cases intervention with
  | requestShutdown => exact absurd rfl unasked
  | finish id status =>
      simp only [intervene]
      rcases cluster.finish_cases id status with outcome | ⟨occupant, _, _, outcome⟩ <;>
        rw [outcome] <;> exact ⟨rfl, rfl, rfl⟩
  | _ => exact ⟨rfl, rfl, rfl⟩

theorem sameNews_perform {action : Action} (still : ∀ beats, action ≠ .tick beats)
    (unstarted : action ≠ .start) (stays : action ≠ .stop)
    (unasked : action ≠ .intervene .requestShutdown) :
    SameNews cluster (cluster.perform action).2.2 := by
  cases action with
  | tick beats => exact absurd rfl (still beats)
  | start => exact absurd rfl unstarted
  | stop => exact absurd rfl stays
  | add request times => exact sameNews_addRequests request times cluster
  | release id => exact sameNews_release id
  | intervene intervention =>
      exact sameNews_intervene fun same => unasked (congrArg Action.intervene same)
  | register registration =>
      simp only [perform]
      rcases cluster.register_cases registration with ⟨error, outcome⟩ | outcome <;>
        rw [outcome] <;> exact ⟨rfl, rfl, rfl⟩
  | unregister status diagnostics =>
      simp only [perform]
      rcases cluster.unregister_cases status diagnostics with ⟨error, outcome⟩ | outcome <;>
        rw [outcome] <;> exact ⟨rfl, rfl, rfl⟩
  | launch container context =>
      have same : SameNews cluster _ := sameNews_startContainer container context
      simp only [perform]
      split <;> rename_i outcome <;> rw [outcome] at same <;> exact same
  | nodeHosts =>
      simp only [perform]
      split <;> exact .refl cluster
  | _ => exact ⟨rfl, rfl, rfl⟩

theorem heartbeat_running (running : cluster.isRunning = true) :
    cluster.heartbeat.1 = deliver .nodes cluster.reports ++
        deliver .completed cluster.completed ++ deliver .allocated cluster.allocate.1 ++
          (if cluster.shutdownPending then [.shutdown] else []) ∧
      cluster.heartbeat.2 = { cluster.allocate.2 with
        reports := [], completed := [], shutdownPending := false } := by
  simp only [heartbeat, running, if_true, and_self]

theorem heartbeat_stopped (stopped : cluster.isRunning = false) :
    cluster.heartbeat = ([], cluster) := by
  simp only [heartbeat, stopped, Bool.false_eq_true, if_false]

def containersIn (deliveries : List Delivery) : List Container :=
  deliveries.flatMap fun
    | .allocated containers => containers
    | _ => []

def endsIn (deliveries : List Delivery) : List ContainerStatus :=
  deliveries.flatMap fun
    | .completed statuses => statuses
    | _ => []

theorem containersIn_heartbeat (running : cluster.isRunning = true) :
    containersIn cluster.heartbeat.1 = cluster.allocate.1 := by
  rw [(heartbeat_running running).1]
  simp only [containersIn, List.flatMap_append]
  cases cluster.reports <;> cases cluster.completed <;> cases cluster.allocate.1 <;>
    cases cluster.shutdownPending <;> simp [deliver]

theorem endsIn_heartbeat (running : cluster.isRunning = true) :
    endsIn cluster.heartbeat.1 = cluster.completed := by
  rw [(heartbeat_running running).1]
  simp only [endsIn, List.flatMap_append]
  cases cluster.reports <;> cases cluster.completed <;> cases cluster.allocate.1 <;>
    cases cluster.shutdownPending <;> simp [deliver]

def beatAnswers (cluster : Cluster) : List Answer :=
  if cluster.isRunning then
    (answers cluster.pending cluster).filter fun answer => !answer.isWaiting
  else []

def tickAnswers : (beats : Nat) → Cluster → List Answer
  | 0, _ => []
  | beats + 1, cluster => cluster.beatAnswers ++ tickAnswers beats cluster.heartbeat.2

/-! ## Histories -/

/-- An action and the cluster that it happens to. -/
structure Occurrence where
  cluster : Cluster
  action : Action

namespace Occurrence

def reply (occurrence : Occurrence) : Reply :=
  (occurrence.cluster.perform occurrence.action).1

def deliveries (occurrence : Occurrence) : List Delivery :=
  (occurrence.cluster.perform occurrence.action).2.1

def after (occurrence : Occurrence) : Cluster :=
  (occurrence.cluster.perform occurrence.action).2.2

def answers (occurrence : Occurrence) : List Answer :=
  match occurrence.action with
  | .tick beats => tickAnswers beats occurrence.cluster
  | _ => []

end Occurrence

def deliveredIn (trace : List Occurrence) : List Delivery :=
  trace.flatMap (·.deliveries)

def answersIn (trace : List Occurrence) : List Answer :=
  trace.flatMap (·.answers)

/-- What happened to a cluster since it was set up, the oldest first. -/
inductive History (config : ClusterConfig) : List Occurrence → Cluster → Prop
  | init : History config [] (init config)
  | act {trace : List Occurrence} {cluster : Cluster} (action : Action)
      (history : History config trace cluster) :
      History config (trace ++ [⟨cluster, action⟩]) (cluster.perform action).2.2

variable (kept : List Delivery → List Answer → Cluster → Prop) {deliveries : List Delivery}
  {given : List Answer}

theorem keeps_tick
    (beat : ∀ deliveries given cluster, kept deliveries given cluster →
      kept (deliveries ++ cluster.heartbeat.1) (given ++ cluster.beatAnswers) cluster.heartbeat.2)
    (beats : Nat) : ∀ {deliveries given cluster}, kept deliveries given cluster →
      kept (deliveries ++ (tick beats cluster).1) (given ++ tickAnswers beats cluster)
        (tick beats cluster).2 := by
  induction beats with
  | zero =>
      intro deliveries given cluster start
      simpa only [tick, tickAnswers, List.append_nil] using start
  | succ beats ih =>
      intro deliveries given cluster start
      have later := ih (beat deliveries given cluster start)
      simpa only [tick, tickAnswers, List.append_assoc] using later

theorem keeps_addRequests (kept : Cluster → Prop)
    (request : ContainerRequest) (add : ∀ cluster, kept cluster → kept (cluster.addRequest request))
    (times : Nat) : ∀ {cluster}, kept cluster → kept (addRequests request times cluster) := by
  induction times with
  | zero => exact id
  | succ times ih => exact fun start => ih (add _ start)

theorem keeps_perform
    (change : ∀ deliveries given before after, Change before after →
      kept deliveries given before → kept deliveries given after)
    (add : ∀ deliveries given cluster request, kept deliveries given cluster →
      kept deliveries given (cluster.addRequest request))
    (beat : ∀ deliveries given cluster, kept deliveries given cluster →
      kept (deliveries ++ cluster.heartbeat.1) (given ++ cluster.beatAnswers) cluster.heartbeat.2)
    (action : Action) (given : List Answer) (start : kept deliveries given cluster) :
    kept (deliveries ++ (⟨cluster, action⟩ : Occurrence).deliveries)
      (given ++ (⟨cluster, action⟩ : Occurrence).answers) (cluster.perform action).2.2 := by
  -- Heartbeats and requests may come several at once; every other action is a single change.
  by_cases ticks : ∃ beats, action = .tick beats
  · obtain ⟨beats, rfl⟩ := ticks
    exact keeps_tick kept beat beats start
  have still := not_exists.mp ticks
  have ungranted : (⟨cluster, action⟩ : Occurrence).answers = [] := by
    cases action with
    | tick beats => exact absurd rfl (still beats)
    | _ => rfl
  rw [ungranted, List.append_nil]
  by_cases adds : ∃ request times, action = .add request times
  · obtain ⟨request, times, rfl⟩ := adds
    have nothing : (⟨cluster, .add request times⟩ : Occurrence).deliveries = [] := rfl
    rw [nothing, List.append_nil]
    exact keeps_addRequests (kept deliveries given) request
      (fun cluster => add deliveries given cluster request) times start
  · have single : ∀ request times, action ≠ .add request times :=
      fun request times same => adds ⟨request, times, same⟩
    obtain ⟨nothing, changed⟩ : _ ∧ Change cluster _ := change_perform still single
    rw [Occurrence.deliveries, nothing, List.append_nil]
    exact change deliveries given _ _ changed start

theorem History.keeps {trace : List Occurrence} (history : History config trace cluster)
    (start : kept [] [] (Cluster.init config))
    (change : ∀ deliveries given before after, Change before after →
      kept deliveries given before → kept deliveries given after)
    (add : ∀ deliveries given cluster request, kept deliveries given cluster →
      kept deliveries given (cluster.addRequest request))
    (beat : ∀ deliveries given cluster, kept deliveries given cluster →
      kept (deliveries ++ cluster.heartbeat.1) (given ++ cluster.beatAnswers) cluster.heartbeat.2) :
    kept (deliveredIn trace) (answersIn trace) cluster := by
  induction history with
  | init => exact start
  | act action _ ih =>
      have next := keeps_perform kept change add beat action _ ih
      simpa only [deliveredIn, answersIn, List.flatMap_append, List.flatMap_singleton] using next

def recordAll : List Action → Cluster → List Occurrence
  | [], _ => []
  | action :: rest, cluster =>
    ⟨cluster, action⟩ :: recordAll rest (cluster.perform action).2.2

def performAll (actions : List Action) (cluster : Cluster) : Cluster :=
  actions.foldl (fun cluster action => (cluster.perform action).2.2) cluster

theorem History.performAll (actions : List Action) :
    ∀ {trace cluster}, History config trace cluster →
      History config (trace ++ recordAll actions cluster) (cluster.performAll actions) := by
  induction actions with
  | nil =>
      intro trace cluster history
      simpa only [recordAll, List.append_nil, Cluster.performAll, List.foldl_nil] using history
  | cons action rest ih =>
      intro trace cluster history
      have later := ih (history.act action)
      simpa only [recordAll, List.append_assoc, List.singleton_append, Cluster.performAll,
        List.foldl_cons] using later

theorem history_performAll (actions : List Action) :
    History config (recordAll actions (init config)) ((init config).performAll actions) := by
  have start : History config [] (init config) := .init
  simpa only [List.nil_append] using start.performAll actions

end Muster.Cluster
