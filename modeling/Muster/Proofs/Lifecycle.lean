import Muster.Proofs.Records

/-!
The life of a container on a simulated cluster. It is granted under a name of its own, perhaps a
process is launched in it, and then it ends; each of this happens once at most, in whatever order an
application and whoever controls the simulation make their calls.
-/

namespace Muster.Cluster

open Coordinator (Delivery)

variable {cluster before after : Cluster} {config : ClusterConfig} {trace : List Occurrence}
  {deliveries : List Delivery} {id : ContainerId}

inductive Stage
  | granted
  | launched
  | completed
  deriving DecidableEq, Repr

/-- Where a container is in its life, if there is such a container. -/
def stage? (cluster : Cluster) (id : ContainerId) : Option Stage :=
  match cluster.live.get? id.name with
  | some occupant => some (if occupant.launched then .launched else .granted)
  | none =>
    if id.name ∈ (List.range' 1 cluster.granted).map containerName then some .completed else none

/-- The steps of a container's life. -/
inductive Arrow : Option Stage → Option Stage → Prop
  | grant : Arrow none (some .granted)
  | launch : Arrow (some .granted) (some .launched)
  | drop : Arrow (some .granted) (some .completed)
  | finish : Arrow (some .launched) (some .completed)

theorem stage?_of_live {occupant : Occupant} (live : cluster.live.get? id.name = some occupant) :
    cluster.stage? id = some (if occupant.launched then .launched else .granted) := by
  simp only [stage?, live]

theorem Traced.stage?_of_dead (traced : Traced deliveries cluster)
    (dead : cluster.live.get? id.name = none) :
    cluster.stage? id =
      if id.name ∈ (endsOf deliveries cluster).map (·.id.name) then some .completed else none := by
  simp only [stage?, dead]
  rw [← traced.names]
  have gone := traced.gone id.name
  simp only [dead, and_true] at gone
  simp only [gone]

theorem stage?_same (live : after.live = before.live) (granted : after.granted = before.granted)
    (id : ContainerId) : after.stage? id = before.stage? id := by
  rw [stage?, stage?, live, granted]

theorem Traced.arrow_ending (traced : Traced deliveries before) {occupant : Occupant}
    (status : ContainerStatus) (live : before.live.get? status.id.name = some occupant)
    (ended : after.live = before.live.erase status.id.name)
    (granted : after.granted = before.granted) (id : ContainerId) :
    after.stage? id = before.stage? id ∨ Arrow (before.stage? id) (after.stage? id) := by
  have found : after.live.get? id.name =
      if status.id.name = id.name then none else before.live.get? id.name := by
    rw [ended, Dict.get?_erase]
  by_cases same : status.id.name = id.name
  · right
    rw [if_pos same] at found
    rw [same] at live
    have known : id.name ∈ (List.range' 1 before.granted).map containerName := by
      rw [← traced.names]
      exact traced.known _ _ live
    have completed : after.stage? id = some .completed := by
      simp only [stage?, found, granted, known, if_true]
    rw [stage?_of_live live, completed]
    cases occupant.launched with
    | true => exact .finish
    | false => exact .drop
  · left
    rw [if_neg same] at found
    rw [stage?, stage?, found, granted]

theorem Traced.arrow_change (traced : Traced deliveries before) (change : Change before after)
    (id : ContainerId) :
    after.stage? id = before.stage? id ∨ Arrow (before.stage? id) (after.stage? id) := by
  cases change with
  | adjust same => exact .inl (stage?_same same.live same.granted id)
  | release other occupant live =>
      exact traced.arrow_ending (Cluster.handedBack other) live (by rfl) (by rfl) id
  | refuse other occupant live idle =>
      exact traced.arrow_ending (refusal other) live (by rfl) (by rfl) id
  | finish other status occupant live running =>
      exact traced.arrow_ending (exited other status) live (by rfl) (by rfl) id
  | launch container context occupant live idle =>
      have found := Dict.get?_insert before.live container.id.name id.name
        { occupant with launched := true }
      by_cases same : container.id.name = id.name
      · right
        rw [if_pos same] at found
        rw [same] at live
        rw [stage?_of_live live, idle, stage?_of_live found]
        exact .launch
      · left
        rw [if_neg same] at found
        simp only [stage?, found]

theorem Traced.stage?_heartbeat (traced : Traced deliveries cluster) (id : ContainerId) :
    cluster.heartbeat.2.stage? id = cluster.stage? id ∨
      cluster.stage? id = none ∧ cluster.heartbeat.2.stage? id = some .granted := by
  have beat := traced.beat
  have ends := endsOf_heartbeat cluster deliveries
  cases live : cluster.live.get? id.name with
  | some occupant =>
      left
      have kept := traced.get?_heartbeat (traced.known _ _ live)
      rw [live] at kept
      rw [stage?_of_live live, stage?_of_live kept]
  | none =>
      cases later : cluster.heartbeat.2.live.get? id.name with
      | none =>
          left
          rw [traced.stage?_of_dead live, beat.stage?_of_dead later, ends]
      | some occupant =>
          right
          have unended := beat.live_unended later
          rw [ends] at unended
          constructor
          · rw [traced.stage?_of_dead live, if_neg unended]
          · rw [stage?_of_live later]
            -- A launch would be one of before the heartbeat, of a container that has ended since.
            have idle : occupant.launched ≠ true := by
              intro launched
              have member := (beat.running _ _ later).mp launched
              rw [launches_heartbeat] at member
              obtain ⟨launch, among, same⟩ := List.mem_map.mp member
              exact unended ((traced.gone _).mpr ⟨same ▸ traced.given launch among, live⟩)
            rw [if_neg idle]

theorem Traced.stage?_tick (traced : Traced deliveries cluster) (beats : Nat) (id : ContainerId) :
    (tick beats cluster).2.stage? id = cluster.stage? id ∨
      cluster.stage? id = none ∧ (tick beats cluster).2.stage? id = some .granted := by
  induction beats generalizing deliveries cluster with
  | zero => exact .inl rfl
  | succ beats ih =>
      have first := traced.stage?_heartbeat id
      have rest := ih traced.beat
      change (tick beats cluster.heartbeat.2).2.stage? id = _ ∨
        _ ∧ (tick beats cluster.heartbeat.2).2.stage? id = _
      rcases rest with still | ⟨unborn, born⟩
      · rw [still]
        exact first
      · rcases first with same | ⟨_, granted⟩
        · exact .inr ⟨same ▸ unborn, born⟩
        · rw [unborn] at granted
          cases granted

theorem stage?_addRequests (request : ContainerRequest) (times : Nat) (id : ContainerId) :
    (addRequests request times cluster).stage? id = cluster.stage? id := by
  induction times generalizing cluster with
  | zero => rfl
  | succ times ih => exact ih

theorem Traced.arrow_perform (traced : Traced deliveries cluster) (action : Action)
    (id : ContainerId) :
    (cluster.perform action).2.2.stage? id = cluster.stage? id ∨
      Arrow (cluster.stage? id) ((cluster.perform action).2.2.stage? id) := by
  by_cases ticks : ∃ beats, action = .tick beats
  · obtain ⟨beats, rfl⟩ := ticks
    rcases traced.stage?_tick beats id with same | ⟨unborn, granted⟩
    · exact .inl same
    · right
      change Arrow _ ((tick beats cluster).2.stage? id)
      rw [unborn, granted]
      exact .grant
  · by_cases adds : ∃ request times, action = .add request times
    · obtain ⟨request, times, rfl⟩ := adds
      exact .inl (stage?_addRequests request times id)
    · refine traced.arrow_change (change_perform (not_exists.mp ticks) ?_).2 id
      exact fun request times same => adds ⟨request, times, same⟩

/-! ## Lives -/

def Occurrence.entered? (id : ContainerId) (occurrence : Occurrence) : Option Stage :=
  if occurrence.after.stage? id = occurrence.cluster.stage? id then none
  else occurrence.after.stage? id

/-- The stages that a container came to, the first one first. -/
def entered (id : ContainerId) (trace : List Occurrence) : List Stage :=
  trace.filterMap (·.entered? id)

def lives : List (List Stage × Option Stage) :=
  [([], none), ([.granted], some .granted), ([.granted, .launched], some .launched),
    ([.granted, .completed], some .completed), ([.granted, .launched, .completed], some .completed)]

theorem mem_lives_of_arrow {stages : List Stage} {stage next : Option Stage}
    (member : (stages, stage) ∈ lives) (arrow : Arrow stage next) :
    (stages ++ next.toList, next) ∈ lives := by
  simp only [lives, List.mem_cons, Prod.mk.injEq, List.not_mem_nil, or_false] at member ⊢
  cases arrow <;> simp_all

theorem History.lives (history : History config trace cluster) (id : ContainerId) :
    (entered id trace, cluster.stage? id) ∈ Cluster.lives := by
  induction history with
  | init => exact List.mem_cons_self
  | @act trace cluster action history ih =>
      have unfolded : entered id (trace ++ [⟨cluster, action⟩]) =
          entered id trace ++ ((⟨cluster, action⟩ : Occurrence).entered? id).toList := by
        simp only [entered, List.filterMap_append, List.filterMap_cons, List.filterMap_nil]
        cases (⟨cluster, action⟩ : Occurrence).entered? id <;> rfl
      rw [unfolded, Occurrence.entered?]
      split
      · rename_i same
        change (_, (⟨cluster, action⟩ : Occurrence).after.stage? id) ∈ _
        rw [same]
        simpa only [Option.toList_none, List.append_nil] using ih
      · rename_i moved
        rcases history.traced.arrow_perform action id with same | arrow
        · exact absurd same moved
        · exact mem_lives_of_arrow ih arrow

theorem refused_startContainer {container : Container} {context : LaunchContext} {host : Host}
    (refused : (cluster.startContainer container context).1 = .error (.launchRefused host)) :
    container.host = host ∧ ∃ occupant, cluster.live.get? container.id.name = some occupant ∧
      occupant.launched = false ∧
      (cluster.startContainer container context).2 =
        cluster.ending occupant (refusal container.id) := by
  rcases cluster.startContainer_cases container context with
    ⟨_, outcome⟩ | ⟨occupant, live, ⟨_, outcome⟩ | ⟨idle, outcome⟩ | ⟨_, outcome⟩⟩
  · rw [outcome] at refused
    cases refused
  · rw [outcome] at refused
    cases refused
  · rw [outcome] at refused ⊢
    cases refused
    exact ⟨rfl, occupant, live, idle, rfl⟩
  · rw [outcome] at refused
    cases refused

theorem unchanged_startContainer {container : Container} {context : LaunchContext}
    {error : ClusterError}
    (failed : (cluster.startContainer container context).1 = .error error)
    (accepted : ∀ host, error ≠ .launchRefused host) :
    (cluster.startContainer container context).2 = cluster := by
  rcases cluster.startContainer_cases container context with
    ⟨_, outcome⟩ | ⟨occupant, _, ⟨_, outcome⟩ | ⟨_, outcome⟩ | ⟨_, outcome⟩⟩
  · rw [outcome]
  · rw [outcome]
  · rw [outcome] at failed
    exact absurd (Except.error.inj failed).symm (accepted container.host)
  · rw [outcome] at failed
    cases failed

theorem settle_failed {result : Except ClusterError Cluster} {error : ClusterError}
    (failed : (cluster.settle result).1 = .failed error) : (cluster.settle result).2 = cluster := by
  cases result with
  | ok after => cases failed
  | error error => rfl

theorem perform_launch (container : Container) (context : LaunchContext) :
    cluster.perform (.launch container context) =
      (match (cluster.startContainer container context).1 with
        | .ok _ => .done
        | .error error => .failed error,
        [], (cluster.startContainer container context).2) := by
  simp only [perform]
  split <;> rename_i outcome <;> rw [outcome]

theorem perform_launch_failed {container : Container} {context : LaunchContext}
    {error : ClusterError}
    (failed : (cluster.perform (.launch container context)).1 = .failed error) :
    (cluster.startContainer container context).1 = .error error := by
  rw [perform_launch] at failed
  cases outcome : (cluster.startContainer container context).1 with
  | ok done =>
      rw [outcome] at failed
      cases failed
  | error other =>
      rw [outcome] at failed
      cases failed
      rfl

theorem perform_failed {action : Action} {error : ClusterError}
    (failed : (cluster.perform action).1 = .failed error)
    (accepted : ∀ host, error ≠ .launchRefused host) :
    (cluster.perform action).2 = ([], cluster) := by
  cases action with
  | start => exact congrArg (Prod.mk []) (settle_failed failed)
  | register registration => exact congrArg (Prod.mk []) (settle_failed failed)
  | unregister status diagnostics => exact congrArg (Prod.mk []) (settle_failed failed)
  | launch container context =>
      rw [perform_launch]
      exact congrArg (Prod.mk []) (unchanged_startContainer (perform_launch_failed failed) accepted)
  | nodeHosts =>
      simp only [perform] at failed ⊢
      split at failed
      · cases failed
      · rfl
  | intervene intervention =>
      cases intervention with
      | finish id status => exact congrArg (Prod.mk []) (settle_failed failed)
      | _ => cases failed
  | _ => cases failed

theorem launch_of_refused {action : Action} {host : Host}
    (refused : (cluster.perform action).1 = .failed (.launchRefused host)) :
    ∃ container context, action = .launch container context := by
  cases action with
  | launch container context => exact ⟨container, context, rfl⟩
  | start =>
      simp only [perform, start] at refused
      split at refused <;> try split at refused
      all_goals cases refused
  | register registration =>
      simp only [perform, register] at refused
      split at refused <;> try split at refused
      all_goals cases refused
  | unregister status diagnostics =>
      simp only [perform, unregister] at refused
      split at refused <;> cases refused
  | nodeHosts =>
      simp only [perform, nodeHosts] at refused
      split at refused
      · cases refused
      · rename_i failed
        split at failed <;> cases failed
        cases refused
  | intervene intervention =>
      cases intervention with
      | finish id status =>
          simp only [perform, intervene] at refused
          rcases cluster.finish_cases id status with unknown | ⟨_, _, _, ended⟩
          · rw [unknown] at refused
            cases refused
          · rw [ended] at refused
            cases refused
      | _ => cases refused
  | _ => cases refused

theorem mem_endsOf_change {status : ContainerStatus} (change : Change before after)
    (member : status ∈ endsOf deliveries before) : status ∈ endsOf deliveries after := by
  rw [endsOf, List.mem_append] at member ⊢
  apply member.imp_right
  intro queued
  cases change with
  | adjust same => rwa [same.completed]
  | launch => exact queued
  | _ => exact List.mem_append_left _ queued

theorem mem_endsOf_perform {status : ContainerStatus} (action : Action)
    (member : status ∈ endsOf deliveries cluster) :
    status ∈ endsOf (deliveries ++ (⟨cluster, action⟩ : Occurrence).deliveries)
      (cluster.perform action).2.2 := by
  refine keeps_perform (fun deliveries _ cluster => status ∈ endsOf deliveries cluster) ?_ ?_ ?_
    action [] member
  · exact fun _ _ _ _ change => mem_endsOf_change change
  · exact fun _ _ _ _ earlier => earlier
  · intro deliveries _ cluster earlier
    rwa [endsOf_heartbeat]

def Occurrence.Refuses (occurrence : Occurrence) (id : ContainerId) : Prop :=
  ∃ container context, occurrence.action = .launch container context ∧ container.id = id ∧
    occurrence.reply = .failed (.launchRefused container.host)

theorem History.refused (history : History config trace cluster) :
    ∀ occurrence ∈ trace, occurrence.Refuses id →
      refusal id ∈ endsOf (deliveredIn trace) cluster := by
  induction history with
  | init => exact fun _ member => absurd member List.not_mem_nil
  | @act trace cluster action history ih =>
      intro occurrence member refuses
      rw [deliveredIn, List.flatMap_append, List.flatMap_singleton]
      rcases List.mem_append.mp member with earlier | last
      · exact mem_endsOf_perform action (ih occurrence earlier refuses)
      · obtain ⟨container, context, launch, rfl, failed⟩ := refuses
        rw [List.mem_singleton.mp last] at launch failed
        change action = _ at launch
        subst launch
        obtain ⟨_, occupant, _, _, ended⟩ := refused_startContainer (perform_launch_failed failed)
        rw [perform_launch]
        change _ ∈ endsOf _ (cluster.startContainer container context).2
        rw [ended, endsOf, List.mem_append]
        exact .inr (List.mem_append_right _ List.mem_cons_self)

theorem Traced.refused_unreleased (traced : Traced deliveries cluster)
    (refused : refusal id ∈ endsOf deliveries cluster) : id ∉ cluster.released := by
  intro member
  have same : Cluster.handedBack id = refusal id :=
    List.inj_on_of_nodup_map traced.ended (traced.handedBack id member) refused rfl
  exact handedBack_ne_refusal id id same

/-! ## What a history says about containers -/

theorem mem_ids_iff {α : Type} (idOf : α → ContainerId) (items : List α) :
    id ∈ items.map idOf ↔ id.name ∈ items.map fun item => (idOf item).name := by
  simp only [List.mem_map]
  constructor
  · rintro ⟨item, member, rfl⟩
    exact ⟨item, member, rfl⟩
  · rintro ⟨item, member, same⟩
    exact ⟨item, member, congrArg ContainerId.mk same⟩

theorem nodup_ids {α : Type} {idOf : α → ContainerId} {items : List α}
    (distinct : (items.map fun item => (idOf item).name).Nodup) : (items.map idOf).Nodup := by
  apply List.Nodup.of_map ContainerId.name
  rwa [List.map_map]

theorem Traced.distinct (traced : Traced deliveries cluster) :
    ((containersIn deliveries).map (·.id)).Nodup := by
  apply nodup_ids
  rw [traced.names]
  exact (List.nodup_range' 1).map fun _ _ => containerName_injective

theorem Traced.isSome_stage?_iff (traced : Traced deliveries cluster) :
    (cluster.stage? id).isSome = true ↔ id ∈ (containersIn deliveries).map (·.id) := by
  rw [mem_ids_iff]
  cases live : cluster.live.get? id.name with
  | some occupant =>
      rw [stage?_of_live live]
      exact iff_of_true rfl (traced.known _ _ live)
  | none =>
      have gone := traced.gone id.name
      rw [live, eq_self, and_true] at gone
      rw [traced.stage?_of_dead live, ← gone]
      split
      · exact iff_of_true rfl ‹_›
      · exact iff_of_false Bool.false_ne_true ‹_›

theorem Traced.completed_iff (traced : Traced deliveries cluster) :
    cluster.stage? id = some .completed ↔ id ∈ (endsOf deliveries cluster).map (·.id) := by
  rw [mem_ids_iff]
  cases live : cluster.live.get? id.name with
  | some occupant =>
      rw [stage?_of_live live]
      apply iff_of_false
      · split <;> simp
      · exact traced.live_unended live
  | none =>
      rw [traced.stage?_of_dead live]
      split
      · exact iff_of_true rfl ‹_›
      · exact iff_of_false nofun ‹_›

theorem Traced.launched_iff (traced : Traced deliveries cluster) :
    cluster.stage? id = some .launched ↔
      id ∈ cluster.launches.map (·.1.id) ∧ (cluster.live.get? id.name).isSome = true := by
  rw [mem_ids_iff]
  cases live : cluster.live.get? id.name with
  | some occupant =>
      rw [stage?_of_live live, ← traced.running _ _ live]
      cases occupant.launched <;> simp
  | none =>
      rw [traced.stage?_of_dead live]
      split <;> simp

theorem Traced.occupied_pos (traced : Traced deliveries cluster) {name : String}
    {occupant : Occupant} (live : cluster.live.get? name = some occupant) :
    0 < cluster.slotsUsed occupant.container.host := by
  have freed : Freed cluster (cluster.ending occupant (refusal ⟨name⟩)) occupant.container :=
    traced.booked.freed_ending live
  have slots := freed.slots occupant.container.host
  rw [if_pos rfl] at slots
  omega

/-- The containers of a cluster with a given past live once. -/
structure LivedOnce (trace : List Occurrence) (cluster : Cluster) : Prop where
  distinct : ((containersIn (deliveredIn trace)).map (·.id)).Nodup
  stages : ∀ id, (entered id trace, cluster.stage? id) ∈ Cluster.lives
  granted : ∀ id, (cluster.stage? id).isSome = true ↔
    id ∈ (containersIn (deliveredIn trace)).map (·.id)
  completed : ∀ id, cluster.stage? id = some .completed ↔
    id ∈ (endsOf (deliveredIn trace) cluster).map (·.id)
  completedOnce : ((endsOf (deliveredIn trace) cluster).map (·.id)).Nodup
  launched : ∀ id, cluster.stage? id = some .launched ↔
    id ∈ cluster.launches.map (·.1.id) ∧ (cluster.live.get? id.name).isSome = true
  launchedOnce : (cluster.launches.map (·.1.id)).Nodup
  released : ∀ id ∈ cluster.released, handedBack id ∈ endsOf (deliveredIn trace) cluster
  releasedOnce : cluster.released.Nodup
  refused : ∀ id, ∀ occurrence ∈ trace, occurrence.Refuses id →
    refusal id ∈ endsOf (deliveredIn trace) cluster ∧
      id ∉ cluster.launches.map (·.1.id) ∧ id ∉ cluster.released
  slots : ∀ host, cluster.slotsUsed host = cluster.occupied host ∧
    cluster.slotsUsed host ≤ cluster.config.slotsPerHost
  used : ∀ name occupant, cluster.live.get? name = some occupant →
    0 < cluster.slotsUsed occupant.container.host

/-- What an action leaves as it was, and what a refused launch changes. -/
structure Contained (cluster : Cluster) (action : Action) : Prop where
  failed : ∀ error, (cluster.perform action).1 = .failed error →
    (∀ host, error ≠ .launchRefused host) → (cluster.perform action).2 = ([], cluster)
  stale : ∀ id, action = .release id → cluster.live.get? id.name = none →
    cluster.perform action = (.nothing, [], cluster)
  refused : ∀ host, (cluster.perform action).1 = .failed (.launchRefused host) →
    ∃ container context occupant, action = .launch container context ∧ container.host = host ∧
      cluster.live.get? container.id.name = some occupant ∧ occupant.launched = false ∧
      (cluster.perform action).2 = ([], cluster.ending occupant (refusal container.id))

theorem contained (cluster : Cluster) (action : Action) : Contained cluster action where
  failed _ := perform_failed
  stale id release dead := by
    subst release
    simp only [perform, release_of_dead dead]
  refused host failed := by
    obtain ⟨container, context, rfl⟩ := launch_of_refused failed
    obtain ⟨same, occupant, live, idle, ended⟩ :=
      refused_startContainer (perform_launch_failed failed)
    refine ⟨container, context, occupant, rfl, same, live, idle, ?_⟩
    rw [perform_launch, ended]

theorem containers_live_once (history : History config trace cluster) :
    LivedOnce trace cluster ∧ ∀ action, Contained cluster action := by
  have traced := history.traced
  refine ⟨?_, cluster.contained⟩
  exact {
    distinct := traced.distinct
    stages := history.lives
    granted := fun _ => traced.isSome_stage?_iff
    completed := fun _ => traced.completed_iff
    completedOnce := nodup_ids traced.ended
    launched := fun _ => traced.launched_iff
    launchedOnce := nodup_ids traced.launched
    released := traced.handedBack
    releasedOnce := traced.released
    refused := fun id occurrence member refuses => by
      have refused := history.refused occurrence member refuses
      rw [mem_ids_iff]
      exact ⟨refused, traced.refused id refused, traced.refused_unreleased refused⟩
    slots := fun host => ⟨traced.booked.slots host, traced.within host⟩
    used := fun _ _ => traced.occupied_pos }

def pair : ClusterConfig where
  hosts := ["h1", "h2"]
  slotsPerHost := 2
  surplusWorkers := 1

def anyWorker : ContainerRequest where
  role := .worker
  shape := ⟨1024, 1⟩
  placement := {}
  racks := []
  priority := Role.worker.priority

def simulated (index : Nat) (host : Host) : Container where
  id := ⟨containerName index⟩
  host
  nodeHttpAddress := host ++ ":8042"
  shape := anyWorker.shape
  priority := anyWorker.priority

def quarrel : List Action :=
  [.start, .add anyWorker 2, .tick 1, .intervene (.failLaunchesOn "h2"),
    .launch (simulated 1 "h1") {}, .launch (simulated 1 "h1") {}, .launch (simulated 2 "h2") {},
    .launch (simulated 2 "h2") {}, .release ⟨containerName 3⟩, .release ⟨containerName 3⟩,
    .intervene (.finish ⟨containerName 1⟩ .success),
    .intervene (.finish ⟨containerName 1⟩ .success), .tick 2]

theorem containers_live_once_quarrel : ∃ trace cluster,
    History pair trace cluster ∧
      entered ⟨containerName 1⟩ trace = [.granted, .launched, .completed] ∧
      entered ⟨containerName 2⟩ trace = [.granted, .completed] ∧
      trace.map (·.reply) = [.done, .nothing, .nothing, .nothing, .done,
        .failed (.alreadyLaunched ⟨containerName 1⟩), .failed (.launchRefused "h2"),
        .failed (.unknownContainer ⟨containerName 2⟩), .nothing, .nothing, .done,
        .failed (.unknownContainer ⟨containerName 1⟩), .nothing] ∧
      LivedOnce trace cluster ∧ ∀ action, Contained cluster action := by
  have history : History pair _ _ := history_performAll quarrel
  obtain ⟨lived, calls⟩ := containers_live_once history
  refine ⟨_, _, history, ?_, ?_, ?_, lived, calls⟩ <;> decide +kernel

end Muster.Cluster
