import Muster.Proofs.Lifecycle
import Muster.Proofs.Requests

/-!
The ends of the containers of a simulated cluster. Each action brings about the ends of those
containers that held a slot before it and hold none after it. They are delivered in the order in
which they came about, whatever is stopped and started in between, and each of them after the
container itself.
-/

namespace Muster.Cluster

open Coordinator (Delivery)

variable {cluster before after : Cluster} {config : ClusterConfig}
  {trace earlier later : List Occurrence} {occurrence : Occurrence} {deliveries : List Delivery}

theorem History.last (history : History config (trace ++ [occurrence]) cluster) :
    History config trace occurrence.cluster ∧ cluster = occurrence.after := by
  generalize whole : trace ++ [occurrence] = all at history
  cases history with
  | init => simp at whole
  | act action past =>
      obtain ⟨rfl, same⟩ := List.append_inj' whole rfl
      cases same
      exact ⟨past, rfl⟩

theorem History.upTo (history : History config (earlier ++ occurrence :: later) cluster) :
    History config earlier occurrence.cluster := by
  induction later using List.reverseRecOn generalizing cluster with
  | nil => exact history.last.1
  | append_singleton others last ih =>
      rw [← List.cons_append, ← List.append_assoc] at history
      exact ih history.last.1

theorem History.next (history : History config trace occurrence.cluster) :
    History config (trace ++ [occurrence]) occurrence.after :=
  history.act occurrence.action

/-! ## The ends of containers -/

/-- The ends of containers that an action brings about. -/
def Occurrence.ends (occurrence : Occurrence) : List ContainerStatus :=
  match occurrence.action, occurrence.reply with
  | .release id, _ =>
    if (occurrence.cluster.live.get? id.name).isSome then [handedBack id] else []
  | .launch container _, .failed (.launchRefused _) => [refusal container.id]
  | .intervene (.finish id status), .done => [exited id status]
  | _, _ => []

def endedIn (trace : List Occurrence) : List ContainerStatus :=
  trace.flatMap (·.ends)

theorem deliveries_eq_nil (still : ∀ beats, occurrence.action ≠ .tick beats) :
    occurrence.deliveries = [] := by
  obtain ⟨cluster, action⟩ := occurrence
  by_cases adds : ∃ request times, action = .add request times
  · obtain ⟨request, times, rfl⟩ := adds
    rfl
  · exact (change_perform still fun request times same => adds ⟨request, times, same⟩).1

theorem endsOf_same (deliveries : List Delivery) (same : after.completed = before.completed) :
    endsOf (deliveries ++ []) after = endsOf deliveries before ++ [] := by
  rw [List.append_nil, List.append_nil, endsOf, same, endsOf]

theorem endsOf_ending (deliveries : List Delivery) (occupant : Occupant)
    (status : ContainerStatus) :
    endsOf (deliveries ++ []) (cluster.ending occupant status) =
      endsOf deliveries cluster ++ [status] := by
  rw [List.append_nil]
  exact (List.append_assoc _ _ _).symm

theorem endsOf_tick (deliveries : List Delivery) (beats : Nat) (cluster : Cluster) :
    endsOf (deliveries ++ (tick beats cluster).1) (tick beats cluster).2 =
      endsOf deliveries cluster :=
  @keeps_tick (fun others _ other => endsOf others other = endsOf deliveries cluster)
    (fun others _ other same => (endsOf_heartbeat other others).trans same) beats deliveries []
    cluster rfl

theorem completed_addRequests (request : ContainerRequest) (times : Nat) (cluster : Cluster) :
    (addRequests request times cluster).completed = cluster.completed := by
  induction times generalizing cluster with
  | zero => rfl
  | succ times ih => exact ih (cluster.addRequest request)

theorem endsOf_perform (deliveries : List Delivery) (action : Action) (cluster : Cluster) :
    endsOf (deliveries ++ (⟨cluster, action⟩ : Occurrence).deliveries)
        (cluster.perform action).2.2 =
      endsOf deliveries cluster ++ (⟨cluster, action⟩ : Occurrence).ends := by
  cases action with
  | tick beats => exact (endsOf_tick deliveries beats cluster).trans (List.append_nil _).symm
  | add request times => exact endsOf_same _ (completed_addRequests request times cluster)
  | start => exact endsOf_same _ sameWork_start.completed
  | register registration => exact endsOf_same _ (sameWork_register registration).completed
  | unregister status diagnostics =>
      exact endsOf_same _ (sameWork_unregister status diagnostics).completed
  | release id =>
      cases live : cluster.live.get? id.name with
      | none =>
          have ends : (⟨cluster, .release id⟩ : Occurrence).ends = [] := by
            simp [Occurrence.ends, live]
          rw [ends]
          exact endsOf_same _ (congrArg completed (release_of_dead live))
      | some occupant =>
          have ends : (⟨cluster, .release id⟩ : Occurrence).ends = [handedBack id] := by
            simp [Occurrence.ends, live]
          rw [ends, ← endsOf_ending deliveries occupant]
          simp only [perform, Cluster.release, complete_of_live _ _ live]
          rfl
  | launch container context =>
      rcases cluster.startContainer_cases container context with
        ⟨_, outcome⟩ | ⟨occupant, live, ⟨_, outcome⟩ | ⟨idle, outcome⟩ | ⟨idle, outcome⟩⟩
      all_goals
        simp only [Occurrence.ends, Occurrence.reply, Occurrence.deliveries, perform_launch,
          outcome]
      · exact endsOf_same _ rfl
      · exact endsOf_same _ rfl
      · exact endsOf_ending deliveries occupant _
      · exact endsOf_same _ rfl
  | nodeHosts =>
      simp only [Occurrence.deliveries, perform]
      split <;> exact endsOf_same _ rfl
  | intervene intervention =>
      cases intervention with
      | finish id status =>
          simp only [Occurrence.ends, Occurrence.reply, Occurrence.deliveries, perform, intervene]
          rcases cluster.finish_cases id status with unknown | ⟨occupant, live, running, ended⟩
          · rw [unknown]
            exact endsOf_same _ rfl
          · rw [ended]
            exact endsOf_ending deliveries occupant _
      | _ => exact endsOf_same _ rfl
  | _ => exact endsOf_same _ rfl

theorem History.ended (history : History config trace cluster) :
    endsOf (deliveredIn trace) cluster = endedIn trace := by
  induction history with
  | init => rfl
  | act action _ ih =>
      rw [deliveredIn, endedIn, List.flatMap_append, List.flatMap_append, List.flatMap_singleton,
        List.flatMap_singleton]
      exact (endsOf_perform _ action _).trans (congrArg (· ++ _) ih)

theorem ends_eq_nil (beats : Nat) (ticks : occurrence.action = .tick beats) :
    occurrence.ends = [] := by
  simp only [Occurrence.ends, ticks]

theorem Traced.mem_ends_iff (traced : Traced deliveries occurrence.cluster)
    (next : Traced (deliveries ++ occurrence.deliveries) occurrence.after) (name : String) :
    name ∈ occurrence.ends.map (·.id.name) ↔
      (occurrence.cluster.live.get? name).isSome = true ∧
        occurrence.after.live.get? name = none := by
  have law : endsOf (deliveries ++ occurrence.deliveries) occurrence.after =
      endsOf deliveries occurrence.cluster ++ occurrence.ends :=
    endsOf_perform deliveries occurrence.action occurrence.cluster
  have distinct := next.ended
  have gone := next.gone name
  rw [law, List.map_append] at distinct gone
  rw [List.mem_append] at gone
  constructor
  · intro member
    obtain ⟨known, dead⟩ := gone.mp (.inr member)
    refine ⟨?_, dead⟩
    have silent : occurrence.deliveries = [] := by
      apply deliveries_eq_nil
      intro beats ticks
      rw [ends_eq_nil beats ticks] at member
      cases member
    rw [silent, List.append_nil] at known
    by_contra unborn
    have before := (traced.gone name).mpr ⟨known, Option.not_isSome_iff_eq_none.mp unborn⟩
    exact List.disjoint_of_nodup_append distinct before member
  · rintro ⟨alive, dead⟩
    obtain ⟨occupant, live⟩ := Option.isSome_iff_exists.mp alive
    have known : name ∈ (containersIn (deliveries ++ occurrence.deliveries)).map (·.id.name) := by
      rw [containersIn, List.flatMap_append, List.map_append]
      exact List.mem_append_left _ (traced.known name occupant live)
    exact (gone.mpr ⟨known, dead⟩).resolve_left (traced.live_unended live)

theorem History.live_delivered (history : History config trace cluster) {name : String}
    {occupant : Occupant} (live : cluster.live.get? name = some occupant) :
    occupant.container ∈ containersIn (deliveredIn trace) := by
  revert name occupant
  refine history.keeps (fun deliveries _ cluster => ∀ {name : String} {occupant : Occupant},
    cluster.live.get? name = some occupant → occupant.container ∈ containersIn deliveries)
    ?_ ?_ ?_ ?_
  · intro name occupant live
    simp [Cluster.init] at live
  · intro deliveries _ before after change known name occupant live
    cases change with
    | adjust same => exact known (same.live ▸ live)
    | launch container context other held idle =>
        rw [get?_launching] at live
        split at live
        · have delivered := known held
          cases live
          exact delivered
        · exact known live
    | _ =>
        rw [get?_ending] at live
        split at live
        · cases live
        · exact known live
  · exact fun _ _ _ _ known _ _ live => known live
  · intro deliveries _ cluster known name occupant live
    rw [containersIn, List.flatMap_append, List.mem_append]
    cases running : cluster.isRunning with
    | false =>
        rw [heartbeat_stopped running] at live
        exact .inl (known live)
    | true =>
        rw [(heartbeat_running running).2] at live
        refine ((allotted_grantAll _ _).only name occupant live).imp known fun granted => ?_
        rw [← containersIn, containersIn_heartbeat running]
        exact granted

theorem mem_completed_of_heartbeat {status : ContainerStatus}
    (member : status ∈ endsIn cluster.heartbeat.1) : status ∈ cluster.completed := by
  cases running : cluster.isRunning with
  | false =>
      rw [heartbeat_stopped running] at member
      cases member
  | true => rwa [endsIn_heartbeat running] at member

/-- At no point of some deliveries has an end been among them without its container. -/
def Heralded (deliveries : List Delivery) : Prop :=
  ∀ part rest, deliveries = part ++ rest →
    ∀ status ∈ endsIn part, status.id.name ∈ (containersIn part).map (·.id.name)

theorem Traced.heralded_beat (traced : Traced deliveries cluster) (heralded : Heralded deliveries) :
    Heralded (deliveries ++ cluster.heartbeat.1) := by
  intro part rest parts status member
  rcases List.append_eq_append_iff.mp parts with ⟨new, rfl, beat⟩ | ⟨old, before, _⟩
  · -- What ends at this heartbeat was queued before it, and so its container is not a new one.
    have ended : status ∈ endsOf deliveries cluster := by
      rw [endsIn, List.flatMap_append, List.mem_append] at member
      refine List.mem_append.mpr (member.imp_right fun among => mem_completed_of_heartbeat ?_)
      rw [beat, endsIn, List.flatMap_append]
      exact List.mem_append_left _ among
    rw [containersIn, List.flatMap_append, List.map_append]
    exact List.mem_append_left _ ((traced.gone _).mp (List.mem_map_of_mem ended)).1
  · exact heralded part old before status member

theorem History.heralded (history : History config trace cluster) :
    Heralded (deliveredIn trace) := by
  have both := history.keeps
    (fun deliveries _ cluster => Traced deliveries cluster ∧ Heralded deliveries) ?_ ?_ ?_ ?_
  · exact both.2
  · refine ⟨traced_init config, fun part rest parts status member => ?_⟩
    rw [(List.append_eq_nil_iff.mp parts.symm).1] at member
    cases member
  · exact fun _ _ _ _ change kept => ⟨kept.1.change change, kept.2⟩
  · exact fun _ _ _ request kept => ⟨kept.1.addRequest request, kept.2⟩
  · exact fun _ _ _ kept => ⟨kept.1.beat, kept.1.heralded_beat kept.2⟩

theorem History.delivered_before_end (history : History config trace cluster)
    {first rest : List Delivery} {statuses : List ContainerStatus}
    (parts : deliveredIn trace = first ++ .completed statuses :: rest) {status : ContainerStatus}
    (member : status ∈ statuses) :
    status.id ∈ (containersIn first).map (·.id) ∧
      status.id ∉ (containersIn rest).map (·.id) := by
  have whole : deliveredIn trace = (first ++ [.completed statuses]) ++ rest := by
    rw [parts, List.append_assoc, List.singleton_append]
  have containers : containersIn (first ++ [.completed statuses]) = containersIn first := by
    simp [containersIn]
  have before := history.heralded _ _ whole status (by simp [endsIn, member])
  have distinct := history.traced.distinct
  rw [containers, ← mem_ids_iff] at before
  rw [whole, containersIn, List.flatMap_append, List.map_append, ← containersIn, ← containersIn,
    containers] at distinct
  exact ⟨before, List.disjoint_of_nodup_append distinct before⟩

end Muster.Cluster
