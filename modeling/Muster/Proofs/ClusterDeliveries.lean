import Muster.Proofs.Endings

/-!
What a simulated cluster delivers at which heartbeat. A heartbeat delivers reports about hosts
first, then the ends of containers, then new containers, and last the wish for a shutdown. All hosts
are reported at the first heartbeat after a start, and a shutdown that is asked for several times
between two heartbeats is delivered once.

A heartbeat has taken all that it delivers before the application gets to see any of it. What an
application does in answer to a delivery is therefore a later action of the history.
-/

namespace Muster.Cluster

open Coordinator (Delivery)

variable {cluster before after : Cluster} {config : ClusterConfig} {trace : List Occurrence}
  {occurrence : Occurrence}

/-- The heartbeats of an action as actions of their own. -/
def Occurrence.singly (occurrence : Occurrence) : List Occurrence :=
  match occurrence.action with
  | .tick beats => recordAll (List.replicate beats (.tick 1)) occurrence.cluster
  | _ => [occurrence]

def singly (trace : List Occurrence) : List Occurrence :=
  trace.flatMap (·.singly)

def Single (trace : List Occurrence) : Prop :=
  ∀ occurrence ∈ trace, ∀ beats, occurrence.action = .tick beats → beats = 1

theorem perform_beat (cluster : Cluster) :
    cluster.perform (.tick 1) = (.nothing, cluster.heartbeat) := by
  simp only [perform, tick, List.append_nil]

theorem performAll_ticks (beats : Nat) (cluster : Cluster) :
    cluster.performAll (List.replicate beats (.tick 1)) = (tick beats cluster).2 := by
  induction beats generalizing cluster with
  | zero => rfl
  | succ beats ih => exact ih cluster.heartbeat.2

theorem deliveredIn_ticks (beats : Nat) (cluster : Cluster) :
    deliveredIn (recordAll (List.replicate beats (.tick 1)) cluster) = (tick beats cluster).1 := by
  induction beats generalizing cluster with
  | zero => rfl
  | succ beats ih =>
      have first : (⟨cluster, .tick 1⟩ : Occurrence).deliveries = cluster.heartbeat.1 :=
        congrArg (·.2.1) (perform_beat cluster)
      rw [List.replicate_succ, recordAll, deliveredIn, List.flatMap_cons, first]
      exact congrArg _ (ih cluster.heartbeat.2)

theorem singly_of_still (still : ∀ beats, occurrence.action ≠ .tick beats) :
    occurrence.singly = [occurrence] := by
  unfold Occurrence.singly
  split
  · rename_i beats ticks
    exact absurd ticks (still beats)
  · rfl

theorem History.singly (history : History config trace cluster) :
    History config (singly trace) cluster := by
  induction history with
  | init => exact .init
  | act action _ ih =>
      rw [Cluster.singly, List.flatMap_append, List.flatMap_singleton]
      by_cases ticks : ∃ beats, action = .tick beats
      · obtain ⟨beats, rfl⟩ := ticks
        have beat := ih.performAll (List.replicate beats (.tick 1))
        rw [performAll_ticks] at beat
        exact beat
      · rw [singly_of_still (not_exists.mp ticks)]
        exact ih.act action

theorem deliveredIn_singly (trace : List Occurrence) :
    deliveredIn (singly trace) = deliveredIn trace := by
  rw [deliveredIn, singly, List.flatMap_assoc]
  refine List.flatMap_congr fun occurrence _ => ?_
  by_cases ticks : ∃ beats, occurrence.action = .tick beats
  · obtain ⟨beats, ticks⟩ := ticks
    rw [Occurrence.singly, ticks, Occurrence.deliveries, ticks]
    exact deliveredIn_ticks beats occurrence.cluster
  · rw [singly_of_still (not_exists.mp ticks), List.flatMap_singleton]

theorem action_of_recordAll {actions : List Action} :
    ∀ {cluster : Cluster}, occurrence ∈ recordAll actions cluster →
      occurrence.action ∈ actions := by
  induction actions with
  | nil => exact fun member => absurd member List.not_mem_nil
  | cons action rest ih =>
      intro cluster member
      rcases List.mem_cons.mp member with rfl | later
      · exact List.mem_cons_self
      · exact List.mem_cons_of_mem _ (ih later)

theorem single_singly (trace : List Occurrence) : Single (singly trace) := by
  intro occurrence member beats ticks
  obtain ⟨origin, _, among⟩ := List.mem_flatMap.mp member
  unfold Occurrence.singly at among
  split at among
  · have action := List.eq_of_mem_replicate (action_of_recordAll among)
    rw [ticks] at action
    exact Action.tick.inj action
  · rename_i still
    rw [List.mem_singleton.mp among] at ticks
    exact absurd ticks (still beats)

def Occurrence.delivers (occurrence : Occurrence) : Bool :=
  occurrence.action = .tick 1 && occurrence.cluster.isRunning

def Occurrence.asksShutdown (occurrence : Occurrence) : Bool :=
  occurrence.action = .intervene .requestShutdown

/-- What has happened since the last heartbeat that reached the application. -/
def sinceBeat (past : List Occurrence) : List Occurrence :=
  past.rtakeWhile fun occurrence => !occurrence.delivers

/-- The resource manager was started and not stopped since; this is what has happened since. -/
def RunsSince (past since : List Occurrence) : Prop :=
  ∃ earlier start, past = earlier ++ start :: since ∧ start.action = .start ∧
    start.reply = .done ∧ ∀ occurrence ∈ since, occurrence.action ≠ .stop

theorem sinceBeat_append (past : List Occurrence) (occurrence : Occurrence) :
    sinceBeat (past ++ [occurrence]) =
      if occurrence.delivers then [] else sinceBeat past ++ [occurrence] := by
  rw [sinceBeat, List.rtakeWhile_concat]
  cases occurrence.delivers <;> rfl

inductive Quiet (occurrence : Occurrence) : Prop
  | start (starts : occurrence.action = .start) (done : occurrence.reply = .done)
      (stopped : occurrence.cluster.started = false)
      (after : occurrence.after = { occurrence.cluster with
        started := true
        reports := occurrence.cluster.config.hosts.map fun host => ⟨host, true⟩ })
  | stop (stops : occurrence.action = .stop) (after : occurrence.after = occurrence.cluster.stop)
  | wish (asks : occurrence.action = .intervene .requestShutdown)
      (after : occurrence.after = occurrence.cluster.requestShutdown)
  | other (unstarted : occurrence.action = .start → occurrence.reply ≠ .done)
      (stays : occurrence.action ≠ .stop)
      (unasked : occurrence.action ≠ .intervene .requestShutdown)
      (same : SameNews occurrence.cluster occurrence.after)

theorem quiet_start (cluster : Cluster) : Quiet ⟨cluster, .start⟩ := by
  rcases cluster.start_cases with ⟨error, outcome⟩ | ⟨stopped, outcome⟩
  · refine .other (fun _ => ?_) (by simp) (by simp) ?_
    · simp [Occurrence.reply, perform, outcome, settle]
    · simp only [Occurrence.after, perform, outcome]
      exact .refl cluster
  · refine .start rfl ?_ stopped ?_
    · rw [Occurrence.reply, perform, outcome]
      rfl
    · rw [Occurrence.after, perform, outcome]
      rfl

theorem quiet_perform {action : Action} (still : ∀ beats, action ≠ .tick beats) :
    Quiet ⟨cluster, action⟩ := by
  by_cases starts : action = .start
  · subst starts
    exact quiet_start cluster
  by_cases stops : action = .stop
  · subst stops
    exact .stop rfl rfl
  by_cases asks : action = .intervene .requestShutdown
  · subst asks
    exact .wish rfl rfl
  · exact .other (fun same => absurd same starts) stops asks
      (sameNews_perform still starts stops asks)

theorem Grants.started {containers : List Container} (grants : Grants before containers after) :
    after.started = before.started := by
  induction grants with
  | done => rfl
  | adjust _ _ ih => exact ih
  | grant _ _ _ _ ih => exact ih

theorem started_heartbeat (cluster : Cluster) :
    cluster.heartbeat.2.started = cluster.started := by
  cases running : cluster.isRunning with
  | false => rw [heartbeat_stopped running]
  | true =>
      rw [(heartbeat_running running).2]
      exact (grants_grantAll cluster.pending cluster).started

theorem delivers_cases (single : ∀ beats, occurrence.action = .tick beats → beats = 1) :
    (occurrence.delivers = true ∧ occurrence.cluster.isRunning = true ∧
        occurrence.deliveries = occurrence.cluster.heartbeat.1 ∧
        occurrence.after = occurrence.cluster.heartbeat.2) ∨
      (occurrence.delivers = false ∧ occurrence.deliveries = [] ∧ Quiet occurrence) := by
  obtain ⟨cluster, action⟩ := occurrence
  by_cases ticks : ∃ beats, action = .tick beats
  · obtain ⟨beats, rfl⟩ := ticks
    obtain rfl := single beats rfl
    have beat := cluster.perform_beat
    cases running : cluster.isRunning with
    | true => exact .inl ⟨by simp [Occurrence.delivers, running], rfl,
        by rw [Occurrence.deliveries, beat], by rw [Occurrence.after, beat]⟩
    | false =>
        rw [heartbeat_stopped running] at beat
        refine .inr ⟨by simp [Occurrence.delivers, running], by rw [Occurrence.deliveries, beat],
          .other (by simp) (by simp) (by simp) ?_⟩
        rw [Occurrence.after, beat]
        exact .refl cluster
  · have still := not_exists.mp ticks
    exact .inr ⟨by simp [Occurrence.delivers, still 1], deliveries_eq_nil still,
      quiet_perform still⟩

theorem completed_perform (single : ∀ beats, occurrence.action = .tick beats → beats = 1) :
    occurrence.after.completed =
      if occurrence.delivers then [] else occurrence.cluster.completed ++ occurrence.ends := by
  rcases delivers_cases single with ⟨delivers, running, _, beat⟩ | ⟨idle, silent, _⟩
  · rw [if_pos delivers, beat, (heartbeat_running running).2]
  · have law := endsOf_perform [] occurrence.action occurrence.cluster
    change endsOf ([] ++ occurrence.deliveries) occurrence.after = _ at law
    rw [silent] at law
    rw [idle]
    exact law

theorem shutdownPending_perform
    (single : ∀ beats, occurrence.action = .tick beats → beats = 1) :
    occurrence.after.shutdownPending =
      if occurrence.delivers then false
      else occurrence.cluster.shutdownPending || occurrence.asksShutdown := by
  rcases delivers_cases single with ⟨delivers, running, _, beat⟩ | ⟨idle, _, quiet⟩
  · rw [if_pos delivers, beat, (heartbeat_running running).2]
  · rw [idle]
    cases quiet with
    | start starts _ _ after => simp [after, Occurrence.asksShutdown, starts]
    | stop stops after => simp [after, Cluster.stop, Occurrence.asksShutdown, stops]
    | wish asks after => simp [after, requestShutdown, Occurrence.asksShutdown, asks]
    | other _ _ unasked same => simp [same.shutdownPending, Occurrence.asksShutdown, unasked]

theorem reports_perform (single : ∀ beats, occurrence.action = .tick beats → beats = 1)
    (stays : occurrence.action ≠ .stop)
    (started : occurrence.cluster.started = true) :
    occurrence.after.started = true ∧ occurrence.after.reports =
      if occurrence.delivers then [] else occurrence.cluster.reports := by
  rcases delivers_cases single with ⟨delivers, running, _, beat⟩ | ⟨idle, _, quiet⟩
  · rw [if_pos delivers, beat, started_heartbeat, (heartbeat_running running).2]
    exact ⟨started, rfl⟩
  · rw [idle]
    cases quiet with
    | start _ _ stopped _ => exact absurd (started.symm.trans stopped) Bool.true_eq_false.mp
    | stop stops _ => exact absurd stops stays
    | wish _ after =>
        rw [after]
        exact ⟨started, rfl⟩
    | other _ _ _ same => exact ⟨same.started.trans started, same.reports⟩

theorem started_perform (single : ∀ beats, occurrence.action = .tick beats → beats = 1)
    (started : occurrence.after.started = true) :
    (occurrence.action = .start ∧ occurrence.reply = .done) ∨
      (occurrence.action ≠ .stop ∧ occurrence.cluster.started = true) := by
  rcases delivers_cases single with ⟨delivers, _, _, beat⟩ | ⟨_, _, quiet⟩
  · rw [beat, started_heartbeat] at started
    refine .inr ⟨fun stops => ?_, started⟩
    simp [Occurrence.delivers, stops] at delivers
  · cases quiet with
    | start starts done _ _ => exact .inl ⟨starts, done⟩
    | stop _ after =>
        rw [after] at started
        cases started
    | wish asks after =>
        rw [after] at started
        exact .inr ⟨by simp [asks], started⟩
    | other _ stays _ same => exact .inr ⟨stays, same.started.symm.trans started⟩

theorem reports_start (starts : occurrence.action = .start) (done : occurrence.reply = .done) :
    occurrence.after.started = true ∧
      occurrence.after.reports = occurrence.cluster.config.hosts.map fun host => ⟨host, true⟩ := by
  obtain ⟨cluster, action⟩ := occurrence
  change action = .start at starts
  subst starts
  cases quiet_start cluster with
  | start _ _ _ after =>
      rw [after]
      exact ⟨rfl, rfl⟩
  | stop stops _ => cases stops
  | wish asks _ => cases asks
  | other unstarted _ _ _ => exact absurd done (unstarted rfl)

theorem Single.past (single : Single (trace ++ [occurrence])) : Single trace :=
  fun other member => single other (List.mem_append_left _ member)

theorem Single.last (single : Single (trace ++ [occurrence])) (beats : Nat)
    (ticks : occurrence.action = .tick beats) : beats = 1 :=
  single occurrence (List.mem_append_right _ List.mem_cons_self) beats ticks

theorem History.completed_waits (history : History config trace cluster) (single : Single trace) :
    cluster.completed = endedIn (sinceBeat trace) := by
  induction history with
  | init => rfl
  | act action _ ih =>
      rw [sinceBeat_append]
      refine (completed_perform single.last).trans ?_
      split
      · rfl
      · rw [ih single.past, endedIn, endedIn, List.flatMap_append, List.flatMap_singleton]

theorem History.shutdown_waits (history : History config trace cluster) (single : Single trace) :
    cluster.shutdownPending = (sinceBeat trace).any (·.asksShutdown) := by
  induction history with
  | init => rfl
  | act action _ ih =>
      rw [sinceBeat_append]
      refine (shutdownPending_perform single.last).trans ?_
      split
      · rfl
      · rw [ih single.past, List.any_append, List.any_cons, List.any_nil, Bool.or_false]

theorem History.runsSince (history : History config trace cluster) (single : Single trace)
    (started : cluster.started = true) : ∃ since, RunsSince trace since := by
  induction history with
  | init => cases started
  | @act trace cluster action _ ih =>
      rcases @started_perform ⟨cluster, action⟩ single.last started with
        ⟨starts, done⟩ | ⟨stays, before⟩
      · exact ⟨[], trace, _, rfl, starts, done, fun _ member => absurd member List.not_mem_nil⟩
      · obtain ⟨since, earlier, start, rfl, starts, done, ran⟩ := ih single.past before
        refine ⟨since ++ [⟨cluster, action⟩], earlier, start, ?_, starts, done, ?_⟩
        · rw [List.append_assoc, List.cons_append]
        · intro other member
          rcases List.mem_append.mp member with old | last
          · exact ran other old
          · rw [List.mem_singleton.mp last]
            exact stays

theorem History.reports_wait {since : List Occurrence} (history : History config trace cluster)
    (single : Single trace) (runs : RunsSince trace since) :
    cluster.started = true ∧ cluster.reports =
      if since.any (·.delivers) then [] else config.hosts.map fun host => ⟨host, true⟩ := by
  obtain ⟨earlier, start, rfl, starts, done, ran⟩ := runs
  induction since using List.reverseRecOn generalizing cluster with
  | nil =>
      obtain ⟨past, rfl⟩ := history.last
      rw [← past.queued.same]
      exact reports_start starts done
  | append_singleton others last ih =>
      rw [← List.cons_append, ← List.append_assoc] at history single
      obtain ⟨past, rfl⟩ := history.last
      obtain ⟨started, reports⟩ :=
        ih past single.past fun other member => ran other (List.mem_append_left _ member)
      have stays := ran last (List.mem_append_right _ List.mem_cons_self)
      have step := reports_perform single.last stays started
      rw [reports] at step
      refine ⟨step.1, step.2.trans ?_⟩
      rw [List.any_append, List.any_cons, List.any_nil, Bool.or_false]
      cases last.delivers <;> simp

/-! ## Heartbeats -/

def turnOf : Delivery → Nat
  | .nodes _ => 0
  | .completed _ => 1
  | .allocated _ => 2
  | .error _ => 3
  | .shutdown => 4

def reportsIn (deliveries : List Delivery) : List NodeReport :=
  deliveries.flatMap fun
    | .nodes reports => reports
    | _ => []

theorem ordered_heartbeat (cluster : Cluster) :
    (cluster.heartbeat.1.map turnOf).Pairwise (· < ·) := by
  cases running : cluster.isRunning with
  | false =>
      rw [heartbeat_stopped running]
      exact .nil
  | true =>
      rw [(heartbeat_running running).1]
      cases cluster.reports <;> cases cluster.completed <;> cases cluster.allocate.1 <;>
        cases cluster.shutdownPending <;> simp [deliver, turnOf]

theorem reportsIn_heartbeat (running : cluster.isRunning = true) :
    reportsIn cluster.heartbeat.1 = cluster.reports := by
  rw [(heartbeat_running running).1]
  simp only [reportsIn, List.flatMap_append]
  cases cluster.reports <;> cases cluster.completed <;> cases cluster.allocate.1 <;>
    cases cluster.shutdownPending <;> simp [deliver]

theorem shutdowns_heartbeat (running : cluster.isRunning = true) :
    cluster.heartbeat.1.count .shutdown = if cluster.shutdownPending then 1 else 0 := by
  rw [(heartbeat_running running).1]
  cases cluster.reports <;> cases cluster.completed <;> cases cluster.allocate.1 <;>
    cases cluster.shutdownPending <;> simp [deliver]

/-- What a heartbeat delivers, by what has happened before it. Each kind of delivery comes once at
most, since the turns rise. -/
structure Heartbeat (config : ClusterConfig) (past : List Occurrence) (beat : Occurrence) :
    Prop where
  delivers : beat.delivers = true ↔ config.heartbeatMs ≠ 0 ∧ ∃ since, RunsSince past since
  idle : beat.delivers = false → beat.deliveries = [] ∧ beat.after = beat.cluster
  ordered : (beat.deliveries.map turnOf).Pairwise (· < ·)
  ends : beat.delivers = true → endsIn beat.deliveries = endedIn (sinceBeat past)
  shutdown : beat.delivers = true → beat.deliveries.count .shutdown =
    if (sinceBeat past).any (·.asksShutdown) then 1 else 0
  reports : beat.delivers = true → ∀ since, RunsSince past since → reportsIn beat.deliveries =
    if since.any (·.delivers) then [] else config.hosts.map fun host => ⟨host, true⟩

theorem History.heartbeat {past : List Occurrence} {beat : Occurrence}
    (history : History config past beat.cluster) (single : Single past)
    (ticks : beat.action = .tick 1) : Heartbeat config past beat := by
  obtain ⟨cluster, action⟩ := beat
  change action = .tick 1 at ticks
  subst ticks
  have delivered : (⟨cluster, .tick 1⟩ : Occurrence).deliveries = cluster.heartbeat.1 := by
    rw [Occurrence.deliveries, perform_beat]
  have delivers : (⟨cluster, .tick 1⟩ : Occurrence).delivers = cluster.isRunning := by
    simp [Occurrence.delivers]
  have same : cluster.config = config := history.queued.same
  constructor
  · rw [delivers, isRunning, same, Bool.and_eq_true, bne_iff_ne, and_comm]
    refine and_congr_right fun _ => ⟨history.runsSince single, ?_⟩
    rintro ⟨_, runs⟩
    exact (history.reports_wait single runs).1
  · intro idle
    rw [delivers] at idle
    rw [delivered, Occurrence.after, perform_beat, heartbeat_stopped idle]
    exact ⟨rfl, rfl⟩
  · rw [delivered]
    exact ordered_heartbeat cluster
  · intro running
    rw [delivers] at running
    rw [delivered, endsIn_heartbeat running]
    exact history.completed_waits single
  · intro running
    rw [delivers] at running
    rw [delivered, shutdowns_heartbeat running]
    exact congrArg (if · then 1 else 0) (history.shutdown_waits single)
  · intro running since runs
    rw [delivers] at running
    rw [delivered, reportsIn_heartbeat running]
    exact (history.reports_wait single runs).2

theorem tick_stopped (stopped : cluster.isRunning = false) (beats : Nat) :
    tick beats cluster = ([], cluster) := by
  induction beats with
  | zero => rfl
  | succ beats ih => simp only [tick, heartbeat_stopped stopped, ih, List.append_nil]

/-! ## What a history delivers -/

structure Delivered (config : ClusterConfig) (trace : List Occurrence) (cluster : Cluster) :
    Prop where
  ends : endsIn (deliveredIn trace) ++ cluster.completed = endedIn trace
  endedOnce : ((endedIn trace).map (·.id)).Nodup
  ending : ∀ occurrence ∈ trace, ∀ id, id ∈ occurrence.ends.map (·.id) ↔
    (occurrence.cluster.live.get? id.name).isSome = true ∧
      occurrence.after.live.get? id.name = none
  granted : containersIn (deliveredIn trace) = (answersIn trace).flatMap (·.containers)
  numbered : (containersIn (deliveredIn trace)).map (·.id.name) =
    (List.range' 1 cluster.granted).map containerName
  grantedOnce : ((containersIn (deliveredIn trace)).map (·.id)).Nodup
  live : ∀ name occupant, cluster.live.get? name = some occupant →
    occupant.container ∈ containersIn (deliveredIn trace)
  beforeEnd : ∀ first statuses rest, deliveredIn trace = first ++ .completed statuses :: rest →
    ∀ status ∈ statuses, status.id ∈ (containersIn first).map (·.id) ∧
      status.id ∉ (containersIn rest).map (·.id)
  singly : History config (singly trace) cluster ∧ deliveredIn (singly trace) = deliveredIn trace
  heartbeats : ∀ past beat later, Cluster.singly trace = past ++ beat :: later →
    beat.action = .tick 1 → Heartbeat config past beat
  others : ∀ occurrence ∈ Cluster.singly trace, occurrence.action ≠ .tick 1 →
    occurrence.deliveries = []

/-- Whatever is done to a simulated cluster, it delivers each end and each container once, the
container first, and at each heartbeat what has come up since the one before, in a fixed order.
While its resource manager is stopped, heartbeats change nothing. -/
theorem delivered_once_in_order (history : History config trace cluster) :
    Delivered config trace cluster ∧ ∀ other : Cluster, other.started = false → ∀ beats,
      other.perform (.tick beats) = (.nothing, [], other) := by
  have traced := history.traced
  refine ⟨?_, ?_⟩
  · exact {
      ends := history.ended
      endedOnce := by
        rw [← history.ended]
        exact nodup_ids traced.ended
      ending := fun occurrence member id => by
        obtain ⟨earlier, later, rfl⟩ := List.append_of_mem member
        rw [mem_ids_iff]
        have next := history.upTo.next.traced
        rw [deliveredIn, List.flatMap_append, List.flatMap_singleton] at next
        exact history.upTo.traced.mem_ends_iff next id.name
      granted := history.queued.delivered
      numbered := traced.names
      grantedOnce := traced.distinct
      live := fun _ _ => history.live_delivered
      beforeEnd := fun _ _ _ parts _ => history.delivered_before_end parts
      singly := ⟨history.singly, deliveredIn_singly trace⟩
      heartbeats := fun past beat later parts => by
        have single := single_singly trace
        have beatwise := history.singly
        rw [parts] at single beatwise
        exact beatwise.upTo.heartbeat fun other member =>
          single other (List.mem_append_left _ member)
      others := fun occurrence member different => by
        apply deliveries_eq_nil
        intro beats ticks
        rw [single_singly trace occurrence member beats ticks] at ticks
        exact different ticks }
  · intro other stopped beats
    have still : other.isRunning = false := by rw [isRunning, stopped, Bool.false_and]
    rw [perform, tick_stopped still beats]

def interrupted : List Action :=
  [.start, .add anyWorker 2, .tick 1, .launch (simulated 1 "h1") {}, .intervene .requestShutdown,
    .intervene .requestShutdown, .intervene (.finish ⟨containerName 1⟩ .success), .stop,
    .release ⟨containerName 2⟩, .tick 3, .start, .intervene (.failLaunchesOn "h1"),
    .launch (simulated 3 "h1") {}, .tick 2, .intervene .requestShutdown, .tick 1]

theorem delivered_once_in_order_interrupted : ∃ trace cluster,
    History pair trace cluster ∧
      deliveredIn trace = [.nodes [⟨"h1", true⟩, ⟨"h2", true⟩],
        .allocated [simulated 1 "h1", simulated 2 "h2", simulated 3 "h1"],
        .nodes [⟨"h1", true⟩, ⟨"h2", true⟩],
        .completed [exited ⟨containerName 1⟩ .success, handedBack ⟨containerName 2⟩,
          refusal ⟨containerName 3⟩],
        .shutdown, .shutdown] ∧
      Delivered pair trace cluster ∧ (init pair).started = false ∧
        (init pair).perform (.tick 2) = (.nothing, [], init pair) := by
  have history : History pair _ _ := history_performAll interrupted
  obtain ⟨delivered, idle⟩ := delivered_once_in_order history
  exact ⟨_, _, history, by decide +kernel, delivered, rfl, idle _ rfl 2⟩

end Muster.Cluster
