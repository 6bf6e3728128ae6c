import Muster.Proofs.Records

/-!
What becomes of the requests that a simulated cluster is sent. Each is granted once or still waits,
and those that wait keep their order. Containers are granted unasked only along with the first grant
of a role. A request that waits at the end of a heartbeat finds no free slot anywhere, and it is not
overtaken by one that would take no other hosts.
-/

namespace Muster.Cluster

open Coordinator (Delivery)

variable {cluster before after : Cluster} {config : ClusterConfig} {trace : List Occurrence}
  {deliveries : List Delivery} {given : List Answer}

def Answer.unasked (answer : Answer) : List Container :=
  answer.containers.tail

def Answer.Suits (hosts : List Host) (answer : Answer) : Prop :=
  ∀ container ∈ answer.containers, container.shape = answer.request.shape ∧
    container.priority = answer.request.priority ∧ container.host ∈ hosts ∧
      answer.request.placement.accepts container.host = true

theorem suited_grantExtra (request : ContainerRequest) (extra : Nat) (cluster : Cluster) :
    Answer.Suits cluster.config.hosts ⟨request, (grantExtra request extra cluster).1⟩ := by
  induction extra generalizing cluster with
  | zero => exact fun _ member => absurd member List.not_mem_nil
  | succ extra ih =>
      simp only [grantExtra]
      split
      · exact fun _ member => absurd member List.not_mem_nil
      · rename_i host chosen
        have fits := chooseHost_fits chosen
        intro container member
        rcases List.mem_cons.mp member with rfl | later
        · exact ⟨rfl, rfl, fits.1, fits.2.2⟩
        · exact ih (cluster.grant host request).2 container later

theorem suited_grantSurplus (request : ContainerRequest) (cluster : Cluster) :
    Answer.Suits cluster.config.hosts ⟨request, (cluster.grantSurplus request).1⟩ :=
  suited_grantExtra request _ _

theorem suits_answer (request : ContainerRequest) :
    Answer.Suits cluster.config.hosts (cluster.answer request).1 := by
  unfold answer
  split
  · exact fun _ member => absurd member List.not_mem_nil
  · rename_i host chosen
    have fits := chooseHost_fits chosen
    intro container member
    rcases List.mem_cons.mp member with rfl | later
    · exact ⟨rfl, rfl, fits.1, fits.2.2⟩
    · exact suited_grantSurplus request (cluster.grant host request).2 container later

theorem suits_answers (requests : List ContainerRequest) : ∀ cluster : Cluster,
    ∀ answer ∈ answers requests cluster, answer.Suits cluster.config.hosts := by
  induction requests with
  | nil => exact fun _ _ member => absurd member List.not_mem_nil
  | cons request rest ih =>
      intro cluster answer member
      rcases List.mem_cons.mp member with rfl | later
      · exact suits_answer request
      · have grants : Grants cluster _ _ := grants_answer request
        rw [← grants.records.config]
        exact ih _ answer later

/-- Only the first of some answers for a role comes with containers unasked, and with no more of them
than are set up; what is left to be granted for each role is known. -/
structure Rationed (config : ClusterConfig) (given : List Answer) (surplus : Role → Nat) :
    Prop where
  once : given.Pairwise fun earlier later =>
    later.request.role = earlier.request.role → later.unasked = []
  few : ∀ answer ∈ given, answer.unasked.length ≤ (init config).surplus answer.request.role
  spent : ∀ answer ∈ given, surplus answer.request.role = 0
  left : ∀ role, surplus role ≤ (init config).surplus role

theorem rationed_nil (config : ClusterConfig) : Rationed config [] (init config).surplus where
  once := .nil
  few _ member := absurd member List.not_mem_nil
  spent _ member := absurd member List.not_mem_nil
  left _ := Nat.le_refl _

theorem Rationed.answer (rationed : Rationed config given cluster.surplus)
    (request : ContainerRequest) (granted : (cluster.answer request).1.isWaiting = false) :
    Rationed config (given ++ [(cluster.answer request).1])
      (cluster.answer request).2.surplus := by
  obtain ⟨length, left⟩ := surplus_answer request granted
  have unasked : (cluster.answer request).1.unasked.length ≤ cluster.surplus request.role := by
    rw [Answer.unasked, List.length_tail]
    omega
  constructor
  · rw [List.pairwise_append]
    refine ⟨rationed.once, List.pairwise_singleton _ _, ?_⟩
    intro earlier member last among same
    rw [List.mem_singleton.mp among] at same ⊢
    rw [request_answer] at same
    rw [same, rationed.spent earlier member, Nat.le_zero, List.length_eq_zero_iff] at unasked
    exact unasked
  · intro answer member
    rcases List.mem_append.mp member with old | last
    · exact rationed.few answer old
    · rw [List.mem_singleton.mp last, request_answer]
      exact Nat.le_trans unasked (rationed.left request.role)
  · intro answer member
    rw [left]
    split
    · rfl
    · rename_i other
      rcases List.mem_append.mp member with old | last
      · exact rationed.spent answer old
      · rw [List.mem_singleton.mp last, request_answer] at other
        exact absurd rfl other
  · intro role
    rw [left]
    split
    · exact Nat.zero_le _
    · exact rationed.left role

theorem Rationed.answers (requests : List ContainerRequest) : ∀ {given : List Answer}
    {cluster : Cluster}, Rationed config given cluster.surplus →
      Rationed config (given ++ (answers requests cluster).filter fun answer => !answer.isWaiting)
        (grantAll requests cluster).2.2.surplus := by
  induction requests with
  | nil =>
      intro given cluster rationed
      rw [Cluster.answers, List.filter_nil, List.append_nil]
      exact rationed
  | cons request rest ih =>
      intro given cluster rationed
      rw [Cluster.answers, List.filter_cons, grantAll_cons]
      cases waiting : (cluster.answer request).1.isWaiting with
      | true =>
          simp only [Bool.not_true, Bool.false_eq_true, if_false]
          rw [answer_of_waiting request waiting]
          exact ih rationed
      | false =>
          simp only [Bool.not_false, if_true]
          rw [← List.singleton_append, ← List.append_assoc]
          exact ih (rationed.answer request waiting)

/-! ## The queue -/

/-- The requests that were granted, those that wait, and what was delivered for them. -/
structure Queued (config : ClusterConfig) (deliveries : List Delivery) (given : List Answer)
    (cluster : Cluster) : Prop where
  same : cluster.config = config
  ordered : cluster.pending.Sublist cluster.requests
  balanced : (given.map (·.request) ++ cluster.pending).Perm cluster.requests
  delivered : containersIn deliveries = given.flatMap (·.containers)
  answered : ∀ answer ∈ given, answer.isWaiting = false
  suited : ∀ answer ∈ given, answer.Suits config.hosts
  rationed : Rationed config given cluster.surplus

theorem queued_init (config : ClusterConfig) : Queued config [] [] (init config) where
  same := rfl
  ordered := .slnil
  balanced := .nil
  delivered := rfl
  answered _ member := absurd member List.not_mem_nil
  suited _ member := absurd member List.not_mem_nil
  rationed := rationed_nil config

structure SameQueue (before after : Cluster) : Prop where
  config : after.config = before.config
  pending : after.pending = before.pending
  requests : after.requests = before.requests
  surplus : after.surplus = before.surplus

theorem Change.queue (change : Change before after) : SameQueue before after := by
  cases change with
  | adjust same => exact ⟨same.config, same.pending, same.requests, same.surplus⟩
  | _ => exact ⟨rfl, rfl, rfl, rfl⟩

theorem Queued.change (queued : Queued config deliveries given before)
    (change : Change before after) : Queued config deliveries given after := by
  obtain ⟨same, ordered, balanced, delivered, answered, suited, rationed⟩ := queued
  have queue := change.queue
  constructor
  · exact queue.config.trans same
  · rw [queue.pending, queue.requests]
    exact ordered
  · rw [queue.pending, queue.requests]
    exact balanced
  · exact delivered
  · exact answered
  · exact suited
  · rw [queue.surplus]
    exact rationed

theorem Queued.addRequest (queued : Queued config deliveries given cluster)
    (request : ContainerRequest) : Queued config deliveries given (cluster.addRequest request) := by
  obtain ⟨same, ordered, balanced, delivered, answered, suited, rationed⟩ := queued
  refine ⟨same, ordered.append (List.Sublist.refl _), ?_, delivered, answered, suited, rationed⟩
  change (_ ++ (cluster.pending ++ [request])).Perm _
  rw [← List.append_assoc]
  exact balanced.append_right _

theorem containers_granted (passed : List Answer) :
    passed.flatMap (·.containers) =
      (passed.filter fun answer => !answer.isWaiting).flatMap (·.containers) := by
  induction passed with
  | nil => rfl
  | cons answer rest ih =>
      rw [List.flatMap_cons, List.filter_cons, ih]
      cases waiting : answer.isWaiting with
      | true =>
          rw [List.isEmpty_iff.mp waiting]
          rfl
      | false => rfl

theorem pending_heartbeat (running : cluster.isRunning = true) :
    cluster.heartbeat.2.pending =
      ((answers cluster.pending cluster).filter (·.isWaiting)).map (·.request) := by
  rw [(heartbeat_running running).2]
  exact waiting_grantAll _ _

theorem requests_heartbeat (cluster : Cluster) :
    cluster.heartbeat.2.requests = cluster.requests := by
  cases running : cluster.isRunning with
  | false => rw [heartbeat_stopped running]
  | true =>
      rw [(heartbeat_running running).2]
      exact (grants_grantAll _ _).records.requests

theorem waiting_sublist (requests : List ContainerRequest) (cluster : Cluster) :
    (((answers requests cluster).filter (·.isWaiting)).map (·.request)).Sublist requests := by
  have fewer : (((answers requests cluster).filter (·.isWaiting)).map (·.request)).Sublist
      ((answers requests cluster).map (·.request)) := List.filter_sublist.map _
  rwa [map_request_answers] at fewer

theorem answered_perm (requests : List ContainerRequest) (cluster : Cluster) :
    (((answers requests cluster).filter fun answer => !answer.isWaiting).map (·.request) ++
      ((answers requests cluster).filter (·.isWaiting)).map (·.request)).Perm requests := by
  have parts := List.filter_append_perm (·.isWaiting) (answers requests cluster)
  have whole := (List.perm_append_comm.trans parts).map Answer.request
  rwa [map_request_answers, List.map_append] at whole

theorem Queued.beat (queued : Queued config deliveries given cluster) :
    Queued config (deliveries ++ cluster.heartbeat.1) (given ++ cluster.beatAnswers)
      cluster.heartbeat.2 := by
  cases running : cluster.isRunning with
  | false =>
      rw [heartbeat_stopped running, beatAnswers, running]
      simpa only [Bool.false_eq_true, if_false, List.append_nil] using queued
  | true =>
      obtain ⟨same, ordered, balanced, delivered, answered, suited, rationed⟩ := queued
      have beat : cluster.beatAnswers =
          (answers cluster.pending cluster).filter fun answer => !answer.isWaiting := by
        rw [beatAnswers, if_pos running]
      rw [beat]
      constructor
      · rw [(heartbeat_running running).2]
        exact (grants_grantAll cluster.pending cluster).records.config.trans same
      · rw [pending_heartbeat running, requests_heartbeat]
        exact (waiting_sublist _ _).trans ordered
      · rw [pending_heartbeat running, requests_heartbeat, List.map_append, List.append_assoc]
        exact (List.Perm.append_left _ (answered_perm _ _)).trans balanced
      · rw [containersIn, List.flatMap_append, List.flatMap_append, ← containers_granted]
        change containersIn deliveries ++ containersIn cluster.heartbeat.1 = _
        rw [delivered, containersIn_heartbeat running]
        exact congrArg _ (containers_grantAll _ _)
      · intro answer member
        rcases List.mem_append.mp member with old | new
        · exact answered answer old
        · simpa using (List.mem_filter.mp new).2
      · intro answer member
        rcases List.mem_append.mp member with old | new
        · exact suited answer old
        · rw [← same]
          exact suits_answers _ _ answer (List.mem_filter.mp new).1
      · rw [(heartbeat_running running).2]
        exact Rationed.answers cluster.pending rationed

theorem History.queued (history : History config trace cluster) :
    Queued config (deliveredIn trace) (answersIn trace) cluster :=
  history.keeps (Queued config) (queued_init config)
    (fun _ _ _ _ change queued => queued.change change)
    (fun _ _ _ request queued => queued.addRequest request) fun _ _ _ queued => queued.beat

def Occurrence.requested (occurrence : Occurrence) : List ContainerRequest :=
  match occurrence.action with
  | .add request times => List.replicate times request
  | _ => []

def requestedIn (trace : List Occurrence) : List ContainerRequest :=
  trace.flatMap (·.requested)

theorem requests_tick (beats : Nat) (cluster : Cluster) :
    (tick beats cluster).2.requests = cluster.requests := by
  induction beats generalizing cluster with
  | zero => rfl
  | succ beats ih => exact (ih cluster.heartbeat.2).trans (requests_heartbeat cluster)

theorem requests_addRequests (request : ContainerRequest) (times : Nat) (cluster : Cluster) :
    (addRequests request times cluster).requests =
      cluster.requests ++ List.replicate times request := by
  induction times generalizing cluster with
  | zero => exact (List.append_nil _).symm
  | succ times ih =>
      rw [addRequests, ih, List.replicate_succ, List.append_cons]
      rfl

theorem requests_perform (action : Action) (cluster : Cluster) :
    (cluster.perform action).2.2.requests =
      cluster.requests ++ (⟨cluster, action⟩ : Occurrence).requested := by
  by_cases adds : ∃ request times, action = .add request times
  · obtain ⟨request, times, rfl⟩ := adds
    exact requests_addRequests request times cluster
  · have single : ∀ request times, action ≠ .add request times :=
      fun request times same => adds ⟨request, times, same⟩
    have silent : (⟨cluster, action⟩ : Occurrence).requested = [] := by
      cases action with
      | add request times => exact absurd rfl (single request times)
      | _ => rfl
    rw [silent, List.append_nil]
    by_cases ticks : ∃ beats, action = .tick beats
    · obtain ⟨beats, rfl⟩ := ticks
      exact requests_tick beats cluster
    · exact (change_perform (not_exists.mp ticks) single).2.queue.requests

theorem History.requests (history : History config trace cluster) :
    cluster.requests = requestedIn trace := by
  induction history with
  | init => rfl
  | act action _ ih =>
      rw [requests_perform, ih, requestedIn, requestedIn, List.flatMap_append,
        List.flatMap_singleton]

theorem length_granted (answered : ∀ answer ∈ given, answer.isWaiting = false) :
    (given.flatMap (·.containers)).length = given.length + (given.flatMap (·.unasked)).length := by
  induction given with
  | nil => rfl
  | cons answer rest ih =>
      have others := ih fun other member => answered other (List.mem_cons_of_mem _ member)
      have first : answer.containers.length = 1 + answer.unasked.length := by
        have asked := answered answer List.mem_cons_self
        rw [Answer.unasked, List.length_tail]
        have some : answer.containers.length ≠ 0 := by
          rw [ne_eq, List.length_eq_zero_iff, ← List.isEmpty_iff]
          simpa [Answer.isWaiting] using asked
        omega
      simp only [List.flatMap_cons, List.length_append, List.length_cons]
      omega

theorem granted_eq_length (traced : Traced deliveries cluster) :
    cluster.granted = (containersIn deliveries).length := by
  have lengths := congrArg List.length traced.names
  rw [List.length_map, List.length_map, List.length_range'] at lengths
  exact lengths.symm

/-! ## What becomes of requests -/

/-- A heartbeat answers all pending requests. One that it leaves pending finds no free slot on a host
that will do, and none of the later ones has got past it to such a host only. -/
structure FairPass (cluster : Cluster) : Prop where
  whole : (answers cluster.pending cluster).map (·.request) = cluster.pending
  delivered : containersIn cluster.heartbeat.1 =
    (answers cluster.pending cluster).flatMap (·.containers)
  waiting : cluster.heartbeat.2.pending =
    ((answers cluster.pending cluster).filter (·.isWaiting)).map (·.request)
  blocked : ∀ request ∈ cluster.heartbeat.2.pending,
    ∀ host ∈ cluster.config.hosts, request.placement.accepts host = true →
      ¬cluster.heartbeat.2.slotsUsed host < cluster.config.slotsPerHost
  fair : (answers cluster.pending cluster).Pairwise fun earlier later =>
    earlier.isWaiting = true →
      Covers cluster.config.hosts earlier.request.placement later.request.placement →
        later.isWaiting = true

theorem fairPass (running : cluster.isRunning = true) : FairPass cluster where
  whole := map_request_answers _ _
  delivered := (containersIn_heartbeat running).trans (containers_grantAll _ _)
  waiting := pending_heartbeat running
  blocked request member host known accepted := by
    rw [pending_heartbeat running] at member
    obtain ⟨answer, among, rfl⟩ := List.mem_map.mp member
    obtain ⟨passed, waiting⟩ := List.mem_filter.mp among
    have blocked := blocked_of_waiting _ _ answer passed waiting
    have same := (grants_grantAll cluster.pending cluster).records.config
    have full := blocked host (same ▸ known) accepted
    rw [isFree, same, decide_eq_false_iff_not] at full
    rw [(heartbeat_running running).2]
    exact full
  fair := answers_pairwise _ _

/-- Whatever is done to a simulated cluster, no request is lost or granted twice, and none is
overtaken by one that is content with the same hosts only. -/
theorem requests_served_once (history : History config trace cluster) :
    Queued config (deliveredIn trace) (answersIn trace) cluster ∧
      cluster.requests = requestedIn trace ∧
      cluster.granted = cluster.requests.length - cluster.pending.length +
        ((answersIn trace).flatMap (·.unasked)).length ∧
      ∀ other : Cluster, other.isRunning = true → FairPass other := by
  have queued := history.queued
  refine ⟨queued, history.requests, ?_, fun _ => fairPass⟩
  have total := granted_eq_length history.traced
  have lengths := queued.balanced.length_eq
  rw [queued.delivered, length_granted queued.answered] at total
  rw [List.length_append, List.length_map] at lengths
  omega

def narrow : ClusterConfig where
  hosts := ["h1", "h2"]
  slotsPerHost := 2
  surplusWorkers := 1

def workerOn (hosts : List Host) : ContainerRequest where
  role := .worker
  shape := ⟨1024, 1⟩
  placement := ⟨hosts, false⟩
  racks := []
  priority := Role.worker.priority

def crush : List Action :=
  [.add (workerOn ["h1"]) 3, .start, .tick 1, .add (workerOn []) 1, .add (workerOn ["h1"]) 1,
    .tick 2]

theorem requests_served_once_crush : ∃ trace cluster,
    History narrow trace cluster ∧ cluster.isRunning = true ∧
      cluster.pending = List.replicate 3 (workerOn ["h1"]) ∧
      (answersIn trace).map (·.containers.map (·.host)) = [["h1", "h1"], ["h2"]] ∧
      Queued narrow (deliveredIn trace) (answersIn trace) cluster ∧
      cluster.granted = cluster.requests.length - cluster.pending.length +
        ((answersIn trace).flatMap (·.unasked)).length ∧ FairPass cluster := by
  have history : History narrow _ _ := history_performAll crush
  have running : ((init narrow).performAll crush).isRunning = true := by decide +kernel
  obtain ⟨queued, _, counted, fair⟩ := requests_served_once history
  refine ⟨_, _, history, running, ?_, ?_, queued, counted, fair _ running⟩ <;> decide +kernel

end Muster.Cluster
