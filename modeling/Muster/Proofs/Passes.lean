import Muster.Proofs.Slots

/-!
The passes of a resource manager over its pending requests. In a pass slots are only taken. So a
request that no host can take when its turn comes finds none at the end of the pass either, and
neither does a later one that would be content with no other hosts.
-/

namespace Muster.Cluster

variable {cluster before after : Cluster} {containers : List Container}
  {placement : PlacementConstraint} {host : Host}

/-- Every host of the inventory that a constraint accepts is full. -/
def Blocked (placement : PlacementConstraint) (cluster : Cluster) : Prop :=
  ∀ host ∈ cluster.config.hosts, placement.accepts host = true → cluster.isFree host = false

theorem accepts_of_listed (listed : host ∈ placement.hosts) : placement.accepts host = true := by
  simp [PlacementConstraint.accepts, listed]

theorem mem_fittingHosts (member : host ∈ cluster.fittingHosts placement) :
    host ∈ cluster.config.hosts ∧ cluster.isFree host = true ∧ placement.accepts host = true := by
  simp only [fittingHosts] at member
  split at member
  · simp only [List.mem_filter] at member
    exact ⟨member.1.1, member.1.2, member.2⟩
  · simp only [List.mem_filter, List.contains_iff_mem] at member
    exact ⟨member.1.1, member.1.2, accepts_of_listed member.2⟩

theorem chooseHost_of_none_fitting (empty : cluster.fittingHosts placement = []) :
    cluster.chooseHost placement = none := by
  simp only [chooseHost, empty]
  cases cluster.config.policy with
  | leastLoaded => rfl
  | firstFit => rfl

theorem chooseHost_fits (chosen : cluster.chooseHost placement = some host) :
    host ∈ cluster.config.hosts ∧ cluster.isFree host = true ∧ placement.accepts host = true := by
  by_cases empty : cluster.fittingHosts placement = []
  · rw [chooseHost_of_none_fitting empty] at chosen
    cases chosen
  · obtain ⟨other, member, same⟩ := exists_chooseHost_of_fitting empty
    rw [chosen] at same
    rw [Option.some.inj same]
    exact mem_fittingHosts member

theorem chooseHost_eq_none_iff :
    cluster.chooseHost placement = none ↔ cluster.Blocked placement := by
  constructor
  · intro unplaced host known accepted
    by_contra free
    have room : cluster.isFree host = true := by simpa using free
    obtain ⟨other, chosen⟩ := exists_chooseHost_of_accepts known room accepted
    rw [unplaced] at chosen
    cases chosen
  · intro blocked
    rw [Option.eq_none_iff_forall_ne_some]
    intro host chosen
    obtain ⟨known, free, accepted⟩ := chooseHost_fits chosen
    rw [blocked host known accepted] at free
    cases free

/-- Some containers are granted one after the other, each on a host with a free slot. -/
inductive Grants : Cluster → List Container → Cluster → Prop
  | done (cluster : Cluster) : Grants cluster [] cluster
  | adjust {cluster after : Cluster} {containers : List Container} (surplus : Role → Nat)
      (rest : Grants { cluster with surplus } containers after) : Grants cluster containers after
  | grant {cluster after : Cluster} {containers : List Container} (host : Host)
      (request : ContainerRequest) (free : cluster.isFree host = true)
      (rest : Grants (cluster.grant host request).2 containers after) :
      Grants cluster ((cluster.grant host request).1 :: containers) after

theorem Grants.trans {third : Cluster} {others : List Container}
    (first : Grants before containers after) (second : Grants after others third) :
    Grants before (containers ++ others) third := by
  induction first with
  | done => exact second
  | adjust surplus _ ih => exact .adjust surplus (ih second)
  | grant host request free _ ih => exact .grant host request free (ih second)

theorem grants_grantExtra (request : ContainerRequest) (extra : Nat) : ∀ cluster : Cluster,
    Grants cluster (grantExtra request extra cluster).1 (grantExtra request extra cluster).2 := by
  induction extra with
  | zero => exact .done
  | succ extra ih =>
      intro cluster
      simp only [grantExtra]
      split
      · exact .done cluster
      · rename_i host chosen
        exact .grant host request (chooseHost_fits chosen).2.1 (ih _)

theorem grants_grantSurplus (request : ContainerRequest) :
    Grants cluster (cluster.grantSurplus request).1 (cluster.grantSurplus request).2 :=
  .adjust _ (grants_grantExtra request _ _)

structure SameRecords (before after : Cluster) : Prop where
  config : after.config = before.config
  pending : after.pending = before.pending
  requests : after.requests = before.requests
  launches : after.launches = before.launches
  released : after.released = before.released
  completed : after.completed = before.completed

theorem Grants.records (grants : Grants before containers after) : SameRecords before after := by
  induction grants with
  | done => exact ⟨rfl, rfl, rfl, rfl, rfl, rfl⟩
  | adjust _ _ ih =>
      exact ⟨ih.config, ih.pending, ih.requests, ih.launches, ih.released, ih.completed⟩
  | grant _ _ _ _ ih =>
      exact ⟨ih.config, ih.pending, ih.requests, ih.launches, ih.released, ih.completed⟩

theorem slotsUsed_grant (host other : Host) (request : ContainerRequest) :
    (cluster.grant host request).2.slotsUsed other =
      if host = other then cluster.slotsUsed host + 1 else cluster.slotsUsed other :=
  slotsUsed_insert _ _ _ _

theorem Grants.slots_le (grants : Grants before containers after) (host : Host) :
    before.slotsUsed host ≤ after.slotsUsed host := by
  induction grants with
  | done => exact Nat.le_refl _
  | adjust _ _ ih => exact ih
  | grant other request _ _ ih =>
      refine Nat.le_trans ?_ ih
      rw [slotsUsed_grant]
      split
      · rename_i same
        subst same
        exact Nat.le_succ _
      · exact Nat.le_refl _

def WithinSlots (cluster : Cluster) : Prop :=
  ∀ host, cluster.slotsUsed host ≤ cluster.config.slotsPerHost

theorem Grants.withinSlots (grants : Grants before containers after)
    (within : before.WithinSlots) : after.WithinSlots := by
  induction grants with
  | done => exact within
  | adjust _ _ ih => exact ih within
  | @grant cluster _ _ host request free _ ih =>
      apply ih
      intro other
      have room : cluster.slotsUsed host < cluster.config.slotsPerHost := by
        simpa [isFree] using free
      rw [slotsUsed_grant]
      split
      · exact room
      · exact within other

theorem Grants.numbered (grants : Grants before containers after) :
    after.granted = before.granted + containers.length ∧
      containers.map (·.id.name) =
        (List.range' (before.granted + 1) containers.length).map containerName := by
  induction grants with
  | done => exact ⟨rfl, rfl⟩
  | adjust _ _ ih => exact ih
  | @grant cluster after containers host request _ _ ih =>
      obtain ⟨total, names⟩ := ih
      have next : (cluster.grant host request).2.granted = cluster.granted + 1 := rfl
      rw [next] at total names
      refine ⟨?_, ?_⟩
      · rw [total, List.length_cons]
        omega
      · rw [List.map_cons, names, List.length_cons, List.range'_succ]
        rfl

theorem Blocked.later (blocked : before.Blocked placement)
    (config : after.config = before.config)
    (filled : ∀ host, before.slotsUsed host ≤ after.slotsUsed host) :
    after.Blocked placement := by
  intro host known accepted
  rw [config] at known
  have full := blocked host known accepted
  have more := filled host
  simp only [isFree, config, decide_eq_false_iff_not, Nat.not_lt] at full ⊢
  omega

theorem Grants.blocked (grants : Grants before containers after)
    (blocked : before.Blocked placement) : after.Blocked placement :=
  blocked.later grants.records.config grants.slots_le

/-! ## The answers of a pass -/

/-- A request with the containers that a pass grants for it: none when it has to wait, and otherwise
its own, followed by those that are granted unasked along with it. -/
structure Answer where
  request : ContainerRequest
  containers : List Container
  deriving DecidableEq, Repr

def Answer.isWaiting (answer : Answer) : Bool :=
  answer.containers.isEmpty

def answer (request : ContainerRequest) (cluster : Cluster) : Answer × Cluster :=
  match cluster.chooseHost request.placement with
  | none => (⟨request, []⟩, cluster)
  | some host =>
    let (container, given) := cluster.grant host request
    let (extra, after) := given.grantSurplus request
    (⟨request, container :: extra⟩, after)

def answers : List ContainerRequest → Cluster → List Answer
  | [], _ => []
  | request :: rest, cluster =>
    (cluster.answer request).1 :: answers rest (cluster.answer request).2

@[simp] theorem request_answer (request : ContainerRequest) :
    (cluster.answer request).1.request = request := by
  unfold answer
  split <;> rfl

theorem grantAll_cons (request : ContainerRequest) (rest : List ContainerRequest) :
    grantAll (request :: rest) cluster =
      ((cluster.answer request).1.containers ++ (grantAll rest (cluster.answer request).2).1,
        (if (cluster.answer request).1.isWaiting then [request] else []) ++
          (grantAll rest (cluster.answer request).2).2.1,
        (grantAll rest (cluster.answer request).2).2.2) := by
  cases chosen : cluster.chooseHost request.placement with
  | none =>
      simp only [grantAll, answer, chosen]
      rfl
  | some host =>
      simp only [grantAll, answer, chosen]
      rfl

theorem map_request_answers (requests : List ContainerRequest) :
    ∀ cluster : Cluster, (answers requests cluster).map (·.request) = requests := by
  induction requests with
  | nil => exact fun _ => rfl
  | cons request rest ih =>
      intro cluster
      simp only [answers, List.map_cons, request_answer, ih]

theorem containers_grantAll (requests : List ContainerRequest) : ∀ cluster : Cluster,
    (grantAll requests cluster).1 = (answers requests cluster).flatMap (·.containers) := by
  induction requests with
  | nil => exact fun _ => rfl
  | cons request rest ih =>
      intro cluster
      rw [grantAll_cons, ih]
      rfl

theorem waiting_grantAll (requests : List ContainerRequest) : ∀ cluster : Cluster,
    (grantAll requests cluster).2.1 =
      ((answers requests cluster).filter (·.isWaiting)).map (·.request) := by
  induction requests with
  | nil => exact fun _ => rfl
  | cons request rest ih =>
      intro cluster
      rw [grantAll_cons, ih]
      simp only [answers, List.filter_cons]
      split
      · simp only [List.map_cons, request_answer, List.singleton_append]
      · rfl

theorem grants_answer (request : ContainerRequest) :
    Grants cluster (cluster.answer request).1.containers (cluster.answer request).2 := by
  unfold answer
  split
  · exact .done cluster
  · rename_i host chosen
    exact .grant host request (chooseHost_fits chosen).2.1 (grants_grantSurplus request)

theorem grants_grantAll (requests : List ContainerRequest) : ∀ cluster : Cluster,
    Grants cluster (grantAll requests cluster).1 (grantAll requests cluster).2.2 := by
  induction requests with
  | nil => exact .done
  | cons request rest ih =>
      intro cluster
      rw [grantAll_cons]
      exact (grants_answer request).trans (ih _)

theorem isWaiting_answer_iff (request : ContainerRequest) :
    (cluster.answer request).1.isWaiting = true ↔ cluster.Blocked request.placement := by
  rw [← chooseHost_eq_none_iff]
  unfold answer
  split
  · rename_i unplaced
    simp [Answer.isWaiting, unplaced]
  · rename_i host chosen
    simp [Answer.isWaiting, chosen]

/-! ## What waits at the end of a pass -/

theorem blocked_of_waiting (requests : List ContainerRequest) : ∀ cluster : Cluster,
    ∀ answer ∈ answers requests cluster, answer.isWaiting = true →
      (grantAll requests cluster).2.2.Blocked answer.request.placement := by
  induction requests with
  | nil => exact fun _ _ member => absurd member List.not_mem_nil
  | cons request rest ih =>
      intro cluster answer member waiting
      rw [grantAll_cons]
      rcases List.mem_cons.mp member with rfl | later
      · rw [isWaiting_answer_iff] at waiting
        rw [request_answer]
        exact (grants_grantAll rest _).blocked ((grants_answer request).blocked waiting)
      · exact ih _ answer later waiting

/-- No host of the inventory that one constraint accepts is left out by another. -/
def Covers (hosts : List Host) (wider narrower : PlacementConstraint) : Prop :=
  ∀ host ∈ hosts, narrower.accepts host = true → wider.accepts host = true

theorem Blocked.covered {wider narrower : PlacementConstraint} (blocked : cluster.Blocked wider)
    (covers : Covers cluster.config.hosts wider narrower) : cluster.Blocked narrower :=
  fun host known accepted => blocked host known (covers host known accepted)

theorem waiting_of_blocked (requests : List ContainerRequest) : ∀ cluster : Cluster,
    cluster.Blocked placement →
      ∀ answer ∈ answers requests cluster,
        Covers cluster.config.hosts placement answer.request.placement →
          answer.isWaiting = true := by
  induction requests with
  | nil => exact fun _ _ _ member => absurd member List.not_mem_nil
  | cons request rest ih =>
      intro cluster blocked answer member covers
      rcases List.mem_cons.mp member with rfl | later
      · rw [isWaiting_answer_iff]
        rw [request_answer] at covers
        exact blocked.covered covers
      · have grants : Grants cluster _ _ := grants_answer request
        rw [← grants.records.config] at covers
        exact ih _ (grants.blocked blocked) answer later covers

theorem answers_pairwise (requests : List ContainerRequest) : ∀ cluster : Cluster,
    (answers requests cluster).Pairwise fun earlier later =>
      earlier.isWaiting = true →
        Covers cluster.config.hosts earlier.request.placement later.request.placement →
          later.isWaiting = true := by
  induction requests with
  | nil => exact fun _ => .nil
  | cons request rest ih =>
      intro cluster
      have grants : Grants cluster _ _ := grants_answer request
      refine List.pairwise_cons.mpr ⟨?_, ?_⟩
      · intro later member waiting covers
        rw [isWaiting_answer_iff] at waiting
        rw [request_answer, ← grants.records.config] at covers
        exact waiting_of_blocked rest _ (grants.blocked waiting) later member covers
      · rw [← grants.records.config]
        exact ih _

theorem length_grantExtra (request : ContainerRequest) (extra : Nat) : ∀ cluster : Cluster,
    (grantExtra request extra cluster).1.length ≤ extra ∧
      (grantExtra request extra cluster).2.surplus = cluster.surplus := by
  induction extra with
  | zero => exact fun _ => ⟨Nat.le_refl _, rfl⟩
  | succ extra ih =>
      intro cluster
      simp only [grantExtra]
      split
      · exact ⟨Nat.zero_le _, rfl⟩
      · rename_i host _
        obtain ⟨length, surplus⟩ := ih (cluster.grant host request).2
        exact ⟨Nat.succ_le_succ length, surplus⟩

theorem surplus_answer (request : ContainerRequest)
    (granted : (cluster.answer request).1.isWaiting = false) :
    (cluster.answer request).1.containers.length ≤ 1 + cluster.surplus request.role ∧
      ∀ role, (cluster.answer request).2.surplus role =
        if role = request.role then 0 else cluster.surplus role := by
  unfold answer at granted ⊢
  split
  · rename_i unplaced
    simp only [unplaced] at granted
    cases granted
  · rename_i host _
    obtain ⟨length, surplus⟩ := length_grantExtra request (cluster.surplus request.role)
      { (cluster.grant host request).2 with
        surplus := fun role => if role = request.role then 0 else cluster.surplus role }
    refine ⟨?_, ?_⟩
    · rw [List.length_cons, Nat.add_comm]
      exact Nat.add_le_add_left length 1
    · intro role
      exact congrFun surplus role

theorem answer_of_waiting (request : ContainerRequest)
    (waiting : (cluster.answer request).1.isWaiting = true) :
    (cluster.answer request).2 = cluster := by
  rw [isWaiting_answer_iff, ← chooseHost_eq_none_iff] at waiting
  simp only [answer, waiting]

end Muster.Cluster
