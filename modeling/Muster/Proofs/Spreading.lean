import Muster.Proofs.HostChoice
import Muster.Proofs.Requests

/-!
How containers spread over the hosts of a simulated cluster as long as no request prefers one host
to another and no container ends. The hosts get them in turn, either one each time or all that fit,
so that the number of grants alone tells how many containers each host has.
-/

namespace Muster

theorem pairwise_idxOf_eraseDups {α : Type} [DecidableEq α] (xs : List α) :
    xs.eraseDups.Pairwise fun a b => xs.idxOf a < xs.idxOf b := by
  match xs with
  | [] => exact .nil
  | head :: rest =>
      have inside {x : α} (member : x ∈ (rest.filter fun x => !x == head).eraseDups) :
          (!x == head) = true ∧ head ≠ x := by
        have kept := (List.mem_filter.mp (List.mem_eraseDups.mp member)).2
        exact ⟨kept, fun same => by simp [same] at kept⟩
      rw [List.eraseDups_cons, List.pairwise_cons]
      constructor
      · intro other member
        rw [List.idxOf_cons_self, List.idxOf_cons_ne _ (inside member).2]
        exact Nat.succ_pos _
      · refine (pairwise_idxOf_eraseDups (rest.filter fun x => !x == head)).imp_of_mem ?_
        intro a b first second before
        obtain ⟨keptFirst, apartFirst⟩ := inside first
        obtain ⟨keptSecond, apartSecond⟩ := inside second
        rw [List.idxOf_cons_ne _ apartFirst, List.idxOf_cons_ne _ apartSecond]
        rw [Nat.succ_lt_succ_iff, ← Nat.not_le] at *
        rw [← idxOf_filter_le_iff (fun x => !x == head) keptSecond keptFirst rest]
        exact before
termination_by xs.length
decreasing_by exact Nat.lt_succ_of_le (List.length_filter_le _ _)

namespace PlacementPolicy

/-- How many of the first `granted` containers are on the `index`th of `hosts` hosts. -/
def share (policy : PlacementPolicy) (hosts slots granted index : Nat) : Nat :=
  match policy with
  | .leastLoaded => granted / hosts + if index < granted % hosts then 1 else 0
  | .firstFit => min slots (granted - index * slots)

def turn (policy : PlacementPolicy) (hosts slots granted : Nat) : Nat :=
  match policy with
  | .leastLoaded => granted % hosts
  | .firstFit => granted / slots

variable {policy : PlacementPolicy} {hosts slots granted index : Nat}

theorem share_zero : policy.share hosts slots 0 index = 0 := by
  cases policy with
  | leastLoaded => simp [share]
  | firstFit => simp [share]

theorem share_leastLoaded_succ (inside : index < hosts) :
    (granted + 1) / hosts + (if index < (granted + 1) % hosts then 1 else 0) =
      granted / hosts + (if index < granted % hosts then 1 else 0) +
        if granted % hosts = index then 1 else 0 := by
  have below := Nat.mod_lt granted (Nat.zero_lt_of_lt inside)
  have parts := Nat.mod_add_div granted hosts
  by_cases last : granted % hosts + 1 = hosts
  · have next : (granted + 1) / hosts = granted / hosts + 1 ∧ (granted + 1) % hosts = 0 := by
      rw [Nat.div_mod_unique (by omega), Nat.mul_succ]
      omega
    rw [next.1, next.2, if_neg (Nat.not_lt_zero index)]
    split <;> split <;> omega
  · have next : (granted + 1) / hosts = granted / hosts ∧
        (granted + 1) % hosts = granted % hosts + 1 := by
      rw [Nat.div_mod_unique (by omega)]
      omega
    rw [next.1, next.2]
    split <;> split <;> split <;> omega

theorem share_firstFit_succ (room : 0 < slots) :
    min slots (granted + 1 - index * slots) =
      min slots (granted - index * slots) + if granted / slots = index then 1 else 0 := by
  have lower := Nat.div_mul_le_self granted slots
  have upper := Nat.lt_div_mul_add room (a := granted)
  rcases Nat.lt_trichotomy (granted / slots) index with before | same | after
  · have more := Nat.mul_le_mul_right slots before
    rw [Nat.succ_mul] at more
    rw [if_neg (Nat.ne_of_lt before)]
    omega
  · rw [← same, if_pos rfl]
    omega
  · have more := Nat.mul_le_mul_right slots after
    rw [Nat.succ_mul] at more
    rw [if_neg (Nat.ne_of_gt after)]
    omega

theorem share_succ (inside : index < hosts) (room : 0 < slots) :
    policy.share hosts slots (granted + 1) index =
      policy.share hosts slots granted index +
        if policy.turn hosts slots granted = index then 1 else 0 := by
  cases policy with
  | leastLoaded => exact share_leastLoaded_succ inside
  | firstFit => exact share_firstFit_succ room

theorem share_leastLoaded_turn : leastLoaded.share hosts slots granted (granted % hosts) =
    granted / hosts := by
  simp [share]

theorem leastLoaded_turn_le
    (least : leastLoaded.share hosts slots granted index ≤ granted / hosts) :
    granted % hosts ≤ index := by
  by_contra before
  simp [share, Nat.not_le.mp before] at least

theorem firstFit_turn_le (free : firstFit.share hosts slots granted index < slots) :
    granted / slots ≤ index := by
  have room : 0 < slots := by omega
  simp only [share] at free
  rw [← Nat.lt_succ_iff, Nat.div_lt_iff_lt_mul room, Nat.succ_mul]
  omega

theorem firstFit_turn_free (room : 0 < slots) :
    firstFit.share hosts slots granted (granted / slots) < slots := by
  have upper := Nat.lt_div_mul_add room (a := granted)
  simp only [share]
  omega

end PlacementPolicy

/-- A constraint that does not tell the hosts of an inventory apart: it lists none, or all. -/
def PlacementConstraint.EvenHanded (hosts : List Host) (placement : PlacementConstraint) : Prop :=
  placement.hosts = [] ∨ ∀ host ∈ hosts, host ∈ placement.hosts

instance (hosts : List Host) (placement : PlacementConstraint) :
    Decidable (placement.EvenHanded hosts) :=
  inferInstanceAs (Decidable (_ ∨ _))

namespace Cluster

open Coordinator (Delivery)

variable {cluster after : Cluster} {config : ClusterConfig} {trace : List Occurrence}
  {placement : PlacementConstraint} {request : ContainerRequest} {placed : List Host} {host : Host}

def distinctHosts (cluster : Cluster) : List Host :=
  cluster.config.hosts.eraseDups

def share (cluster : Cluster) (index : Nat) : Nat :=
  cluster.config.policy.share cluster.distinctHosts.length cluster.config.slotsPerHost
    cluster.granted index

def turn (cluster : Cluster) (number : Nat) : Nat :=
  cluster.config.policy.turn cluster.distinctHosts.length cluster.config.slotsPerHost number

/-- The hosts have got all containers in turn, and still have them. -/
structure Spread (cluster : Cluster) (placed : List Host) : Prop where
  granted : cluster.granted = placed.length
  slots : ∀ index host, cluster.distinctHosts[index]? = some host →
    cluster.slotsUsed host = cluster.share index
  turns : ∀ number host, placed[number]? = some host →
    cluster.distinctHosts[cluster.turn number]? = some host

theorem spread_init (config : ClusterConfig) : (init config).Spread [] where
  granted := rfl
  slots _ _ _ := PlacementPolicy.share_zero.symm
  turns _ _ placed := by simp at placed

theorem Spread.same (spread : cluster.Spread placed) (config : after.config = cluster.config)
    (slots : after.slots = cluster.slots) (granted : after.granted = cluster.granted) :
    after.Spread placed := by
  have hosts : after.distinctHosts = cluster.distinctHosts := by
    rw [distinctHosts, config, distinctHosts]
  refine ⟨granted.trans spread.granted, ?_, ?_⟩
  · intro index host placed
    rw [hosts] at placed
    rw [slotsUsed, slots, share, config, hosts, granted]
    exact spread.slots index host placed
  · intro number host member
    rw [turn, config, hosts]
    exact spread.turns number host member

theorem accepts_of_evenHanded (even : placement.EvenHanded cluster.config.hosts)
    (known : host ∈ cluster.config.hosts) : placement.accepts host = true := by
  rcases even with none | all
  · simp [PlacementConstraint.accepts, none]
  · exact accepts_of_listed (all host known)

theorem unlisted_of_evenHanded {other : Host} (even : placement.EvenHanded cluster.config.hosts)
    (known : host ∈ cluster.config.hosts) (knownOther : other ∈ cluster.config.hosts) :
    unlisted placement host = unlisted placement other := by
  rcases even with none | all
  · simp [unlisted, none]
  · simp [unlisted, all host known, all other knownOther]

theorem mem_of_distinctHosts {index : Nat} (there : cluster.distinctHosts[index]? = some host) :
    host ∈ cluster.config.hosts :=
  List.mem_eraseDups.mp (List.mem_of_getElem? there)

theorem idxOf_lt_of_distinctHosts {first second : Nat} {other : Host}
    (there : cluster.distinctHosts[first]? = some host)
    (later : cluster.distinctHosts[second]? = some other) (before : first < second) :
    cluster.config.hosts.idxOf host < cluster.config.hosts.idxOf other := by
  obtain ⟨inside, rfl⟩ := List.getElem?_eq_some_iff.mp there
  obtain ⟨insideLater, rfl⟩ := List.getElem?_eq_some_iff.mp later
  exact List.pairwise_iff_getElem.mp (pairwise_idxOf_eraseDups cluster.config.hosts) first second
    inside insideLater before

theorem index_unique {first second : Nat} (there : cluster.distinctHosts[first]? = some host)
    (other : cluster.distinctHosts[second]? = some host) : first = second := by
  rcases Nat.lt_trichotomy first second with before | same | after
  · exact absurd (idxOf_lt_of_distinctHosts there other before) (Nat.lt_irrefl _)
  · exact same
  · exact absurd (idxOf_lt_of_distinctHosts other there after) (Nat.lt_irrefl _)

theorem preferred_of_chooseHost {index other : Nat} {rival : Host}
    (even : placement.EvenHanded cluster.config.hosts)
    (chosen : cluster.chooseHost placement = some host)
    (there : cluster.distinctHosts[index]? = some host)
    (place : cluster.distinctHosts[other]? = some rival)
    (room : cluster.slotsUsed rival < cluster.config.slotsPerHost) :
    cluster.weight host < cluster.weight rival ∨
      cluster.weight host = cluster.weight rival ∧ index ≤ other := by
  obtain ⟨eligible, least⟩ := chooseHost_eq_some_iff.mp chosen
  have known := mem_of_distinctHosts place
  have order := least rival ⟨known, by simpa [isFree] using room, accepts_of_evenHanded even known⟩
  have same := unlisted_of_evenHanded even eligible.known known
  rw [rank_le_iff] at order
  rcases Nat.lt_or_ge other index with before | after
  · have earlier := idxOf_lt_of_distinctHosts place there before
    omega
  · omega

theorem slotsUsed_lt_of_chooseHost (chosen : cluster.chooseHost placement = some host) :
    cluster.slotsUsed host < cluster.config.slotsPerHost := by
  simpa [isFree] using (eligible_of_chooseHost chosen).free

theorem Spread.leastLoaded_turn {index : Nat} (spread : cluster.Spread placed)
    (policy : cluster.config.policy = .leastLoaded)
    (even : placement.EvenHanded cluster.config.hosts)
    (chosen : cluster.chooseHost placement = some host)
    (there : cluster.distinctHosts[index]? = some host) :
    cluster.granted % cluster.distinctHosts.length = index := by
  have inside : index < cluster.distinctHosts.length := (List.getElem?_eq_some_iff.mp there).1
  have below := Nat.mod_lt cluster.granted (Nat.zero_lt_of_lt inside)
  have place := List.getElem?_eq_getElem below
  have used := spread.slots index host there
  have load := spread.slots _ _ place
  simp only [share, policy, PlacementPolicy.share_leastLoaded_turn] at used load
  -- No host has fewer containers than the one whose turn it is, so that one has room, too.
  have least : cluster.granted / cluster.distinctHosts.length ≤ cluster.slotsUsed host := by
    rw [used]
    exact Nat.le_add_right _ _
  have free := slotsUsed_lt_of_chooseHost chosen
  have order := preferred_of_chooseHost even chosen there place (by omega)
  simp only [weight, policy] at order
  have lowest : PlacementPolicy.leastLoaded.share cluster.distinctHosts.length
      cluster.config.slotsPerHost cluster.granted index ≤
        cluster.granted / cluster.distinctHosts.length := by omega
  have first := PlacementPolicy.leastLoaded_turn_le lowest
  omega

theorem Spread.firstFit_turn {index : Nat} (spread : cluster.Spread placed)
    (policy : cluster.config.policy = .firstFit)
    (even : placement.EvenHanded cluster.config.hosts)
    (chosen : cluster.chooseHost placement = some host)
    (there : cluster.distinctHosts[index]? = some host) :
    cluster.granted / cluster.config.slotsPerHost = index := by
  have inside : index < cluster.distinctHosts.length := (List.getElem?_eq_some_iff.mp there).1
  have free := slotsUsed_lt_of_chooseHost chosen
  have slotted : 0 < cluster.config.slotsPerHost := Nat.zero_lt_of_lt free
  have used := spread.slots index host there
  simp only [share, policy] at used
  rw [used] at free
  -- All hosts before the one whose turn it is are full.
  have first := PlacementPolicy.firstFit_turn_le free
  have place := List.getElem?_eq_getElem (Nat.lt_of_le_of_lt first inside)
  have load := spread.slots _ _ place
  simp only [share, policy] at load
  have room := load.trans_lt (PlacementPolicy.firstFit_turn_free slotted)
  have order := preferred_of_chooseHost even chosen there place room
  simp only [weight, policy] at order
  omega

theorem Spread.chooseHost (spread : cluster.Spread placed)
    (even : placement.EvenHanded cluster.config.hosts)
    (chosen : cluster.chooseHost placement = some host) :
    cluster.distinctHosts[cluster.turn cluster.granted]? = some host := by
  have known := (eligible_of_chooseHost chosen).known
  obtain ⟨index, there⟩ := List.mem_iff_getElem?.mp (List.mem_eraseDups.mpr known)
  change cluster.distinctHosts[index]? = some host at there
  have same : cluster.turn cluster.granted = index := by
    cases policy : cluster.config.policy with
    | leastLoaded =>
        simp only [turn, policy, PlacementPolicy.turn]
        exact spread.leastLoaded_turn policy even chosen there
    | firstFit =>
        simp only [turn, policy, PlacementPolicy.turn]
        exact spread.firstFit_turn policy even chosen there
  rw [same]
  exact there

/-! ## Passes -/

theorem Spread.grant (spread : cluster.Spread placed)
    (even : request.placement.EvenHanded cluster.config.hosts)
    (chosen : cluster.chooseHost request.placement = some host) :
    (cluster.grant host request).2.Spread (placed ++ [host]) := by
  have next := spread.chooseHost even chosen
  have room := Nat.zero_lt_of_lt (slotsUsed_lt_of_chooseHost chosen)
  refine ⟨?_, ?_, ?_⟩
  · rw [List.length_append, ← spread.granted]
    rfl
  · intro index other there
    change cluster.distinctHosts[index]? = some other at there
    have inside : index < cluster.distinctHosts.length := (List.getElem?_eq_some_iff.mp there).1
    have grown : (cluster.grant host request).2.share index =
        cluster.share index + if cluster.turn cluster.granted = index then 1 else 0 :=
      PlacementPolicy.share_succ inside room
    rw [slotsUsed_grant, grown, ← spread.slots index other there]
    by_cases same : host = other
    · subst same
      rw [if_pos rfl, if_pos (index_unique next there)]
    · have different : cluster.turn cluster.granted ≠ index := by
        rintro rfl
        rw [next] at there
        exact same (Option.some.inj there)
      rw [if_neg same, if_neg different, Nat.add_zero]
  · intro number other member
    change cluster.distinctHosts[cluster.turn number]? = some other
    rcases Nat.lt_or_ge number placed.length with earlier | last
    · rw [List.getElem?_append_left earlier] at member
      exact spread.turns number other member
    · obtain ⟨inside, same⟩ := List.getElem?_eq_some_iff.mp member
      rw [List.length_append, List.length_singleton] at inside
      have number_eq : number = cluster.granted := by
        rw [spread.granted]
        omega
      have host_eq : host = other := by simpa [number_eq, spread.granted] using same
      rw [number_eq, ← host_eq]
      exact next

theorem Spread.grantExtra (request : ContainerRequest) (extra : Nat) :
    ∀ {cluster : Cluster} {placed : List Host}, cluster.Spread placed →
      request.placement.EvenHanded cluster.config.hosts →
        (grantExtra request extra cluster).2.Spread
          (placed ++ (grantExtra request extra cluster).1.map (·.host)) := by
  induction extra with
  | zero =>
      intro cluster placed spread _
      simpa [Cluster.grantExtra] using spread
  | succ extra ih =>
      intro cluster placed spread even
      simp only [Cluster.grantExtra]
      split
      · simpa using spread
      · rename_i host chosen
        have rest := ih (spread.grant even chosen) even
        rwa [List.append_assoc] at rest

theorem Spread.answer (spread : cluster.Spread placed)
    (even : request.placement.EvenHanded cluster.config.hosts) :
    (cluster.answer request).2.Spread
      (placed ++ (cluster.answer request).1.containers.map (·.host)) := by
  unfold Cluster.answer
  split
  · simpa using spread
  · rename_i host chosen
    have given : { (cluster.grant host request).2 with
        surplus := fun role => if role = request.role then 0 else cluster.surplus role }.Spread
          (placed ++ [host]) :=
      (spread.grant even chosen).same rfl rfl rfl
    have rest := Spread.grantExtra request (cluster.surplus request.role) given even
    rwa [List.append_assoc] at rest

theorem Spread.grantAll (requests : List ContainerRequest) :
    ∀ {cluster : Cluster} {placed : List Host}, cluster.Spread placed →
      (∀ request ∈ requests, request.placement.EvenHanded cluster.config.hosts) →
        (grantAll requests cluster).2.2.Spread
          (placed ++ (grantAll requests cluster).1.map (·.host)) := by
  induction requests with
  | nil =>
      intro cluster placed spread _
      simpa [Cluster.grantAll] using spread
  | cons request rest ih =>
      intro cluster placed spread even
      have first := spread.answer (even request List.mem_cons_self)
      have same : (cluster.answer request).2.config = cluster.config :=
        (grants_answer request).records.config
      have later := ih first fun other member => by
        rw [same]
        exact even other (List.mem_cons_of_mem _ member)
      rw [grantAll_cons, List.map_append, ← List.append_assoc]
      exact later

/-! ## Histories -/

/-- As long as no request prefers a host and no container has ended, the containers are spread. -/
structure Spreads (config : ClusterConfig) (deliveries : List Delivery) (given : List Answer)
    (cluster : Cluster) : Prop where
  queued : Queued config deliveries given cluster
  spread : (∀ request ∈ cluster.requests, request.placement.EvenHanded config.hosts) →
    endsOf deliveries cluster = [] → cluster.Spread ((containersIn deliveries).map (·.host))

theorem Spreads.change {deliveries : List Delivery} {given : List Answer} {before : Cluster}
    (spreads : Spreads config deliveries given before) (change : Change before after) :
    Spreads config deliveries given after := by
  refine ⟨spreads.queued.change change, fun even unended => ?_⟩
  rw [change.queue.requests] at even
  have never {status : ContainerStatus} :
      endsIn deliveries ++ (before.completed ++ [status]) ≠ [] := by
    simp
  cases change with
  | adjust same =>
      rw [endsOf, same.completed] at unended
      exact (spreads.spread even unended).same same.config same.slots same.granted
  | launch => exact (spreads.spread even unended).same rfl rfl rfl
  | release => exact absurd unended never
  | refuse => exact absurd unended never
  | finish => exact absurd unended never

theorem Spreads.beat {deliveries : List Delivery} {given : List Answer}
    (spreads : Spreads config deliveries given cluster) :
    Spreads config (deliveries ++ cluster.heartbeat.1) (given ++ cluster.beatAnswers)
      cluster.heartbeat.2 := by
  refine ⟨spreads.queued.beat, fun even unended => ?_⟩
  rw [requests_heartbeat] at even
  rw [endsOf_heartbeat] at unended
  have spread := spreads.spread even unended
  cases running : cluster.isRunning with
  | false =>
      rw [heartbeat_stopped running, List.append_nil]
      exact spread
  | true =>
      have granted := spread.grantAll cluster.pending fun request member => by
        rw [spreads.queued.same]
        exact even request (spreads.queued.ordered.subset member)
      rw [containersIn, List.flatMap_append, List.map_append]
      change Spread _ ((containersIn deliveries).map _ ++ (containersIn cluster.heartbeat.1).map _)
      rw [containersIn_heartbeat running, (heartbeat_running running).2]
      exact granted.same rfl rfl rfl

theorem History.spreads (history : History config trace cluster) :
    Spreads config (deliveredIn trace) (answersIn trace) cluster :=
  history.keeps (Spreads config)
    ⟨queued_init config, fun _ _ => spread_init config⟩
    (fun _ _ _ _ change spreads => spreads.change change)
    (fun _ _ _ request spreads => ⟨spreads.queued.addRequest request, fun even unended =>
      (spreads.spread (fun other member => even other (List.mem_append_left _ member)) unended).same
        rfl rfl rfl⟩)
    fun _ _ _ spreads => spreads.beat

/-- A request gets the first host in the order of preference among those that it accepts and that
have a free slot, if there is one. So, as long as no request prefers a host and no container ends,
the number of grants tells how many containers each host has, and where each one was granted. -/
theorem hosts_preferred :
    (∀ (cluster : Cluster) (placement : PlacementConstraint),
      (cluster.chooseHost placement = none ↔ ∀ host ∈ cluster.config.hosts,
        placement.accepts host = true → cluster.isFree host = false) ∧
      ∀ host, cluster.chooseHost placement = some host ↔
        cluster.Eligible placement host ∧ ∀ other, cluster.Eligible placement other →
          cluster.rank placement host ≤ cluster.rank placement other) ∧
    ∀ (config : ClusterConfig) (trace : List Occurrence) (cluster : Cluster),
      History config trace cluster →
      (∀ request ∈ requestedIn trace, request.placement.EvenHanded config.hosts) →
      endsOf (deliveredIn trace) cluster = [] →
      let hosts := config.hosts.eraseDups
      cluster.granted = (containersIn (deliveredIn trace)).length ∧
        (∀ index host, hosts[index]? = some host →
          cluster.slotsUsed host =
            config.policy.share hosts.length config.slotsPerHost cluster.granted index) ∧
        ∀ number container, (containersIn (deliveredIn trace))[number]? = some container →
          hosts[config.policy.turn hosts.length config.slotsPerHost number]? =
            some container.host := by
  refine ⟨fun cluster placement => ⟨chooseHost_eq_none_iff, fun host => chooseHost_eq_some_iff⟩, ?_⟩
  intro config trace cluster history even unended hosts
  rw [← history.requests] at even
  obtain ⟨queued, spreads⟩ := history.spreads
  obtain ⟨granted, slots, turns⟩ := spreads even unended
  simp only [distinctHosts, share, turn, queued.same] at slots turns
  refine ⟨by rw [granted, List.length_map], slots, ?_⟩
  intro number container delivered
  exact turns number container.host (by rw [List.getElem?_map, delivered]; rfl)

def repeating (policy : PlacementPolicy) : ClusterConfig where
  hosts := ["h1", "h2", "h1", "h3"]
  slotsPerHost := 2
  policy
  surplusWorkers := 1

def indifferent : List Action :=
  [.start, .add (workerOn []) 1, .tick 1, .add (workerOn ["h3", "h2", "h1"]) 2, .tick 1]

def indifferentOutcome (policy : PlacementPolicy) : Cluster :=
  (init (repeating policy)).performAll indifferent

theorem hosts_preferred_indifferent :
    ["h1", "h2", "h3"].map (indifferentOutcome .leastLoaded).slotsUsed = [2, 1, 1] ∧
      ["h1", "h2", "h3"].map (indifferentOutcome .firstFit).slotsUsed = [2, 2, 0] ∧
      ∀ other, (indifferentOutcome .leastLoaded).Eligible ⟨["h3"], true⟩ other →
        (indifferentOutcome .leastLoaded).rank ⟨["h3"], true⟩ "h3" ≤
          (indifferentOutcome .leastLoaded).rank ⟨["h3"], true⟩ other := by
  obtain ⟨choice, filled⟩ := hosts_preferred
  have history (policy : PlacementPolicy) : History (repeating policy)
      (recordAll indifferent (init (repeating policy))) (indifferentOutcome policy) :=
    history_performAll indifferent
  obtain ⟨_, spread, _⟩ :=
    filled _ _ _ (history .leastLoaded) (by decide +kernel) (by decide +kernel)
  obtain ⟨_, packed, _⟩ :=
    filled _ _ _ (history .firstFit) (by decide +kernel) (by decide +kernel)
  refine ⟨?_, ?_, (((choice (indifferentOutcome .leastLoaded) ⟨["h3"], true⟩).2 "h3").mp
    (by decide +kernel)).2⟩
  · simp only [List.map_cons, List.map_nil]
    rw [spread 0 "h1" (by decide +kernel), spread 1 "h2" (by decide +kernel),
      spread 2 "h3" (by decide +kernel)]
    decide +kernel
  · simp only [List.map_cons, List.map_nil]
    rw [packed 0 "h1" (by decide +kernel), packed 1 "h2" (by decide +kernel),
      packed 2 "h3" (by decide +kernel)]
    decide +kernel

end Cluster

end Muster
