import Muster.Proofs.Handling
import Muster.Proofs.Target

/-!
The rounds of a bring-up on a simulated cluster. When a host has more slots than it may have
workers, the hosts of a round have a free slot for each of its requests, even if the master runs on
one of them. So one heartbeat answers a whole round.
-/

namespace Muster

theorem HostSet.mem_foldl_insert {hosts : List Host} {host : Host} :
    ∀ {set : HostSet}, host ∈ (hosts.foldl HostSet.insert set).toList →
      host ∈ hosts ∨ host ∈ set.toList := by
  induction hosts with
  | nil => exact fun member => .inr member
  | cons head rest ih =>
      intro set member
      rcases ih member with later | inside
      · exact .inl (List.mem_cons_of_mem _ later)
      · rcases HostSet.mem_insert.mp inside with rfl | before
        · exact .inl List.mem_cons_self
        · exact .inr before

theorem HostSet.mem_of_mem_ofList {hosts : List Host} {host : Host}
    (member : host ∈ (HostSet.ofList hosts).toList) : host ∈ hosts := by
  rcases HostSet.mem_foldl_insert member with inside | outside
  · exact inside
  · cases outside

namespace Placement

theorem spare_add_count {placement : Placement} {cap : Nat}
    (capped : ∀ host, placement.count host ≤ cap) (known : List Host) :
    (known.map fun host => cap - placement.count host).sum + (known.map placement.count).sum =
      known.length * cap := by
  induction known with
  | nil => simp
  | cons head rest ih =>
      have below := capped head
      simp only [List.map_cons, List.sum_cons, List.length_cons, Nat.add_mul, Nat.one_mul]
      omega

theorem spare_le_freeSlots {placement : Placement} {cluster : Cluster} {host : Host} {cap : Nat}
    (slots : ∀ other, cluster.slotsUsed other ≤
      placement.count other + if other = host then 1 else 0)
    (above : cap < cluster.config.slotsPerHost) (known : List Host) :
    (known.map fun other => cap - placement.count other).sum ≤
      cluster.freeSlots (placement.candidates known cap) := by
  induction known with
  | nil => simp
  | cons head rest ih =>
      have used := slots head
      have one : (if head = host then 1 else 0) ≤ 1 := by split <;> omega
      simp only [candidates, List.filter_cons, List.map_cons, List.sum_cons] at ih ⊢
      by_cases full : placement.isFull head cap = true
      · have none : cap - placement.count head = 0 := by
          simpa [isFull, Nat.sub_eq_zero_iff_le] using full
        simp only [full, none, Bool.not_true, Bool.false_eq_true, if_false, Nat.zero_add]
        exact ih
      · simp only [full, Bool.not_false, if_true, Cluster.freeSlots, List.map_cons,
          List.sum_cons] at ih ⊢
        omega

end Placement

/-- The hosts with room left have a free slot for each worker that is missing. -/
theorem Roster.Sound.missing_le_freeSlots {roster : Roster} {limits : Limits} {known : HostSet}
    {cluster : Cluster} {host : Host} (sound : roster.Sound limits)
    (covered : ∀ entry ∈ roster.placement.hosts, entry.1 ∈ known.toList)
    (slots : ∀ other, cluster.slotsUsed other ≤
      roster.placement.count other + if other = host then 1 else 0)
    (above : limits.maxPerHost < cluster.config.slotsPerHost)
    (room : limits.target ≤ known.size * limits.maxPerHost) :
    limits.target - roster.workers ≤
      cluster.freeSlots (roster.placement.candidates known.toList limits.maxPerHost) := by
  have caps := Placement.spare_add_count sound.capped known.toList
  have counted := sound.balanced.sum_count_eq known.nodup covered
  have free := Placement.spare_le_freeSlots slots above known.toList
  have total : roster.workers = roster.placement.total := rfl
  have size : known.size = known.toList.length := rfl
  rw [size] at room
  omega

namespace Coordinator

structure Steady (config : ClusterConfig) (host : Host) (cluster : Cluster) : Prop where
  config : cluster.config = config
  started : cluster.started = true
  inventory : cluster.inventoryStarted = true
  shutdown : cluster.shutdownPending = false
  willing : cluster.failingHosts.contains host = false
  unasked : ∀ role, cluster.surplus role = 0

theorem Steady.same {config : ClusterConfig} {host : Host} {before after : Cluster}
    (steady : Steady config host before) (setup : Cluster.SameSetup before after) :
    Steady config host after := by
  obtain ⟨same, started, inventory, shutdown, willing, unasked⟩ := steady
  refine ⟨setup.config.trans same, setup.started.trans started, setup.inventory.trans inventory,
    setup.shutdown.trans shutdown, ?_, setup.surplus unasked⟩
  rw [setup.failing]
  exact willing

variable {start c : Coordinator Cluster} {config : ClusterConfig} {host : Host} {trusted : Prop}
  {round : Nat}

/-- All requests so far are answered, and there were `round` rounds. -/
structure Cleared (start : Coordinator Cluster) (config : ClusterConfig) (host : Host)
    (trusted : Prop) (round : Nat) (c : Coordinator Cluster) : Prop where
  early : Early start c
  launched : c.master = some (Cluster.netAddress host)
  steady : Steady config host c.env
  idle : c.env.pending = []
  slots : ∀ other, c.env.slotsUsed other ≤
    c.roster.placement.count other + if other = host then 1 else 0
  sound : c.roster.Sound c.plan.limits
  covered : ∀ entry ∈ c.roster.placement.hosts, entry.1 ∈ (HostSet.ofList config.hosts).toList
  reached : trusted → c.env.failingHosts = [] ∧ (c.roster.hasEnough c.plan.limits = false →
    round ≤ (c.roster.fullHosts c.plan.limits (.ofList config.hosts)).length)

/-- All requests of a round are pending, and the hosts that they name have room for them. -/
structure Posted (start : Coordinator Cluster) (config : ClusterConfig) (host : Host)
    (trusted : Prop) (round : Nat) (c : Coordinator Cluster) : Prop where
  control : c.control = .awaitingRound round
  within : round ≤ maxRounds
  early : Early start c
  launched : c.master = some (Cluster.netAddress host)
  steady : Steady config host c.env
  slots : ∀ other, c.env.slotsUsed other ≤
    c.roster.placement.count other + if other = host then 1 else 0
  sound : c.roster.Sound c.plan.limits
  covered : ∀ entry ∈ c.roster.placement.hosts, entry.1 ∈ (HostSet.ofList config.hosts).toList
  wanted : c.workers < c.plan.limits.target
  undrained : 0 < c.roster.gate.outstanding
  pending : ∃ hosts : List Host, hosts.Nodup ∧
    (∀ other ∈ hosts, other ∈ (HostSet.ofList config.hosts).toList) ∧
    c.env.pending =
      List.replicate c.roster.gate.outstanding (c.plan.requests.forWorker hosts) ∧
    c.roster.gate.outstanding ≤ c.env.freeSlots hosts ∧
    (trusted → c.env.failingHosts = [] ∧
      c.roster.Underway c.plan.limits (.ofList config.hosts) hosts round)

structure Launched (start : Coordinator Cluster) (config : ClusterConfig) (host : Host)
    (trusted : Prop) (c : Coordinator Cluster) : Prop where
  control : c.control = .awaitingShutdown
  plan : c.plan = start.plan
  closed : c.done.isOpen = false
  phase : c.phase = .running
  launched : c.master = some (Cluster.netAddress host)
  steady : Steady config host c.env
  idle : c.env.pending = []
  bounded : c.workers ≤ c.plan.limits.target
  exact : trusted → c.plan.limits.target ≤ maxRounds * c.plan.limits.maxPerHost →
    c.workers = c.plan.limits.target

theorem Cleared.settle {rounds : Nat} (cleared : Cleared start config host trusted round c)
    (last : c.roster.hasEnough c.plan.limits = false → round = maxRounds) :
    Launched start config host trusted (c.settle rounds) := by
  obtain ⟨early, launched, steady, idle, slots, sound, covered, reached⟩ := cleared
  by_cases enough : c.plan.limits.target ≤ c.workers
  · rw [settle_satisfied early.phase early.closed enough]
    exact ⟨rfl, early.plan, early.closed, rfl, launched, steady, idle, sound.bounded,
      fun _ _ => Nat.le_antisymm sound.bounded enough⟩
  · have missing := Nat.not_le.mp enough
    have wanted : c.roster.hasEnough c.plan.limits = false :=
      Roster.hasEnough_eq_false.mpr missing
    rw [settle_exhausted early.phase early.closed missing]
    refine ⟨rfl, early.plan, early.closed, rfl, launched, steady, idle, sound.bounded, ?_⟩
    intro trust few
    have full := (reached trust).2 wanted
    rw [last wanted] at full
    exact absurd (Nat.le_trans few (sound.mul_le_workers full)) enough

/-! ## Submitting a round -/

theorem submitWorkers_cluster (request : ContainerRequest) (index count : Nat) :
    ∀ (worker : Nat) (c : Coordinator Cluster), ∃ requests entries,
      c.submitWorkers Cluster.clients request index worker count = { c with
        env := { c.env with
          requests
          pending := c.env.pending ++ List.replicate count request }
        journal := entries ++ c.journal } := by
  induction count with
  | zero => exact fun _ c => ⟨c.env.requests, [], by simp [submitWorkers]⟩
  | succ count ih =>
      intro worker c
      obtain ⟨requests, entries, same⟩ := ih (worker + 1)
        ((c.log (.requestingWorker worker index request)).addRequest Cluster.clients request)
      refine ⟨requests, entries ++ [.call (.addRequest request) none,
        .event (.requestingWorker worker index request)], ?_⟩
      rw [submitWorkers, same]
      simp [addRequest, Cluster.clients, Cluster.addRequest, log, List.replicate_succ]

theorem submitRound_cluster (c : Coordinator Cluster) (planned : Round) (roster : Roster)
    (index : Nat) : ∃ requests,
      ((c.withRound Cluster.clients roster).submitRound Cluster.clients planned index).env =
          { c.env with
            requests
            pending := c.env.pending ++
              List.replicate planned.needed (c.plan.requests.forWorker planned.hosts) } ∧
        ((c.withRound Cluster.clients roster).submitRound Cluster.clients planned index).roster =
          roster := by
  let d := c.withRound Cluster.clients roster
  let request := c.plan.requests.forWorker planned.hosts
  obtain ⟨requests, entries, posted⟩ := submitWorkers_cluster request index planned.needed
    (c.plan.limits.target - planned.needed) d
  refine ⟨requests, (advance_env _ _).trans ?_, (advance_roster _ _).trans ?_⟩
  · exact congrArg Coordinator.env posted
  · exact congrArg Coordinator.roster posted

theorem Cleared.submitRound {planned : Round} {roster : Roster} {index : Nat}
    (cleared : Cleared start config host trusted round c)
    (room : start.plan.limits.target ≤
      (HostSet.ofList config.hosts).size * start.plan.limits.maxPerHost)
    (above : start.plan.limits.maxPerHost < config.slotsPerHost)
    (next : c.roster.nextRound c.plan.limits (.ofList config.hosts) =
      .ok (some (planned, roster)))
    (indexed : index = round + 1) (within : index ≤ maxRounds) :
    Posted start config host trusted index
        { (c.withRound Cluster.clients roster).submitRound Cluster.clients planned index with
          control := .awaitingRound index } ∧
      ((c.withRound Cluster.clients roster).submitRound Cluster.clients planned
        index).roster.gate.isDrained = false := by
  obtain ⟨early, launched, steady, idle, slots, sound, covered, reached⟩ := cleared
  obtain ⟨total, positive, chosen, _, written⟩ := Roster.nextRound_planned next
  have wanted : c.roster.hasEnough c.plan.limits = false :=
    Roster.hasEnough_eq_false.mpr (by omega)
  have owed : roster.gate.outstanding = planned.needed := by rw [written]
  have placed : roster.placement = c.roster.placement := by rw [written]
  -- The master's slot is the one that a host has beyond the workers it may have.
  have missing : planned.needed ≤ c.env.freeSlots planned.hosts := by
    rw [← early.plan] at room above
    have free := sound.missing_le_freeSlots covered slots (by rw [steady.config]; exact above) room
    rw [chosen]
    omega
  have still : Early start
      ((c.withRound Cluster.clients roster).submitRound Cluster.clients planned index) :=
    (early.same sameStage_listed).submitRound
  have opened : ((c.withRound Cluster.clients roster).submitRound Cluster.clients planned
      index).master = some (Cluster.netAddress host) :=
    master_submitRound (moves_listed.master_eq launched)
  obtain ⟨requests, env, rostered⟩ := submitRound_cluster c planned roster index
  generalize (c.withRound Cluster.clients roster).submitRound Cluster.clients planned index = f
    at still opened env rostered ⊢
  have planEq : f.plan = c.plan := still.plan.trans early.plan.symm
  rw [idle, List.nil_append] at env
  refine ⟨⟨rfl, within, ⟨still.plan, still.closed, still.phase, still.climbed⟩, opened, ?_, ?_, ?_,
    ?_, ?_, ?_, planned.hosts, ?_, ?_, ?_, ?_, ?_⟩, ?_⟩
  · simp only [env]
    exact ⟨steady.config, steady.started, steady.inventory, steady.shutdown, steady.willing,
      steady.unasked⟩
  · simp only [env, rostered, placed]
    exact slots
  · simp only [rostered, planEq]
    exact sound.of_placement placed
  · simp only [rostered, placed]
    exact covered
  · simp only [workers, Roster.workers, rostered, placed, planEq]
    exact Roster.hasEnough_eq_false.mp wanted
  · simp only [rostered, owed]
    exact positive
  · rw [chosen]
    exact (HostSet.nodup _).filter _
  · intro other member
    rw [chosen] at member
    exact (Placement.mem_candidates.mp member).1
  · simp only [env, rostered, owed, planEq]
  · simp only [env, rostered, owed]
    exact missing
  · intro trust
    obtain ⟨willing, earlier⟩ := reached trust
    simp only [env, rostered, planEq]
    refine ⟨willing, ?_⟩
    rw [indexed]
    exact Roster.underway_planned sound next (earlier wanted)
  · simp only [rostered, RoundGate.isDrained, owed, beq_eq_false_iff_ne]
    omega

theorem Cleared.aside {c' : Coordinator Cluster}
    (cleared : Cleared start config host trusted round c) (aside : Aside c c')
    (env : c'.env = c.env) : Cleared start config host trusted round c' := by
  obtain ⟨early, launched, steady, idle, slots, sound, covered, reached⟩ := cleared
  have roster := aside.apart.roster
  refine ⟨early.aside aside, ?_, ?_, ?_, ?_, ?_, ?_, ?_⟩
  · rw [aside.master]
    exact launched
  · rw [env]
    exact steady
  · rw [env]
    exact idle
  · rw [env, roster]
    exact slots
  · rw [aside.plan, roster]
    exact sound
  · rw [roster]
    exact covered
  · rw [aside.plan, env, roster]
    exact reached

theorem Steady.nodeHosts {cluster : Cluster} (steady : Steady config host cluster) :
    (Cluster.clients.nodeHosts cluster).1 = .ok (.ofList config.hosts) := by
  simp only [Cluster.clients, Cluster.nodeHosts, steady.inventory, steady.config, if_true,
    Except.mapError]

theorem Cleared.runRounds (cleared : Cleared start config host trusted round c) {left : Nat}
    (remaining : left + round = maxRounds)
    (room : start.plan.limits.target ≤
      (HostSet.ofList config.hosts).size * start.plan.limits.maxPerHost)
    (above : start.plan.limits.maxPerHost < config.slotsPerHost) :
    Posted start config host trusted (round + 1) (c.runRounds Cluster.clients left) ∨
      Launched start config host trusted (c.runRounds Cluster.clients left) := by
  cases left with
  | zero => exact .inr (cleared.settle fun _ => by omega)
  | succ left =>
      cases wanted : c.roster.hasEnough c.plan.limits with
      | true =>
          simp only [Coordinator.runRounds, wanted, if_true]
          exact .inr (cleared.settle fun missing => by simp [wanted] at missing)
      | false =>
          obtain ⟨planned, roster, next⟩ := Roster.nextRound_isSome wanted
            (cleared.sound.fits (by rw [cleared.early.plan]; exact room))
          have index : maxRounds - left = round + 1 := by omega
          obtain ⟨posted, undrained⟩ :=
            cleared.submitRound room above next index (by omega)
          rw [runRounds_planned left wanted cleared.steady.nodeHosts next,
            if_neg (Bool.eq_false_iff.mp undrained)]
          rw [index] at posted ⊢
          exact .inl posted

end Coordinator

end Muster
