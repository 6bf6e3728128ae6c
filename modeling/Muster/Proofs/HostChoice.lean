import Muster.Proofs.Passes

/-!
Which host a simulated cluster chooses for a request. Among the hosts with a free slot that the
constraint accepts it is the least in an order: hosts that are listed come before others, then less
loaded hosts if the policy says so, and then the hosts that come first in the inventory.
-/

namespace Muster

theorem idxOf_filter_le_iff {α : Type} [DecidableEq α] (allowed : α → Bool) {a b : α}
    (first : allowed a = true) (second : allowed b = true) (xs : List α) :
    (xs.filter allowed).idxOf a ≤ (xs.filter allowed).idxOf b ↔ xs.idxOf a ≤ xs.idxOf b := by
  induction xs with
  | nil => rfl
  | cons head rest ih =>
      cases kept : allowed head with
      | true =>
          rw [List.filter_cons_of_pos kept]
          by_cases atFirst : head = a
          · simp [atFirst]
          · by_cases atSecond : head = b
            · subst atSecond
              simp [List.idxOf_cons_ne _ atFirst]
            · simp only [List.idxOf_cons_ne _ atFirst, List.idxOf_cons_ne _ atSecond,
                Nat.succ_le_succ_iff, ih]
      | false =>
          have apart {x : α} (accepted : allowed x = true) : head ≠ x := by
            rintro rfl
            rw [kept] at accepted
            cases accepted
          rw [List.filter_cons_of_neg (by simp [kept]), ih,
            List.idxOf_cons_ne _ (apart first), List.idxOf_cons_ne _ (apart second)]
          exact Nat.succ_le_succ_iff.symm

namespace Cluster

variable {cluster : Cluster} {placement : PlacementConstraint} {host other : Host}

/-! ## The first of the least -/

theorem leastLoaded_first {load : Host → Nat} {hosts : List Host} :
    ∀ {host : Host}, leastLoaded load hosts = some host →
      host ∈ hosts ∧ ∀ other ∈ hosts,
        load host < load other ∨ load host = load other ∧ hosts.idxOf host ≤ hosts.idxOf other := by
  induction hosts with
  | nil =>
      intro host chosen
      cases chosen
  | cons head rest ih =>
      intro host chosen
      have first : (head :: rest).idxOf head = 0 := List.idxOf_cons_self
      simp only [leastLoaded] at chosen
      split at chosen
      · rename_i none
        have empty : rest = [] := by
          by_contra inhabited
          obtain ⟨_, _, found⟩ := exists_leastLoaded load inhabited
          rw [none] at found
          cases found
        cases Option.some.inj chosen
        refine ⟨List.mem_cons_self, fun other member => ?_⟩
        rw [empty, List.mem_singleton] at member
        exact .inr ⟨by rw [member], by omega⟩
      · rename_i best found
        obtain ⟨inside, least⟩ := ih found
        split at chosen
        · cases Option.some.inj chosen
          refine ⟨List.mem_cons_self, fun other member => ?_⟩
          rcases List.mem_cons.mp member with rfl | later
          · exact .inr ⟨rfl, Nat.le_refl _⟩
          · have := least other later
            omega
        · rename_i more
          cases Option.some.inj chosen
          have different : head ≠ host := by
            rintro rfl
            exact more (Nat.le_refl _)
          refine ⟨List.mem_cons_of_mem _ inside, fun other member => ?_⟩
          by_cases same : head = other
          · subst same
            exact .inl (Nat.not_le.mp more)
          · have := least other ((List.mem_cons.mp member).resolve_left (Ne.symm same))
            rw [List.idxOf_cons_ne rest different, List.idxOf_cons_ne rest same]
            omega

theorem leastLoaded_filter {load : Host → Nat} {allowed : Host → Bool} {hosts : List Host}
    (chosen : leastLoaded load (hosts.filter allowed) = some host) :
    allowed host = true ∧ ∀ other ∈ hosts, allowed other = true →
      load host < load other ∨ load host = load other ∧ hosts.idxOf host ≤ hosts.idxOf other := by
  obtain ⟨member, least⟩ := leastLoaded_first chosen
  have accepted := (List.mem_filter.mp member).2
  refine ⟨accepted, fun other inside allowed => ?_⟩
  rw [← idxOf_filter_le_iff _ accepted allowed]
  exact least other (List.mem_filter.mpr ⟨inside, allowed⟩)

def weight (cluster : Cluster) (host : Host) : Nat :=
  match cluster.config.policy with
  | .firstFit => 0
  | .leastLoaded => cluster.slotsUsed host

theorem leastLoaded_zero (hosts : List Host) : leastLoaded (fun _ => 0) hosts = hosts.head? := by
  cases hosts with
  | nil => rfl
  | cons head rest =>
      simp only [leastLoaded, Nat.le_refl, if_true, List.head?_cons]
      split <;> rfl

theorem chooseHost_eq_leastLoaded (cluster : Cluster) (placement : PlacementConstraint) :
    cluster.chooseHost placement = leastLoaded cluster.weight (cluster.fittingHosts placement) := by
  unfold chooseHost weight
  cases cluster.config.policy with
  | leastLoaded => rfl
  | firstFit => exact (leastLoaded_zero _).symm

/-! ## The order of the hosts -/

/-- A host of the inventory with a free slot that a constraint accepts. -/
structure Eligible (placement : PlacementConstraint) (cluster : Cluster) (host : Host) : Prop where
  known : host ∈ cluster.config.hosts
  free : cluster.isFree host = true
  accepted : placement.accepts host = true

def unlisted (placement : PlacementConstraint) (host : Host) : Nat :=
  if host ∈ placement.hosts then 0 else 1

/-- The place of a host in the order in which hosts are preferred. -/
def rank (placement : PlacementConstraint) (cluster : Cluster) (host : Host) : Nat ×ₗ Nat ×ₗ Nat :=
  toLex (unlisted placement host,
    toLex (cluster.weight host, cluster.config.hosts.idxOf host))

theorem rank_le_iff : cluster.rank placement host ≤ cluster.rank placement other ↔
    unlisted placement host < unlisted placement other ∨
      unlisted placement host = unlisted placement other ∧
        (cluster.weight host < cluster.weight other ∨
          cluster.weight host = cluster.weight other ∧
            cluster.config.hosts.idxOf host ≤ cluster.config.hosts.idxOf other) := by
  simp only [rank, Prod.Lex.toLex_le_toLex]

theorem rank_injective (known : host ∈ cluster.config.hosts)
    (same : cluster.rank placement host = cluster.rank placement other) : host = other := by
  have places : cluster.config.hosts.idxOf host = cluster.config.hosts.idxOf other :=
    congrArg (fun rank => (ofLex (ofLex rank).2).2) same
  exact (List.idxOf_inj known).mp places

theorem fittingHosts_of_listed (eligible : cluster.Eligible placement host)
    (listed : host ∈ placement.hosts) :
    cluster.fittingHosts placement = cluster.config.hosts.filter fun host =>
      placement.hosts.contains host && cluster.isFree host := by
  have member : host ∈ (cluster.config.hosts.filter cluster.isFree).filter
      placement.hosts.contains := by
    simp [eligible.known, eligible.free, listed]
  simp only [fittingHosts]
  rw [if_neg (by simpa using List.ne_nil_of_mem member), List.filter_filter]

theorem fittingHosts_of_none_listed
    (none : ∀ host, cluster.Eligible placement host → host ∉ placement.hosts) :
    cluster.fittingHosts placement = cluster.config.hosts.filter fun host =>
      placement.accepts host && cluster.isFree host := by
  have empty :
      (cluster.config.hosts.filter cluster.isFree).filter placement.hosts.contains = [] := by
    rw [List.filter_eq_nil_iff]
    intro host member listed
    obtain ⟨known, free⟩ := List.mem_filter.mp member
    have inside := List.contains_iff_mem.mp listed
    exact none host ⟨known, free, accepts_of_listed inside⟩ inside
  simp only [fittingHosts, empty, List.isEmpty_nil, if_true, List.filter_filter]

theorem eligible_of_chooseHost (chosen : cluster.chooseHost placement = some host) :
    cluster.Eligible placement host :=
  ⟨(chooseHost_fits chosen).1, (chooseHost_fits chosen).2.1, (chooseHost_fits chosen).2.2⟩

theorem rank_chooseHost_le (chosen : cluster.chooseHost placement = some host)
    (eligible : cluster.Eligible placement other) :
    cluster.rank placement host ≤ cluster.rank placement other := by
  have fits := eligible_of_chooseHost chosen
  rw [chooseHost_eq_leastLoaded] at chosen
  rw [rank_le_iff]
  by_cases some : ∃ host, cluster.Eligible placement host ∧ host ∈ placement.hosts
  · obtain ⟨_, first, listed⟩ := some
    rw [fittingHosts_of_listed first listed] at chosen
    obtain ⟨allowed, least⟩ := leastLoaded_filter chosen
    have inside : host ∈ placement.hosts := by simpa using (Bool.and_eq_true_iff.mp allowed).1
    by_cases among : other ∈ placement.hosts
    · refine .inr ⟨by simp only [unlisted, inside, among], ?_⟩
      exact least other eligible.known (by simp [among, eligible.free])
    · exact .inl (by simp [unlisted, inside, among])
  · have none : ∀ host, cluster.Eligible placement host → host ∉ placement.hosts :=
      fun host eligible listed => some ⟨host, eligible, listed⟩
    rw [fittingHosts_of_none_listed none] at chosen
    refine .inr ⟨by simp only [unlisted, none host fits, none other eligible], ?_⟩
    exact (leastLoaded_filter chosen).2 other eligible.known
      (by simp [eligible.accepted, eligible.free])

theorem chooseHost_eq_some_iff : cluster.chooseHost placement = some host ↔
    cluster.Eligible placement host ∧ ∀ other, cluster.Eligible placement other →
      cluster.rank placement host ≤ cluster.rank placement other := by
  constructor
  · intro chosen
    exact ⟨eligible_of_chooseHost chosen, fun other eligible => rank_chooseHost_le chosen eligible⟩
  · rintro ⟨eligible, first⟩
    obtain ⟨best, chosen⟩ :=
      exists_chooseHost_of_accepts eligible.known eligible.free eligible.accepted
    have same := le_antisymm (first best (eligible_of_chooseHost chosen))
      (rank_chooseHost_le chosen eligible)
    rw [rank_injective eligible.known same]
    exact chosen

end Cluster

end Muster
