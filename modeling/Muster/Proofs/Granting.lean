import Mathlib
import Muster.Cluster.Allocation
import Muster.Proofs.Placement

/-!
How a simulated cluster grants requests for the same hosts. As many of them are granted in one
heartbeat as there are free slots on those hosts, each in a container of its own.
-/

namespace Muster

theorem Dict.get?_erase {α : Type} (dict : Dict α) (key other : String) :
    (dict.erase key).get? other = if key = other then none else dict.get? other := by
  simp only [get?, erase, List.find?_filter]
  by_cases same : key = other
  · subst same
    simp
  · rw [if_neg same]
    refine congrArg (Option.map (·.2)) (congrArg (List.find? · dict.entries) ?_)
    funext entry
    by_cases found : entry.1 = other
    · simp [found, Ne.symm same]
    · simp [found]

theorem sum_map_pred {α : Type} [DecidableEq α] {keys : List α} (distinct : keys.Nodup) {key : α}
    (member : key ∈ keys) {before after : α → Nat} (less : after key + 1 = before key)
    (same : ∀ other, other ≠ key → after other = before other) :
    (keys.map after).sum + 1 = (keys.map before).sum := by
  induction keys with
  | nil => cases member
  | cons head rest ih =>
      obtain ⟨absent, tail⟩ := List.nodup_cons.mp distinct
      simp only [List.map_cons, List.sum_cons]
      rcases List.mem_cons.mp member with rfl | later
      · have others : rest.map after = rest.map before := by
          apply List.map_congr_left
          intro other inside
          exact same other fun equal => absent (equal ▸ inside)
        rw [others]
        omega
      · have different : head ≠ key := fun equal => absent (equal ▸ later)
        rw [same head different, ← ih tail later]
        omega

namespace Cluster

theorem containerName_injective {index other : Nat}
    (same : containerName index = containerName other) : index = other := by
  have value (index : Nat) : Nat.ofDigitChars 10
      (List.replicate (6 - (Nat.toDigits 10 index).length) '0' ++ Nat.toDigits 10 index) 0 =
        index := by
    rw [Nat.ofDigitChars_append, Nat.ofDigitChars_replicate_zero, Nat.mul_zero,
      Nat.ofDigitChars_ten_toDigits]
  have digits := congrArg String.toList same
  simp only [containerName, String.toList_append, String.toList_ofList] at digits
  rw [← value index, List.append_cancel_left digits, value other]

/-! ## The host of a request -/

theorem exists_leastLoaded (load : Host → Nat) {hosts : List Host} (inhabited : hosts ≠ []) :
    ∃ host ∈ hosts, leastLoaded load hosts = some host := by
  induction hosts with
  | nil => exact absurd rfl inhabited
  | cons head rest ih =>
      simp only [leastLoaded]
      cases found : leastLoaded load rest with
      | none => exact ⟨head, List.mem_cons_self, rfl⟩
      | some other =>
          have inside : rest ≠ [] := by
            rintro rfl
            simp [leastLoaded] at found
          obtain ⟨host, member, chosen⟩ := ih inside
          have same : host = other := by
            rw [found] at chosen
            exact (Option.some.inj chosen).symm
          subst same
          by_cases less : load head ≤ load host
          · exact ⟨head, List.mem_cons_self, by simp [less]⟩
          · exact ⟨host, List.mem_cons_of_mem _ member, by simp [less]⟩

variable {cluster : Cluster}

theorem exists_chooseHost_of_fitting {placement : PlacementConstraint}
    (inhabited : cluster.fittingHosts placement ≠ []) :
    ∃ host ∈ cluster.fittingHosts placement, cluster.chooseHost placement = some host := by
  simp only [chooseHost]
  cases cluster.config.policy with
  | leastLoaded => exact exists_leastLoaded cluster.slotsUsed inhabited
  | firstFit => exact ⟨_, List.head_mem inhabited, List.head?_eq_some_head inhabited⟩

theorem exists_chooseHost {placement : PlacementConstraint} {free : Host}
    (known : free ∈ cluster.config.hosts) (room : cluster.isFree free = true)
    (listed : free ∈ placement.hosts) :
    ∃ host, cluster.chooseHost placement = some host ∧ host ∈ placement.hosts ∧
      cluster.isFree host = true := by
  let fitting := (cluster.config.hosts.filter cluster.isFree).filter placement.hosts.contains
  have member : free ∈ fitting := by
    simp [fitting, known, room, listed]
  have inhabited : fitting ≠ [] := List.ne_nil_of_mem member
  have fits : cluster.fittingHosts placement = fitting := by
    simp only [fittingHosts]
    rw [if_neg (by simpa [fitting] using inhabited)]
  obtain ⟨host, inside, chosen⟩ := exists_chooseHost_of_fitting (fits ▸ inhabited)
  rw [fits] at inside
  simp only [fitting, List.mem_filter, List.contains_iff_mem] at inside
  exact ⟨host, chosen, inside.2, inside.1.2⟩

theorem exists_chooseHost_of_accepts {placement : PlacementConstraint} {free : Host}
    (known : free ∈ cluster.config.hosts) (room : cluster.isFree free = true)
    (accepted : placement.accepts free = true) :
    ∃ host, cluster.chooseHost placement = some host := by
  have inhabited : cluster.fittingHosts placement ≠ [] := by
    simp only [fittingHosts]
    split
    · exact List.ne_nil_of_mem (by simp [known, room, accepted] : free ∈ _)
    · rename_i listed
      simpa using listed
  obtain ⟨host, _, chosen⟩ := exists_chooseHost_of_fitting inhabited
  exact ⟨host, chosen⟩

theorem chooseHost_congr {other : Cluster} (config : other.config = cluster.config)
    (loads : ∀ host, other.slotsUsed host = cluster.slotsUsed host)
    (placement : PlacementConstraint) :
    other.chooseHost placement = cluster.chooseHost placement := by
  have same : other.slotsUsed = cluster.slotsUsed := funext loads
  have free : other.isFree = cluster.isFree := by
    funext host
    simp only [isFree, same, config]
  simp only [chooseHost, fittingHosts, config, same, free]

/-! ## Granted containers -/

def netAddress (host : Host) : String :=
  String.ofList ((host ++ ":8042").toList.takeWhile (· != ':'))

/-- What grants, launches and ends of containers leave alone. -/
structure SameSetup (before after : Cluster) : Prop where
  config : after.config = before.config
  started : after.started = before.started
  inventory : after.inventoryStarted = before.inventoryStarted
  shutdown : after.shutdownPending = before.shutdownPending
  failing : after.failingHosts = before.failingHosts
  pending : after.pending = before.pending
  surplus : (∀ role, before.surplus role = 0) → ∀ role, after.surplus role = 0

theorem SameSetup.refl (cluster : Cluster) : SameSetup cluster cluster :=
  ⟨rfl, rfl, rfl, rfl, rfl, rfl, id⟩

theorem SameSetup.trans {first second third : Cluster} (before : SameSetup first second)
    (after : SameSetup second third) : SameSetup first third :=
  ⟨after.config.trans before.config, after.started.trans before.started,
    after.inventory.trans before.inventory, after.shutdown.trans before.shutdown,
    after.failing.trans before.failing, after.pending.trans before.pending,
    fun none => after.surplus (before.surplus none)⟩

/-- Some containers were granted between two states of a cluster, one after the other. -/
structure Granted (before after : Cluster) (containers : List Container) : Prop where
  setup : SameSetup before after
  later : before.granted ≤ after.granted
  named : ∀ container ∈ containers, ∃ index, before.granted < index ∧ index ≤ after.granted ∧
    container.id.name = containerName index
  distinct : (containers.map (·.id.name)).Nodup
  live : ∀ container ∈ containers,
    after.live.get? container.id.name = some ⟨container, false⟩
  kept : ∀ name, (∀ index, before.granted < index → name ≠ containerName index) →
    after.live.get? name = before.live.get? name
  slots : ∀ host, after.slotsUsed host =
    before.slotsUsed host + containers.countP (·.host == host)

theorem Granted.trans {first second third : Cluster} {containers others : List Container}
    (before : Granted first second containers) (after : Granted second third others) :
    Granted first third (containers ++ others) := by
  have apart : ∀ container ∈ containers, ∀ index, second.granted < index →
      container.id.name ≠ containerName index := by
    intro container member index beyond same
    obtain ⟨granted, _, upTo, named⟩ := before.named container member
    have equal := containerName_injective (named.symm.trans same)
    omega
  refine ⟨before.setup.trans after.setup, Nat.le_trans before.later after.later, ?_, ?_, ?_, ?_,
    ?_⟩
  · intro container member
    have later := after.later
    have earlier := before.later
    rcases List.mem_append.mp member with first | last
    · obtain ⟨index, above, upTo, named⟩ := before.named container first
      exact ⟨index, above, by omega, named⟩
    · obtain ⟨index, above, upTo, named⟩ := after.named container last
      exact ⟨index, by omega, upTo, named⟩
  · rw [List.map_append, List.nodup_append]
    refine ⟨before.distinct, after.distinct, ?_⟩
    intro name inside other among same
    obtain ⟨container, member, rfl⟩ := List.mem_map.mp inside
    obtain ⟨last, lastMember, rfl⟩ := List.mem_map.mp among
    obtain ⟨index, above, _, named⟩ := after.named last lastMember
    exact apart container member index above (same.trans named)
  · intro container member
    rcases List.mem_append.mp member with first | last
    · rw [after.kept _ (apart container first)]
      exact before.live container first
    · exact after.live container last
  · intro name fresh
    rw [after.kept name fun index beyond => fresh index (Nat.lt_of_le_of_lt before.later beyond)]
    exact before.kept name fresh
  · intro host
    rw [after.slots, before.slots, List.countP_append, Nat.add_assoc]

theorem slotsUsed_insert (dict : Dict Nat) (host other : Host) (used : Nat) :
    ((dict.insert host used).get? other).getD 0 =
      if host = other then used else (dict.get? other).getD 0 := by
  rw [Dict.get?_insert]
  split <;> rfl

theorem granted_grant (host : Host) (request : ContainerRequest) :
    Granted cluster (cluster.grant host request).2 [(cluster.grant host request).1] := by
  refine ⟨⟨rfl, rfl, rfl, rfl, rfl, rfl, id⟩, Nat.le_succ _, ?_, by simp, ?_, ?_, ?_⟩
  · intro container member
    rw [List.mem_singleton.mp member]
    exact ⟨cluster.granted + 1, Nat.lt_succ_self _, Nat.le_refl _, rfl⟩
  · intro container member
    rw [List.mem_singleton.mp member]
    simp [grant, Dict.get?_insert]
  · intro name fresh
    have other : containerName (cluster.granted + 1) ≠ name :=
      (fresh _ (Nat.lt_succ_self _)).symm
    simp [grant, Dict.get?_insert, other]
  · intro other
    have used : (cluster.grant host request).2.slotsUsed other =
        if host = other then cluster.slotsUsed host + 1 else cluster.slotsUsed other :=
      slotsUsed_insert _ _ _ _
    rw [used]
    by_cases same : host = other
    · subst same
      simp [grant]
    · simp [grant, same]

theorem granted_nil (cluster : Cluster) : Granted cluster cluster [] :=
  ⟨.refl cluster, Nat.le_refl _, by simp, by simp, by simp, fun _ _ => rfl, by simp⟩

def freeSlots (cluster : Cluster) (hosts : List Host) : Nat :=
  (hosts.map fun host => cluster.config.slotsPerHost - cluster.slotsUsed host).sum

theorem exists_free {hosts : List Host} (positive : 0 < cluster.freeSlots hosts) :
    ∃ host ∈ hosts, cluster.isFree host = true := by
  induction hosts with
  | nil => simp [freeSlots] at positive
  | cons head rest ih =>
      by_cases free : cluster.slotsUsed head < cluster.config.slotsPerHost
      · exact ⟨head, List.mem_cons_self, by simpa [isFree] using free⟩
      · have later : 0 < cluster.freeSlots rest := by
          simp only [freeSlots, List.map_cons, List.sum_cons] at positive ⊢
          omega
        obtain ⟨host, member, room⟩ := ih later
        exact ⟨host, List.mem_cons_of_mem _ member, room⟩

theorem Granted.freeSlots {after : Cluster} {container : Container} {hosts : List Host}
    (granted : Granted cluster after [container]) (distinct : hosts.Nodup)
    (member : container.host ∈ hosts) (free : cluster.isFree container.host = true) :
    after.freeSlots hosts + 1 = cluster.freeSlots hosts := by
  have room : cluster.slotsUsed container.host < cluster.config.slotsPerHost := by
    simpa [isFree] using free
  refine sum_map_pred distinct member ?_ ?_
  · simp only [granted.setup.config, granted.slots, List.countP_singleton, beq_self_eq_true,
      if_true]
    omega
  · intro other different
    have apart : (container.host == other) = false := by simpa using different.symm
    simp only [granted.setup.config, granted.slots, List.countP_singleton, apart,
      Bool.false_eq_true, if_false, Nat.add_zero]

theorem grantAll_chosen {request : ContainerRequest} {host : Host} (rest : List ContainerRequest)
    (chosen : cluster.chooseHost request.placement = some host)
    (unasked : ∀ role, cluster.surplus role = 0) :
    ∃ container after, container.host = host ∧ container.netAddress = netAddress host ∧
      Granted cluster after [container] ∧ grantAll (request :: rest) cluster =
        (container :: (grantAll rest after).1, (grantAll rest after).2.1,
          (grantAll rest after).2.2) := by
  let given := cluster.grant host request
  let surplus := fun role => if role = request.role then 0 else given.2.surplus role
  have granted : Granted cluster given.2 [given.1] := granted_grant host request
  have none : given.2.surplus request.role = 0 := unasked request.role
  have extra : given.2.grantSurplus request = ([], { given.2 with surplus }) := by
    simp only [grantSurplus, none, grantExtra]
    rfl
  refine ⟨given.1, { given.2 with surplus }, rfl, rfl, ?_, ?_⟩
  · obtain ⟨setup, later, named, distinct, live, kept, slots⟩ := granted
    refine ⟨⟨rfl, rfl, rfl, rfl, rfl, rfl, ?_⟩, later, named, distinct, live, kept, slots⟩
    intro before role
    simp only [surplus]
    split
    · rfl
    · exact before role
  · simp only [grantAll, chosen]
    rw [show cluster.grant host request = (given.1, given.2) from rfl]
    simp only [extra, List.cons_append, List.nil_append]

theorem grantAll_replicate {request : ContainerRequest} (distinct : request.placement.hosts.Nodup)
    (count : Nat) : ∀ {cluster : Cluster},
      (∀ host ∈ request.placement.hosts, host ∈ cluster.config.hosts) →
      (∀ role, cluster.surplus role = 0) → count ≤ cluster.freeSlots request.placement.hosts →
      ∃ containers after,
        grantAll (List.replicate count request) cluster = (containers, [], after) ∧
        Granted cluster after containers ∧ containers.length = count ∧
        ∀ container ∈ containers, container.host ∈ request.placement.hosts := by
  induction count with
  | zero =>
      intro cluster _ _ _
      exact ⟨[], cluster, rfl, granted_nil cluster, rfl, by simp⟩
  | succ count ih =>
      intro cluster known unasked room
      obtain ⟨free, listed, empty⟩ := exists_free (Nat.lt_of_lt_of_le (Nat.succ_pos _) room)
      obtain ⟨host, chosen, member, open_⟩ := exists_chooseHost (known free listed) empty listed
      obtain ⟨container, next, rfl, _, granted, step⟩ :=
        grantAll_chosen (List.replicate count request) chosen unasked
      have fewer := granted.freeSlots distinct member open_
      obtain ⟨containers, after, rest, more, length, hosts⟩ :=
        ih (by rw [granted.setup.config]; exact known) (granted.setup.surplus unasked) (by omega)
      refine ⟨container :: containers, after, ?_, granted.trans more, by simp [length], ?_⟩
      · rw [List.replicate_succ, step, rest]
      · intro other among
        rcases List.mem_cons.mp among with rfl | later
        · exact member
        · exact hosts other later

theorem allocate_replicate {request : ContainerRequest} {count : Nat}
    (pending : cluster.pending = List.replicate count request)
    (distinct : request.placement.hosts.Nodup)
    (known : ∀ host ∈ request.placement.hosts, host ∈ cluster.config.hosts)
    (unasked : ∀ role, cluster.surplus role = 0)
    (room : count ≤ cluster.freeSlots request.placement.hosts) :
    ∃ containers after, cluster.allocate = (containers, { after with pending := [] }) ∧
      Granted cluster after containers ∧ containers.length = count ∧
      ∀ container ∈ containers, container.host ∈ request.placement.hosts := by
  obtain ⟨containers, after, all, granted, length, among⟩ :=
    grantAll_replicate distinct count known unasked room
  refine ⟨containers, after, ?_, granted, length, among⟩
  simp only [allocate, pending, all]

theorem allocate_singleton {request : ContainerRequest} {host : Host}
    (pending : cluster.pending = [request])
    (chosen : cluster.chooseHost request.placement = some host)
    (unasked : ∀ role, cluster.surplus role = 0) :
    ∃ container after, cluster.allocate = ([container], { after with pending := [] }) ∧
      Granted cluster after [container] ∧ container.host = host ∧
        container.netAddress = netAddress host := by
  obtain ⟨container, after, placed, address, granted, all⟩ := grantAll_chosen [] chosen unasked
  refine ⟨container, after, ?_, granted, placed, address⟩
  simp only [allocate, pending, all, grantAll]

end Cluster

end Muster
