import Mathlib
import Muster.Placement

/-!
How the counts of a placement add up. Over all hosts with workers they make the total, and over
other hosts without repeats no more than that. So the hosts with room left can hold the workers
that are still missing whenever all known hosts together could hold every worker.
-/

namespace Muster

theorem sum_map_ite {α : Type} [DecidableEq α] (key : α) (value : Nat) (count : α → Nat)
    (missing : count key = 0) {keys : List α} (distinct : keys.Nodup) :
    (keys.map fun other => if key = other then value else count other).sum =
      (if key ∈ keys then value else 0) + (keys.map count).sum := by
  induction keys with
  | nil => simp
  | cons head rest ih =>
      obtain ⟨absent, tail⟩ := List.nodup_cons.mp distinct
      simp only [List.map_cons, List.sum_cons, ih tail, List.mem_cons]
      by_cases same : key = head
      · subst head
        simp [absent, missing]
      · simp only [same, if_false, false_or]
        omega

namespace Dict

theorem find?_of_above {α : Type} {key : String} {entries : List (String × α)}
    (above : ∀ entry ∈ entries, key < entry.1) : entries.find? (·.1 == key) = none := by
  rw [List.find?_eq_none]
  intro entry member same
  have below := above entry member
  rw [beq_iff_eq.mp same] at below
  exact String.lt_irrefl key below

theorem lookup_eq_some_iff {α : Type} {entries : List (String × α)}
    (distinct : (entries.map Prod.fst).Nodup) {key : String} {value : α} :
    (entries.find? (·.1 == key)).map (·.2) = some value ↔ (key, value) ∈ entries := by
  induction entries with
  | nil => simp
  | cons head rest ih =>
      obtain ⟨fresh, tail⟩ := List.nodup_cons.mp distinct
      by_cases same : head.1 = key
      · have absent : (key, value) ∉ rest := by
          intro member
          exact fresh (same ▸ List.mem_map_of_mem member)
        simp [same, absent, Prod.ext_iff, eq_comm]
      · simp [same, ih tail, Prod.ext_iff, Ne.symm same]

theorem nodup_keys {α : Type} (dict : Dict α) : (dict.entries.map Prod.fst).Nodup := by
  rw [List.Nodup, List.pairwise_map]
  exact dict.sorted.imp String.ne_of_lt

theorem mem_entries_iff {α : Type} {dict : Dict α} {key : String} {value : α} :
    (key, value) ∈ dict.entries ↔ dict.get? key = some value :=
  (lookup_eq_some_iff dict.nodup_keys).symm

theorem sum_insertEntry {α : Type} (weight : α → Nat) (key : String) (value : α)
    {entries : List (String × α)} (sorted : entries.Pairwise fun a b => a.1 < b.1) :
    ((insertEntry key value entries).map fun entry => weight entry.2).sum +
        ((entries.find? (·.1 == key)).map fun entry => weight entry.2).getD 0 =
      (entries.map fun entry => weight entry.2).sum + weight value := by
  induction entries with
  | nil => simp [insertEntry]
  | cons head rest ih =>
      obtain ⟨above, tail⟩ := List.pairwise_cons.mp sorted
      have tailSum := ih tail
      simp only [insertEntry]
      split
      · rename_i less
        have absent : (head :: rest).find? (·.1 == key) = none := by
          apply find?_of_above
          intro entry member
          rcases List.mem_cons.mp member with rfl | later
          · exact less
          · exact String.lt_trans less (above entry later)
        simp only [absent, List.map_cons, List.sum_cons, Option.map_none, Option.getD_none]
        omega
      · split
        · rename_i same
          simp only [List.map_cons, List.sum_cons, List.find?_cons, same, beq_self_eq_true,
            Option.map_some, Option.getD_some]
          omega
        · rename_i different
          have skipped : (head.1 == key) = false := by simpa using Ne.symm different
          simp only [List.map_cons, List.sum_cons, List.find?_cons, skipped]
          omega

def sumBy {α : Type} (weight : α → Nat) (dict : Dict α) : Nat :=
  (dict.entries.map fun entry => weight entry.2).sum

theorem sumBy_insert {α : Type} (weight : α → Nat) (dict : Dict α) (key : String) (value : α) :
    (dict.insert key value).sumBy weight + ((dict.get? key).map weight).getD 0 =
      dict.sumBy weight + weight value := by
  have replaced := sum_insertEntry weight key value dict.sorted
  rw [get?, Option.map_map]
  exact replaced

theorem sumBy_erase {α : Type} (weight : α → Nat) (dict : Dict α) (key : String) :
    (dict.erase key).sumBy weight + ((dict.get? key).map weight).getD 0 = dict.sumBy weight := by
  obtain ⟨entries, sorted⟩ := dict
  simp only [sumBy, erase, get?, Option.map_map]
  induction entries with
  | nil => simp
  | cons head rest ih =>
      obtain ⟨above, tail⟩ := List.pairwise_cons.mp sorted
      have tailSum := ih tail
      by_cases same : head.1 = key
      · have kept : rest.filter (·.1 != key) = rest := by
          rw [List.filter_eq_self]
          intro entry member
          have different : entry.1 ≠ key := by
            rw [← same]
            exact (String.ne_of_lt (above entry member)).symm
          simpa using different
        have found : (head.1 == key) = true := by simpa using same
        have dropped : (head.1 != key) = false := by simpa using same
        simp only [List.filter_cons, List.find?_cons, found, dropped, kept, Bool.false_eq_true,
          if_false, Option.map_some, Option.getD_some, List.map_cons, List.sum_cons,
          Function.comp_apply]
        omega
      · have missed : (head.1 == key) = false := by simpa using same
        have stays : (head.1 != key) = true := by simpa using same
        simp only [List.filter_cons, List.find?_cons, missed, stays, if_true, List.map_cons,
          List.sum_cons]
        omega

theorem sum_insert (dict : Dict Nat) (key : String) (value : Nat) :
    ((dict.insert key value).entries.map (·.2)).sum + (dict.get? key).getD 0 =
      (dict.entries.map (·.2)).sum + value := by
  simpa [sumBy] using sumBy_insert id dict key value

theorem sum_find? {keys : List String} (distinct : keys.Nodup) {entries : List (String × Nat)}
    (sorted : entries.Pairwise fun a b => a.1 < b.1) :
    (keys.map fun key => ((entries.find? (·.1 == key)).map (·.2)).getD 0).sum =
      ((entries.filter fun entry => entry.1 ∈ keys).map (·.2)).sum := by
  induction entries with
  | nil => simp
  | cons head rest ih =>
      obtain ⟨above, tail⟩ := List.pairwise_cons.mp sorted
      have absent := find?_of_above above
      have split : ∀ key, (((head :: rest).find? (·.1 == key)).map (·.2)).getD 0 =
          if head.1 = key then head.2 else ((rest.find? (·.1 == key)).map (·.2)).getD 0 := by
        intro key
        by_cases same : head.1 = key <;> simp [same]
      simp only [split]
      rw [sum_map_ite _ _ _ (by simp [absent]) distinct, ih tail]
      by_cases listed : head.1 ∈ keys <;> simp [listed]

end Dict

theorem HostSet.nodup (hosts : HostSet) : hosts.toList.Nodup :=
  hosts.sorted.imp fun less => String.ne_of_lt less

namespace Placement

/-- The counts make the total, and a host is only listed when it has a worker. -/
structure Balanced (placement : Placement) : Prop where
  total : (placement.hosts.map (·.2)).sum = placement.total
  positive : ∀ entry ∈ placement.hosts, 1 ≤ entry.2

theorem balanced_empty : Balanced {} := by
  constructor
  · rfl
  · intro entry member
    cases member

theorem Balanced.add {placement : Placement} (balanced : placement.Balanced) (host : Host) :
    (placement.add host).Balanced := by
  constructor
  · have grown : ((placement.add host).hosts.map (·.2)).sum + placement.count host =
        (placement.hosts.map (·.2)).sum + (placement.count host + 1) :=
      placement.counts.sum_insert host _
    have before := balanced.total
    rw [total_add]
    omega
  · intro entry member
    rcases Dict.mem_insertEntry member with rfl | earlier
    · exact Nat.le_add_left _ _
    · exact balanced.positive entry earlier

theorem Balanced.sum_count_le {placement : Placement} (balanced : placement.Balanced)
    {hosts : List Host} (distinct : hosts.Nodup) :
    (hosts.map placement.count).sum ≤ placement.total := by
  rw [← balanced.total]
  refine Nat.le_trans (Nat.le_of_eq (Dict.sum_find? distinct placement.counts.sorted)) ?_
  exact List.Sublist.sum_le_sum (List.filter_sublist.map _) fun _ _ => Nat.zero_le _

theorem Balanced.count_le {placement : Placement} (balanced : placement.Balanced) (host : Host) :
    placement.count host ≤ placement.total := by
  have distinct : [host].Nodup := by simp
  simpa using balanced.sum_count_le distinct

theorem Balanced.sum_count_eq {placement : Placement} (balanced : placement.Balanced)
    {hosts : List Host} (distinct : hosts.Nodup)
    (covers : ∀ entry ∈ placement.hosts, entry.1 ∈ hosts) :
    (hosts.map placement.count).sum = placement.total := by
  rw [← balanced.total]
  refine (Dict.sum_find? distinct placement.counts.sorted).trans ?_
  rw [List.filter_eq_self.mpr fun entry member => by simpa using covers entry member]
  rfl

/-- The known hosts that have `cap` workers or more. -/
def fullHosts (placement : Placement) (known : List Host) (cap : Nat) : List Host :=
  known.filter fun host => placement.isFull host cap

theorem length_fullHosts_add (placement : Placement) (known : List Host) (cap : Nat) :
    (placement.fullHosts known cap).length + (placement.candidates known cap).length =
      known.length :=
  (List.length_eq_length_filter_add _).symm

theorem mem_candidates {placement : Placement} {known : List Host} {cap : Nat} {host : Host} :
    host ∈ placement.candidates known cap ↔ host ∈ known ∧ placement.count host < cap := by
  simp [candidates, isFull]

theorem mem_fullHosts {placement : Placement} {known : List Host} {cap : Nat} {host : Host} :
    host ∈ placement.fullHosts known cap ↔ host ∈ known ∧ cap ≤ placement.count host := by
  simp [fullHosts, isFull]

theorem Balanced.fullHosts_mul_le {placement : Placement} (balanced : placement.Balanced)
    {known : List Host} (distinct : known.Nodup) (cap : Nat) :
    (placement.fullHosts known cap).length * cap ≤ placement.total := by
  have used : (placement.fullHosts known cap).length * cap ≤
      ((placement.fullHosts known cap).map placement.count).sum := by
    have each : ∀ count ∈ (placement.fullHosts known cap).map placement.count, cap ≤ count := by
      intro count member
      obtain ⟨host, full, rfl⟩ := List.mem_map.mp member
      exact (mem_fullHosts.mp full).2
    simpa using List.card_nsmul_le_sum _ cap each
  exact Nat.le_trans used (balanced.sum_count_le (distinct.filter _))

theorem fullHosts_add_le (placement : Placement) (host : Host) (known : List Host) (cap : Nat) :
    (placement.fullHosts known cap).length ≤ ((placement.add host).fullHosts known cap).length := by
  simp only [fullHosts, ← List.countP_eq_length_filter]
  apply List.countP_mono_left
  intro other _ full
  simp only [isFull, decide_eq_true_eq, count_add] at full ⊢
  split <;> omega

theorem fullHosts_add_lt {placement : Placement} {host : Host} {known : List Host} {cap : Nat}
    (member : host ∈ known) (room : placement.count host < cap)
    (reached : cap ≤ (placement.add host).count host) :
    (placement.fullHosts known cap).length < ((placement.add host).fullHosts known cap).length := by
  obtain ⟨before, after, rfl⟩ := List.append_of_mem member
  have front := placement.fullHosts_add_le host before cap
  have back := placement.fullHosts_add_le host after cap
  simp only [fullHosts, List.filter_append, List.filter_cons, List.length_append] at front back ⊢
  simp only [isFull, Nat.not_le.mpr room, decide_false, Bool.false_eq_true, if_false, reached,
    decide_true, if_true, List.length_cons] at front back ⊢
  omega

theorem Balanced.missing_le_candidates {placement : Placement} (balanced : placement.Balanced)
    {known : List Host} (distinct : known.Nodup) {target cap : Nat}
    (room : target ≤ known.length * cap) :
    target - placement.total ≤ (placement.candidates known cap).length * cap := by
  have used := balanced.fullHosts_mul_le distinct cap
  rw [← placement.length_fullHosts_add known cap, Nat.add_mul] at room
  omega

end Placement

end Muster
