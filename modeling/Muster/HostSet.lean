/-!
Hosts and finite sets of hosts, listed in the order of their names.
-/

namespace Muster

abbrev Host := String

namespace HostSet

def insertHost (host : Host) : List Host → List Host
  | [] => [host]
  | head :: rest =>
    if host < head then host :: head :: rest
    else if host = head then head :: rest
    else head :: insertHost host rest

theorem mem_insertHost {host other : Host} {hosts : List Host} :
    other ∈ insertHost host hosts ↔ other = host ∨ other ∈ hosts := by
  induction hosts with
  | nil => simp [insertHost]
  | cons head rest ih =>
    unfold insertHost
    split
    · simp
    · split
      case isTrue same => simp [same]
      case isFalse => simp [ih, or_left_comm]

theorem insertHost_sorted (host : Host) {hosts : List Host} (sorted : hosts.Pairwise (· < ·)) :
    (insertHost host hosts).Pairwise (· < ·) := by
  induction hosts with
  | nil => simp [insertHost]
  | cons head rest ih =>
    obtain ⟨above, tail⟩ := List.pairwise_cons.1 sorted
    unfold insertHost
    split
    case isTrue less =>
      refine List.pairwise_cons.2 ⟨fun other mem => ?_, sorted⟩
      rcases List.mem_cons.1 mem with rfl | later
      · exact less
      · exact String.lt_trans less (above other later)
    case isFalse notLess =>
      split
      case isTrue => exact sorted
      case isFalse different =>
        refine List.pairwise_cons.2 ⟨fun other mem => ?_, ih tail⟩
        rcases mem_insertHost.1 mem with rfl | later
        · exact Classical.byContradiction fun notGreater =>
            different (String.le_antisymm (String.not_lt.1 notGreater) (String.not_lt.1 notLess))
        · exact above other later

end HostSet

/-- A set of hosts: their names, strictly increasing. -/
structure HostSet where
  toList : List Host
  sorted : toList.Pairwise (· < ·)
  deriving DecidableEq

namespace HostSet

instance : Repr HostSet where
  reprPrec hosts := reprPrec hosts.toList

def empty : HostSet := ⟨[], .nil⟩

def insert (hosts : HostSet) (host : Host) : HostSet :=
  ⟨insertHost host hosts.toList, insertHost_sorted host hosts.sorted⟩

def ofList (hosts : List Host) : HostSet :=
  hosts.foldl insert empty

def contains (hosts : HostSet) (host : Host) : Bool :=
  hosts.toList.contains host

def size (hosts : HostSet) : Nat :=
  hosts.toList.length

theorem mem_insert {hosts : HostSet} {host other : Host} :
    other ∈ (hosts.insert host).toList ↔ other = host ∨ other ∈ hosts.toList :=
  mem_insertHost

end HostSet

end Muster
