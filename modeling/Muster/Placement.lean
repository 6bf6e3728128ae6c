import Muster.Dict
import Muster.HostSet

/-!
The hosts that workers were launched on, with the number of workers on each.
-/

namespace Muster

/-- A multiset of hosts: how many workers each host has, and how many there are in all. -/
structure Placement where
  counts : Dict Nat := .empty
  total : Nat := 0
  deriving DecidableEq, Repr

namespace Placement

def count (placement : Placement) (host : Host) : Nat :=
  (placement.counts.get? host).getD 0

def isFull (placement : Placement) (host : Host) (cap : Nat) : Bool :=
  cap ≤ placement.count host

def add (placement : Placement) (host : Host) : Placement where
  counts := placement.counts.insert host (placement.count host + 1)
  total := placement.total + 1

/-- The hosts among `known` that have fewer than `cap` workers, in the order of `known`. -/
def candidates (placement : Placement) (known : List Host) (cap : Nat) : List Host :=
  known.filter fun host => !placement.isFull host cap

def hosts (placement : Placement) : List (Host × Nat) :=
  placement.counts.entries

theorem count_add (placement : Placement) (host other : Host) :
    (placement.add host).count other =
      if host = other then placement.count other + 1 else placement.count other := by
  by_cases same : host = other
  · subst same
    simp [count, add, Dict.get?_insert]
  · simp [count, add, Dict.get?_insert, same]

@[simp] theorem total_add (placement : Placement) (host : Host) :
    (placement.add host).total = placement.total + 1 := rfl

end Placement

end Muster
