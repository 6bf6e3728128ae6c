import Muster.Coordinator.Error
import Muster.Latch
import Muster.Placement

/-!
The roster of workers: where workers were launched, and how many requests of the current round are
still unanswered. From it follow the size of the next round and the fate of each container.
-/

namespace Muster

/-- The number of workers wanted, and the most that one host may have. -/
structure Limits where
  target : Nat
  maxPerHost : Nat
  deriving DecidableEq, Repr

structure Roster where
  placement : Placement := {}
  gate : RoundGate := {}
  deriving DecidableEq, Repr

structure Round where
  needed : Nat
  hosts : List Host
  deriving DecidableEq, Repr

namespace Roster

def workers (roster : Roster) : Nat :=
  roster.placement.total

def hasEnough (roster : Roster) (limits : Limits) : Bool :=
  limits.target ≤ roster.workers

def isHostFull (roster : Roster) (limits : Limits) (host : Host) : Bool :=
  roster.placement.isFull host limits.maxPerHost

/-- Plans the next round over the known hosts: none when there are workers enough, and otherwise a
request for each missing worker, which the known hosts with room left have to be able to hold. Only
a round that is planned resets the count of unanswered requests. -/
def nextRound (roster : Roster) (limits : Limits) (known : HostSet) :
    Except BringupError (Option (Round × Roster)) :=
  if roster.hasEnough limits then .ok none
  else
    let needed := limits.target - roster.workers
    let hosts := roster.placement.candidates known.toList limits.maxPerHost
    if hosts.length * limits.maxPerHost < needed then
      .error (.capacityInsufficient needed hosts.length limits.maxPerHost)
    else .ok (some (⟨needed, hosts⟩, { roster with gate := (roster.gate.reset needed).2 }))

def record (roster : Roster) (host : Host) : Roster :=
  { roster with placement := roster.placement.add host }

def answer (roster : Roster) : Roster :=
  { roster with gate := roster.gate.countDown }

end Roster

structure RoundsOutcome where
  rounds : Nat
  workers : Nat
  target : Nat
  deriving DecidableEq, Repr

def RoundsOutcome.satisfied (outcome : RoundsOutcome) : Bool :=
  outcome.target ≤ outcome.workers

end Muster
