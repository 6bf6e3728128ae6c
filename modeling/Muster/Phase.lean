/-!
The phases in the life of an application, which only move forward.
-/

namespace Muster

inductive Phase
  | created
  | started
  | masterRequested
  | masterLaunched
  /-- The requests of a round of workers, counted from one, are submitted. -/
  | workersRequesting (round : Nat)
  | workersSatisfied
  /-- The last round is over and there are fewer workers than wanted. -/
  | workersExhausted
  | running
  | shutdownRequested
  | stopped
  deriving DecidableEq, Repr

namespace Phase

/-- The place of a phase in the order: its stage, and the round within the stage. -/
def rank : Phase → Nat × Nat
  | created => (0, 0)
  | started => (1, 0)
  | masterRequested => (2, 0)
  | masterLaunched => (3, 0)
  | workersRequesting round => (4, round)
  | workersSatisfied => (5, 0)
  | workersExhausted => (5, 0)
  | running => (6, 0)
  | shutdownRequested => (7, 0)
  | stopped => (8, 0)

def precedes (phase next : Phase) : Bool :=
  phase.rank.1 < next.rank.1 || (phase.rank.1 == next.rank.1 && phase.rank.2 < next.rank.2)

def isTerminal (phase : Phase) : Bool :=
  phase == stopped

def label : Phase → String
  | created => "created"
  | started => "started"
  | masterRequested => "master_requested"
  | masterLaunched => "master_launched"
  | workersRequesting round => s!"workers_requesting(round {round})"
  | workersSatisfied => "workers_satisfied"
  | workersExhausted => "workers_exhausted"
  | running => "running"
  | shutdownRequested => "shutdown_requested"
  | stopped => "stopped"

theorem precedes_trans {a b c : Phase} (first : a.precedes b) (second : b.precedes c) :
    a.precedes c := by
  simp only [precedes, Bool.or_eq_true, Bool.and_eq_true, decide_eq_true_eq, beq_iff_eq]
    at first second ⊢
  omega

end Phase

end Muster
