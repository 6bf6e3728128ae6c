/-!
The two signals between what the cluster delivers and the sequence that brings the application up:
a latch, which opens once, and a round gate, which counts the requests of a round down.
-/

namespace Muster

structure Latch where
  isOpen : Bool := false
  deriving DecidableEq, Repr

/-- Opens the latch; answers whether it was closed. -/
def Latch.countDown (latch : Latch) : Bool × Latch :=
  (!latch.isOpen, ⟨true⟩)

structure RoundGate where
  outstanding : Nat := 0
  rounds : Nat := 0
  deriving DecidableEq, Repr

namespace RoundGate

def reset (gate : RoundGate) (requests : Nat) : Nat × RoundGate :=
  (gate.rounds, ⟨requests, gate.rounds + 1⟩)

/-- Records one answer. Answers beyond the requests of the round leave the count at zero. -/
def countDown (gate : RoundGate) : RoundGate :=
  { gate with outstanding := gate.outstanding - 1 }

/-- Whether no request is unanswered. This is what every waiting sequence waits for, whichever round
it began to wait in. -/
def isDrained (gate : RoundGate) : Bool :=
  gate.outstanding == 0

end RoundGate

end Muster
