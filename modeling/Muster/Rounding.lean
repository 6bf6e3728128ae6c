/-!
Rounding to the nearest value with a tie to the even neighbour, of a quotient to an integer and of
a quantity to fifty-three significant binary digits.
-/

namespace Muster.Rounding

/-- The integer nearest to `num / den`; a tie goes to the even neighbour. -/
def nearest (num den : Nat) : Nat :=
  let low := num / den
  let twice := 2 * (num % den)
  if twice < den then low
  else if twice = den then low + low % 2
  else low + 1

def precision : Nat := 53

/-- The nearest to `num / den` of the integers that have at most `precision` significant binary
digits: below `2 ^ precision` all of them, above it the multiples of a power of two. -/
def significant (num den : Nat) : Nat :=
  let dropped := Nat.log2 (num / den) + 1 - precision
  nearest num (den <<< dropped) <<< dropped

end Muster.Rounding
