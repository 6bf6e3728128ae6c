import Muster.Toml.Value

/-!
Reading TOML numbers: integers of sixty-four bits in four bases, and floating-point numbers, of
which only those that would round to positive infinity are refused.
-/

namespace Muster.Toml

/-- The digits that follow a digit, each perhaps after one underscore. -/
def moreDigits (isDigit : Char → Bool) : List Char → List Char × List Char
  | '_' :: c :: rest =>
    if isDigit c then
      let (digits, rest) := moreDigits isDigit rest
      (c :: digits, rest)
    else ([], '_' :: c :: rest)
  | c :: rest =>
    if isDigit c then
      let (digits, rest) := moreDigits isDigit rest
      (c :: digits, rest)
    else ([], c :: rest)
  | [] => ([], [])

def digits? (isDigit : Char → Bool) : List Char → Option (List Char × List Char)
  | c :: rest =>
    if isDigit c then
      let (digits, rest) := moreDigits isDigit rest
      some (c :: digits, rest)
    else none
  | [] => none

/-- The digits of a decimal integer, which has no leading zero. -/
def wholeDigits? : List Char → Option (List Char × List Char)
  | '0' :: rest => some (['0'], rest)
  | cs => digits? Char.isDigit cs

def sign : List Char → Bool × List Char
  | '-' :: rest => (true, rest)
  | '+' :: rest => (false, rest)
  | cs => (false, cs)

/-- The least magnitude that rounds to infinity: half a step above the largest finite number. -/
def overflowBound : Nat := Nat.pow 2 1024 - Nat.pow 2 970

def overflows (digits : List Char) (exponent : Int) : Bool :=
  let value := Nat.ofDigitChars 10 digits 0
  if value = 0 then false
  else if 0 ≤ exponent then 400 ≤ exponent || overflowBound ≤ value * Nat.pow 10 exponent.toNat
  else
    let places := (-exponent).toNat
    places < digits.length && overflowBound * Nat.pow 10 places ≤ value

def exponent? (cs : List Char) : Option (Int × List Char) := do
  let (minus, rest) := sign cs
  let (digits, rest) ← digits? Char.isDigit rest
  let value : Int := Nat.ofDigitChars 10 digits 0
  return (if minus then -value else value, rest)

/-- A floating-point number with this sign and these digits, as many of them after the point as
`places`, whose exponent may follow. One beyond the largest finite number is refused; one beyond the
least reads as minus infinity. -/
def floatTail? (minus : Bool) (digits : List Char) (places : Nat) :
    List Char → Option (Value × List Char)
  | 'e' :: rest | 'E' :: rest => do
    let (exponent, rest) ← exponent? rest
    guard (minus || !overflows digits (exponent - places))
    return (.float, rest)
  | rest => do
    guard (minus || !overflows digits (-places))
    return (.float, rest)

def integerIn64? (value : Int) : Option Value :=
  if Int64.minValue.toInt ≤ value ∧ value ≤ Int64.maxValue.toInt then some (.integer value)
  else none

def isHexDigit (c : Char) : Bool :=
  c.isDigit || ('a' ≤ c && c ≤ 'f') || ('A' ≤ c && c ≤ 'F')

def based? (base : Nat) (isDigit : Char → Bool) (cs : List Char) : Option (Value × List Char) := do
  let (digits, rest) ← digits? isDigit cs
  let value := digits.foldl (fun value c =>
    base * value + (if c.isDigit then c.toNat - '0'.toNat else c.toLower.toNat - 'a'.toNat + 10)) 0
  return (← integerIn64? value, rest)

def number? (cs : List Char) : Option (Value × List Char) :=
  match cs with
  | '0' :: 'x' :: rest => based? 16 isHexDigit rest
  | '0' :: 'o' :: rest => based? 8 (fun c => '0' ≤ c && c ≤ '7') rest
  | '0' :: 'b' :: rest => based? 2 (fun c => c == '0' || c == '1') rest
  | _ =>
    let (minus, unsigned) := sign cs
    match unsigned with
    | 'i' :: 'n' :: 'f' :: rest => some (.float, rest)
    | 'n' :: 'a' :: 'n' :: rest => some (.float, rest)
    | _ => do
      let (whole, rest) ← wholeDigits? unsigned
      match rest with
      | '.' :: rest => do
        let (fraction, rest) ← digits? Char.isDigit rest
        floatTail? minus (whole ++ fraction) fraction.length rest
      | 'e' :: _ | 'E' :: _ => floatTail? minus whole 0 rest
      | _ =>
        let value : Int := Nat.ofDigitChars 10 whole 0
        return (← integerIn64? (if minus then -value else value), rest)

end Muster.Toml
