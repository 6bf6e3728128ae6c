import Muster.Rounding
import Muster.Text.Blank

/-!
Sizes of memory as people write them: a decimal number and a binary unit, such as `512MB`, `1.5 gb`
or `1024`. Reading goes through a value of fifty-three significant binary digits, and so does
writing; below `2 ^ 53` bytes that step loses no whole byte.
-/

namespace Muster.Size

inductive ByteUnit
  | byte
  | kilo
  | mega
  | giga
  | tera
  | peta
  deriving DecidableEq, Repr

def ByteUnit.bytes : ByteUnit → Nat
  | .byte => 1
  | .kilo => 1024
  | .mega => 1048576
  | .giga => 1073741824
  | .tera => 1099511627776
  | .peta => 1125899906842624

/-- The unit written `name` in any mix of ASCII cases; a missing name means bytes. -/
def ByteUnit.ofName? (name : List Char) : Option ByteUnit :=
  match name.map Char.toUpper with
  | [] | ['B'] => some .byte
  | ['K'] | ['K', 'B'] => some .kilo
  | ['M'] | ['M', 'B'] => some .mega
  | ['G'] | ['G', 'B'] => some .giga
  | ['T'] | ['T', 'B'] => some .tera
  | ['P'] | ['P', 'B'] => some .peta
  | _ => none

/-- A decimal number: all its digits as one integer, and how many of them follow the point. -/
structure Decimal where
  digits : Nat
  places : Nat
  deriving DecidableEq, Repr

/-- Reads digits with at most one point among them and at least one digit. -/
def Decimal.ofChars? (cs : List Char) : Option Decimal :=
  let whole := cs.takeWhile Char.isDigit
  match cs.dropWhile Char.isDigit with
  | [] => if whole.isEmpty then none else some ⟨Nat.ofDigitChars 10 whole 0, 0⟩
  | '.' :: fraction =>
    let digits := whole ++ fraction
    if fraction.all Char.isDigit && !digits.isEmpty then
      some ⟨Nat.ofDigitChars 10 digits 0, fraction.length⟩
    else none
  | _ => none

def isNumeric (c : Char) : Bool :=
  c.isDigit || c == '.'

def limit : Nat := UInt64.size - 1

/-- The whole bytes in `number` of `unit`: the quantity is rounded to fifty-three significant
binary digits, its fraction is dropped, and what exceeds `limit` counts as `limit`. -/
def bytesOf (number : Decimal) (unit : ByteUnit) : Nat :=
  let scaled := (number.digits * unit.bytes) <<< Rounding.precision
  min limit (Rounding.significant scaled (Nat.pow 10 number.places) >>> Rounding.precision)

structure Invalid where
  text : String
  deriving DecidableEq, Repr

/-- Reads a number and a unit, with white space allowed around either; a text that is no size is
reported without the white space at its ends. -/
def parse (s : String) : Except Invalid Nat :=
  let text := Text.trimChars s.toList
  let number := Decimal.ofChars? (text.takeWhile isNumeric)
  let unit := ByteUnit.ofName? (Text.trimChars (text.dropWhile isNumeric))
  match number, unit with
  | some number, some unit => .ok (bytesOf number unit)
  | _, _ => .error ⟨String.ofList text⟩

def stepLimit : Nat := 5 * 1024

def twoPlaces (hundredths : Nat) : String :=
  let places := hundredths % 100
  s!"{hundredths / 100}.{places / 10}{places % 10}"

def steps : List (ByteUnit × String) :=
  [(.kilo, "KB"), (.mega, "MB"), (.giga, "GB"), (.tera, "TB")]

/-- The unit that a size of `value` bytes is written in, with its name: the first of which there
are at most `stepLimit`, and the largest unit when there is none. -/
def formatUnit (value : Nat) : ByteUnit × String :=
  (steps.find? fun step => value ≤ stepLimit * step.1.bytes).getD (.peta, "PB")

/-- Writes a size for the launched processes: up to `stepLimit` in bytes, above it with two decimal
places in the unit of `formatUnit`. -/
def format (bytes : Nat) : String :=
  if bytes ≤ stepLimit then s!"{bytes}B"
  else
    let value := Rounding.significant bytes 1
    let (unit, name) := formatUnit value
    twoPlaces (Rounding.nearest (100 * value) unit.bytes) ++ name

def megabyte : Nat := ByteUnit.mega.bytes

end Muster.Size
