/-!
Recognising TOML dates and times: a date, a time of day, or both, with or without an offset. Only
dates of the calendar and times of the clock are recognised, a leap second included.
-/

namespace Muster.Toml

def twoDigits? (low high : Nat) : List Char → Option (Nat × List Char)
  | c₁ :: c₂ :: rest =>
    let value := Nat.ofDigitChars 10 [c₁, c₂] 0
    if c₁.isDigit && c₂.isDigit && low ≤ value && value ≤ high then some (value, rest) else none
  | _ => none

def expect? (c : Char) : List Char → Option (List Char)
  | head :: rest => if head = c then some rest else none
  | [] => none

def isLeapYear (year : Nat) : Bool :=
  year % 4 == 0 && (year % 100 != 0 || year % 400 == 0)

def daysInMonth (year month : Nat) : Nat :=
  if month = 2 then (if isLeapYear year then 29 else 28)
  else if month = 4 ∨ month = 6 ∨ month = 9 ∨ month = 11 then 30
  else 31

def date? (cs : List Char) : Option (List Char) := do
  let (century, rest) ← twoDigits? 0 99 cs
  let (year, rest) ← twoDigits? 0 99 rest
  let rest ← expect? '-' rest
  let (month, rest) ← twoDigits? 1 12 rest
  let rest ← expect? '-' rest
  let (_, rest) ← twoDigits? 1 (daysInMonth (100 * century + year) month) rest
  return rest

def hourMinute? (cs : List Char) : Option (List Char) := do
  let (_, rest) ← twoDigits? 0 23 cs
  let rest ← expect? ':' rest
  let (_, rest) ← twoDigits? 0 59 rest
  return rest

def time? (cs : List Char) : Option (List Char) := do
  let rest ← hourMinute? cs
  let rest ← expect? ':' rest
  let (_, rest) ← twoDigits? 0 60 rest
  match rest with
  | '.' :: c :: rest => if c.isDigit then return rest.dropWhile Char.isDigit else none
  | rest => return rest

/-- Skips the offset of a time from universal time, if there is one. -/
def skipOffset? : List Char → Option (List Char)
  | 'Z' :: rest | 'z' :: rest => some rest
  | '+' :: rest | '-' :: rest => hourMinute? rest
  | cs => some cs

/-- A date, perhaps with a time behind it, or a time. A date and a blank may also end a value, so
that what follows a blank need not be a time. -/
def moment? (cs : List Char) : Option (List Char) :=
  match date? cs with
  | some rest =>
    match rest with
    | 'T' :: rest | 't' :: rest => do skipOffset? (← time? rest)
    | ' ' :: afterBlank =>
      match time? afterBlank with
      | some rest => skipOffset? rest
      | none => some rest
    | rest => some rest
  | none => time? cs

end Muster.Toml
