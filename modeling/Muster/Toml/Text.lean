import Muster.Toml.Line

/-!
Reading the four kinds of TOML strings: basic ones with escapes and literal ones without, each on
one line or, in tripled quotes, on several.
-/

namespace Muster.Toml

def hexDigit? (c : Char) : Option Nat :=
  if c.isDigit then some (c.toNat - '0'.toNat)
  else if 'a' ≤ c ∧ c ≤ 'f' then some (c.toNat - 'a'.toNat + 10)
  else if 'A' ≤ c ∧ c ≤ 'F' then some (c.toNat - 'A'.toNat + 10)
  else none

/-- The character with a code point in hexadecimal; surrogates are not characters. -/
def hexChar? (digits : List Char) : Option Char := do
  let code ← digits.foldlM (fun code c => return 16 * code + (← hexDigit? c)) 0
  if code.isValidChar then some (Char.ofNat code) else none

def shortEscape? (c : Char) : Option Char :=
  match c with
  | 'b' => some '\x08'
  | 't' => some '\t'
  | 'n' => some '\n'
  | 'f' => some '\x0c'
  | 'r' => some '\r'
  | '"' => some '"'
  | '\\' => some '\\'
  | _ => none

def consRead (c : Char) (read : List Char × List Char) : List Char × List Char :=
  (c :: read.1, read.2)

def basic? : List Char → Option (List Char × List Char)
  | '"' :: rest => some ([], rest)
  | '\\' :: 'u' :: c₁ :: c₂ :: c₃ :: c₄ :: rest => do
    let c ← hexChar? [c₁, c₂, c₃, c₄]
    return consRead c (← basic? rest)
  | '\\' :: 'U' :: c₁ :: c₂ :: c₃ :: c₄ :: c₅ :: c₆ :: c₇ :: c₈ :: rest => do
    let c ← hexChar? [c₁, c₂, c₃, c₄, c₅, c₆, c₇, c₈]
    return consRead c (← basic? rest)
  | '\\' :: c :: rest => do
    let c ← shortEscape? c
    return consRead c (← basic? rest)
  | c :: rest => do
    guard (isPlain c)
    return consRead c (← basic? rest)
  | [] => none

def literal? : List Char → Option (List Char × List Char)
  | '\'' :: rest => some ([], rest)
  | c :: rest => do
    guard (isPlain c)
    return consRead c (← literal? rest)
  | [] => none

/-- Whether a line ends here, perhaps after blanks: what lets a backslash join two lines. -/
def endsLine (cs : List Char) : Bool :=
  match skipSpace cs with
  | '\n' :: _ => true
  | '\r' :: '\n' :: _ => true
  | _ => false

/-- The rest of a basic string in tripled quotes. One or two quotes are text; of a longer run the
last three close the string and at most two before them are text. A backslash at the end of a line
joins it to the next character that is not white space; `joining` says that one is being sought.
A line end is read as a line feed. -/
def multilineBasic? (joining : Bool) : List Char → Option (List Char × List Char)
  | '"' :: '"' :: '"' :: '"' :: '"' :: rest => some (['"', '"'], rest)
  | '"' :: '"' :: '"' :: '"' :: rest => some (['"'], rest)
  | '"' :: '"' :: '"' :: rest => some ([], rest)
  | '\\' :: 'u' :: c₁ :: c₂ :: c₃ :: c₄ :: rest => do
    let c ← hexChar? [c₁, c₂, c₃, c₄]
    return consRead c (← multilineBasic? false rest)
  | '\\' :: 'U' :: c₁ :: c₂ :: c₃ :: c₄ :: c₅ :: c₆ :: c₇ :: c₈ :: rest => do
    let c ← hexChar? [c₁, c₂, c₃, c₄, c₅, c₆, c₇, c₈]
    return consRead c (← multilineBasic? false rest)
  | '\\' :: c :: rest =>
    if endsLine (c :: rest) then multilineBasic? true (c :: rest)
    else do
      let c ← shortEscape? c
      return consRead c (← multilineBasic? false rest)
  | '\r' :: '\n' :: rest =>
    if joining then multilineBasic? true rest
    else (multilineBasic? false rest).map (consRead '\n')
  | c :: rest =>
    if joining && (isSpace c || c == '\n') then multilineBasic? true rest
    else do
      guard (isPlain c || c == '\n')
      return consRead c (← multilineBasic? false rest)
  | [] => none

def multilineLiteral? : List Char → Option (List Char × List Char)
  | '\'' :: '\'' :: '\'' :: '\'' :: '\'' :: rest => some (['\'', '\''], rest)
  | '\'' :: '\'' :: '\'' :: '\'' :: rest => some (['\''], rest)
  | '\'' :: '\'' :: '\'' :: rest => some ([], rest)
  | '\r' :: '\n' :: rest => (multilineLiteral? rest).map (consRead '\n')
  | c :: rest => do
    guard (isPlain c || c == '\n')
    return consRead c (← multilineLiteral? rest)
  | [] => none

def dropFirstLineEnd : List Char → List Char
  | '\n' :: rest => rest
  | '\r' :: '\n' :: rest => rest
  | cs => cs

def text? : List Char → Option (List Char × List Char)
  | '"' :: '"' :: '"' :: rest => multilineBasic? false (dropFirstLineEnd rest)
  | '"' :: rest => basic? rest
  | '\'' :: '\'' :: '\'' :: rest => multilineLiteral? (dropFirstLineEnd rest)
  | '\'' :: rest => literal? rest
  | _ => none

end Muster.Toml
