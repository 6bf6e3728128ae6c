/-!
Writing TOML strings. A string is written in the first style that shows it as it is; one that none
of them can show is escaped.
-/

namespace Muster.Toml

inductive Style
  | basic
  | literal
  | multilineBasic
  | multilineLiteral
  deriving DecidableEq, Repr

def isControl (c : Char) : Bool :=
  (c.toNat < 0x20 || c == '\x7f') && c != '\t' && c != '\n'

/-- The length of the longest run of `c`; `current` is the length of the run that ends here. -/
def longestRun (c : Char) (current : Nat) : List Char → Nat
  | [] => current
  | head :: rest =>
    if head = c then longestRun c (current + 1) rest
    else max current (longestRun c 0 rest)

def Style.choose (cs : List Char) : Style :=
  let controls := cs.any isControl
  let lines := cs.contains '\n'
  if !controls && !cs.contains '\\' && !cs.contains '"' && !lines then .basic
  else if !controls && !cs.contains '\'' && !lines then .literal
  else if !controls && !cs.contains '\\' && longestRun '"' 0 cs ≤ 2 then .multilineBasic
  else if !controls && longestRun '\'' 0 cs ≤ 2 then .multilineLiteral
  else if lines then .multilineBasic
  else .basic

def escape (c : Char) : List Char :=
  match c with
  | '\t' => ['\\', 't']
  | '\x08' => ['\\', 'b']
  | '\x0c' => ['\\', 'f']
  | '\r' => ['\\', 'r']
  | '\\' => ['\\', '\\']
  | c =>
    if isControl c then
      ['\\', 'u', '0', '0', (Nat.digitChar (c.toNat / 16)).toUpper,
        (Nat.digitChar (c.toNat % 16)).toUpper]
    else [c]

def escapeLine (cs : List Char) : List Char :=
  cs.flatMap fun c =>
    match c with
    | '"' => ['\\', '"']
    | '\n' => ['\\', 'n']
    | c => escape c

/-- The characters of a basic string in tripled quotes. Line feeds stand for themselves, and so do
quotes up to the third of a run, which is escaped and ends the run; `run` counts it. -/
def escapeLines (run : Nat) : List Char → List Char
  | [] => []
  | '"' :: rest =>
    if run = 2 then '\\' :: '"' :: escapeLines 0 rest else '"' :: escapeLines (run + 1) rest
  | '\n' :: rest => '\n' :: escapeLines 0 rest
  | c :: rest => escape c ++ escapeLines 0 rest

/-- The line feed that opens a string in tripled quotes when the string has lines. -/
def openingLine (cs : List Char) : List Char :=
  if cs.contains '\n' then ['\n'] else []

def Style.write (style : Style) (cs : List Char) : List Char :=
  match style with
  | .basic => ['"'] ++ escapeLine cs ++ ['"']
  | .literal => ['\''] ++ cs ++ ['\'']
  | .multilineBasic => ['"', '"', '"'] ++ openingLine cs ++ escapeLines 0 cs ++ ['"', '"', '"']
  | .multilineLiteral => ['\'', '\'', '\''] ++ openingLine cs ++ cs ++ ['\'', '\'', '\'']

def writeText (text : String) : String :=
  String.ofList ((Style.choose text.toList).write text.toList)

end Muster.Toml
