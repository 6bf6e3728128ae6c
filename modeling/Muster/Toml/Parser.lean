import Muster.Toml.Moment
import Muster.Toml.Number
import Muster.Toml.Text

/-!
Reading a TOML document. A document nests arrays and inline tables, and dots its keys, to less than
eighty levels; anything deeper is refused like a document that is not TOML.
-/

namespace Muster.Toml

/-- The most keys in one dotted key, and the most arrays and inline tables within one another. -/
def maxDepth : Nat := 79

def isBareKeyChar (c : Char) : Bool :=
  c.isAlphanum || c == '-' || c == '_'

def simpleKey? (cs : List Char) : Option (String × List Char) :=
  match cs with
  | '"' :: rest => (basic? rest).map fun (key, rest) => (String.ofList key, rest)
  | '\'' :: rest => (literal? rest).map fun (key, rest) => (String.ofList key, rest)
  | _ =>
    match cs.takeWhile isBareKeyChar with
    | [] => none
    | key => some (String.ofList key, cs.dropWhile isBareKeyChar)

/-- A key of at most `limit` parts, with the blanks around it: the parts before the last dot, and
the last part. -/
def key? : (limit : Nat) → List Char → Option ((List String × String) × List Char)
  | 0, _ => none
  | limit + 1, cs => do
    let (key, rest) ← simpleKey? (skipSpace cs)
    match skipSpace rest with
    | '.' :: rest =>
      let ((path, last), rest) ← key? limit rest
      return ((key :: path, last), rest)
    | rest => return (([], key), rest)

def scalar? (cs : List Char) : Option (Value × List Char) :=
  match cs with
  | '"' :: _ | '\'' :: _ => (text? cs).map fun (chars, rest) => (.text (String.ofList chars), rest)
  | 't' :: 'r' :: 'u' :: 'e' :: rest => some (.boolean true, rest)
  | 'f' :: 'a' :: 'l' :: 's' :: 'e' :: rest => some (.boolean false, rest)
  | _ =>
    match moment? cs with
    | some rest => some (.moment, rest)
    | none => number? cs

def arrayItems? (value? : List Char → Option (Value × List Char)) :
    (fuel : Nat) → List Char → Option (List Value × List Char)
  | 0, _ => none
  | fuel + 1, cs =>
    match skipFiller false cs with
    | ']' :: rest => some ([], rest)
    | cs => do
      let (item, rest) ← value? cs
      match skipFiller false rest with
      | ',' :: rest =>
        let (items, rest) ← arrayItems? value? fuel rest
        return (item :: items, rest)
      | ']' :: rest => return ([item], rest)
      | _ => none

def keyValue? (value? : List Char → Option (Value × List Char)) (cs : List Char) :
    Option (((List String × String) × Value) × List Char) := do
  let (key, rest) ← key? maxDepth cs
  match rest with
  | '=' :: rest =>
    let (value, rest) ← value? (skipSpace rest)
    return ((key, value), rest)
  | _ => none

def inlineEntries? (value? : List Char → Option (Value × List Char)) :
    (fuel : Nat) → Table → List Char → Option (Table × List Char)
  | 0, _, _ => none
  | fuel + 1, table, cs => do
    let (((path, key), value), rest) ← keyValue? value? cs
    let table ← table.addAt path key value
    match skipSpace rest with
    | ',' :: rest => inlineEntries? value? fuel table rest
    | '\x7d' :: rest => return (table, rest)
    | _ => none

/-- A value with at most `depth` arrays and inline tables around any part of it. -/
def value? : (depth : Nat) → List Char → Option (Value × List Char)
  | 0, cs => scalar? cs
  | depth + 1, cs =>
    match cs with
    | '[' :: rest => do
      let (items, rest) ← arrayItems? (value? depth) rest.length.succ rest
      return (.array items, rest)
    | '\x7b' :: rest =>
      match skipSpace rest with
      | '\x7d' :: rest => some (.table .inline [], rest)
      | cs => do
        let (table, rest) ← inlineEntries? (value? depth) cs.length ⟨.inline, []⟩ cs
        return (.table .inline table.entries, rest)
    | cs => scalar? cs

def line? (document : Document) (cs : List Char) : Option (Document × List Char) := do
  match cs with
  | '[' :: '[' :: rest =>
    let ((path, key), rest) ← key? maxDepth rest
    match rest with
    | ']' :: ']' :: rest => return (← document.openElement? path key, ← endLine? rest)
    | _ => none
  | '[' :: rest =>
    let ((path, key), rest) ← key? maxDepth rest
    match rest with
    | ']' :: rest => return (← document.open? path key, ← endLine? rest)
    | _ => none
  | cs =>
    let (((path, key), value), rest) ← keyValue? (value? maxDepth) cs
    return (← document.add path key value, ← endLine? rest)

/-- The lines of a document. Each takes at least one character, so that `fuel` above their number
suffices. -/
def lines? : (fuel : Nat) → Document → List Char → Option Document
  | 0, _, _ => none
  | fuel + 1, document, cs =>
    match skipSpace cs with
    | [] => some document
    | '\n' :: rest => lines? fuel document rest
    | '\r' :: '\n' :: rest => lines? fuel document rest
    | '#' :: rest => do
      let rest ← lineEnd? (skipComment ('#' :: rest))
      lines? fuel document rest
    | cs => do
      let (document, rest) ← line? document cs
      lines? fuel document rest

/-- A byte order mark in front of a document is not part of it. -/
def dropByteOrderMark : List Char → List Char
  | '\uFEFF' :: rest => rest
  | cs => cs

def parse? (document : String) : Option Entries := do
  let cs := dropByteOrderMark document.toList
  let document ← lines? cs.length.succ {} cs
  return document.root.entries

end Muster.Toml
