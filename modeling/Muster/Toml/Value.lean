/-!
TOML documents as values, and how a document grows: which headers and dotted keys may open which
tables, and which would define a table or a key a second time.
-/

namespace Muster.Toml

/-- How a table came to be, which decides what may still be added to it. -/
inductive Origin
  | header
  /-- A longer header names it, so that one header of its own may still follow. -/
  | implied
  /-- Dotted keys name it, and only dotted keys may add to it. -/
  | dotted
  | inline
  deriving DecidableEq, Repr

/-- A value of a document. Floating-point numbers, dates and times are read and checked; no setting
has such a value, so what they denote is not kept. -/
inductive Value
  | text (chars : String)
  | integer (value : Int)
  | float
  | boolean (value : Bool)
  | moment
  | array (items : List Value)
  | tables (elements : List (List (String × Value)))
  | table (origin : Origin) (entries : List (String × Value))
  deriving Repr

abbrev Entries := List (String × Value)

namespace Entries

def valueAt? (entries : Entries) (key : String) : Option Value :=
  (List.find? (·.1 == key) entries).map (·.2)

def put (entries : Entries) (key : String) (value : Value) : Entries :=
  if entries.any (·.1 == key) then
    entries.map fun entry => if entry.1 == key then (key, value) else entry
  else entries ++ [(key, value)]

end Entries

structure Table where
  origin : Origin
  entries : Entries

namespace Table

/-- Whether a path of keys may lead into a table of this origin. A dotted key adds only to tables
without a header; a header leads into any table but a complete one. -/
def opensTo (viaDots : Bool) : Origin → Bool
  | .header => !viaDots
  | .implied => true
  | .dotted => true
  | .inline => false

def changeLast (change : Entries → Option Entries) : List Entries → Option (List Entries)
  | [] => none
  | [element] => (change element).map ([·])
  | element :: rest => (changeLast change rest).map (element :: ·)

/-- Applies `change` to the table at the end of a path, and opens the tables on the way that are
missing. An array of tables stands for its last element. Fails where the path meets something that
it must not lead into. -/
def changeAt (viaDots : Bool) (change : Table → Option Table) : List String → Table → Option Table
  | [], table => change table
  | key :: path, table => do
    let child ←
      match table.entries.valueAt? key with
      | none => do
        let fresh ← changeAt viaDots change path ⟨if viaDots then .dotted else .implied, []⟩
        pure (.table fresh.origin fresh.entries)
      | some (.table origin entries) => do
        guard (opensTo viaDots origin)
        let changed ← changeAt viaDots change path ⟨origin, entries⟩
        pure (.table changed.origin changed.entries)
      | some (.tables elements) => do
        let changed ← changeLast
          (fun entries => (changeAt viaDots change path ⟨.header, entries⟩).map (·.entries)) elements
        pure (.tables changed)
      | some _ => none
    return { table with entries := table.entries.put key child }

/-- Adds a key that the table does not have yet. Tables opened by dots take only dotted keys, and
the others only plain ones. -/
def add (viaDots : Bool) (key : String) (value : Value) (table : Table) : Option Table := do
  guard ((table.origin == .dotted) == viaDots)
  guard (table.entries.valueAt? key).isNone
  return { table with entries := table.entries.put key value }

def addAt (path : List String) (key : String) (value : Value) (table : Table) : Option Table :=
  table.changeAt true (add (!path.isEmpty) key value) path

def open? (key : String) (table : Table) : Option Table :=
  match table.entries.valueAt? key with
  | none => some { table with entries := table.entries.put key (.table .header []) }
  | some (.table .implied entries) =>
    some { table with entries := table.entries.put key (.table .header entries) }
  | some _ => none

def openElement? (key : String) (table : Table) : Option Table :=
  match table.entries.valueAt? key with
  | none => some { table with entries := table.entries.put key (.tables [[]]) }
  | some (.tables elements) =>
    some { table with entries := table.entries.put key (.tables (elements ++ [[]])) }
  | some _ => none

end Table

/-- A document while it is read: all tables so far, and the path of the one that the plain lines
add to. -/
structure Document where
  root : Table := ⟨.header, []⟩
  path : List String := []

namespace Document

/-- Adds a line `path.key = value` to the current table. -/
def add (document : Document) (path : List String) (key : String) (value : Value) :
    Option Document := do
  let root ← document.root.changeAt false (Table.addAt path key value) document.path
  return { document with root }

def open? (document : Document) (path : List String) (key : String) : Option Document := do
  let root ← document.root.changeAt false (Table.open? key) path
  return ⟨root, path ++ [key]⟩

def openElement? (document : Document) (path : List String) (key : String) : Option Document := do
  let root ← document.root.changeAt false (Table.openElement? key) path
  return ⟨root, path ++ [key]⟩

end Document

end Muster.Toml
