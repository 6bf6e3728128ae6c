/-!
Dictionaries with text keys, kept in key order. The order is that of code points, and it is part of
the type: two dictionaries with the same content are equal, and listing one needs no sorting.
-/

namespace Muster

namespace Dict

def insertEntry {α : Type} (key : String) (value : α) : List (String × α) → List (String × α)
  | [] => [(key, value)]
  | entry :: rest =>
    if key < entry.1 then (key, value) :: entry :: rest
    else if key = entry.1 then (key, value) :: rest
    else entry :: insertEntry key value rest

theorem mem_insertEntry {α : Type} {key : String} {value : α} {entries : List (String × α)}
    {entry : String × α} (mem : entry ∈ insertEntry key value entries) :
    entry = (key, value) ∨ entry ∈ entries := by
  induction entries with
  | nil => simpa [insertEntry] using mem
  | cons head rest ih =>
    unfold insertEntry at mem
    split at mem
    · simpa using mem
    · split at mem
      · rcases List.mem_cons.1 mem with same | later
        · exact .inl same
        · exact .inr (List.mem_cons_of_mem _ later)
      · rcases List.mem_cons.1 mem with same | later
        · exact .inr (same ▸ List.mem_cons_self)
        · exact (ih later).imp_right (List.mem_cons_of_mem _)

theorem insertEntry_sorted {α : Type} (key : String) (value : α) {entries : List (String × α)}
    (sorted : entries.Pairwise fun a b => a.1 < b.1) :
    (insertEntry key value entries).Pairwise fun a b => a.1 < b.1 := by
  induction entries with
  | nil => simp [insertEntry]
  | cons head rest ih =>
    obtain ⟨above, tail⟩ := List.pairwise_cons.1 sorted
    unfold insertEntry
    split
    case isTrue less =>
      refine List.pairwise_cons.2 ⟨fun entry mem => ?_, sorted⟩
      rcases List.mem_cons.1 mem with rfl | later
      · exact less
      · exact String.lt_trans less (above entry later)
    case isFalse notLess =>
      split
      case isTrue same =>
        exact List.pairwise_cons.2 ⟨fun entry mem => same ▸ above entry mem, tail⟩
      case isFalse different =>
        refine List.pairwise_cons.2 ⟨fun entry mem => ?_, ih tail⟩
        rcases mem_insertEntry mem with rfl | later
        · exact Classical.byContradiction fun notGreater =>
            different (String.le_antisymm (String.not_lt.1 notGreater) (String.not_lt.1 notLess))
        · exact above entry later

end Dict

/-- A dictionary: entries with strictly increasing keys. -/
structure Dict (α : Type) where
  entries : List (String × α)
  sorted : entries.Pairwise fun a b => a.1 < b.1
  deriving DecidableEq

namespace Dict

variable {α : Type}

instance [Repr α] : Repr (Dict α) where
  reprPrec dict := reprPrec dict.entries

def empty : Dict α := ⟨[], .nil⟩

instance : EmptyCollection (Dict α) := ⟨empty⟩

def insert (dict : Dict α) (key : String) (value : α) : Dict α :=
  ⟨insertEntry key value dict.entries, insertEntry_sorted key value dict.sorted⟩

def get? (dict : Dict α) (key : String) : Option α :=
  (dict.entries.find? (·.1 == key)).map (·.2)

def contains (dict : Dict α) (key : String) : Bool :=
  (dict.get? key).isSome

def erase (dict : Dict α) (key : String) : Dict α :=
  ⟨dict.entries.filter (·.1 != key), dict.sorted.filter _⟩

def keys (dict : Dict α) : List String :=
  dict.entries.map (·.1)

/-- The dictionary of the bindings in `entries`; of several for one key the last counts. -/
def ofList (entries : List (String × α)) : Dict α :=
  entries.foldl (fun dict entry => dict.insert entry.1 entry.2) empty

theorem find?_insertEntry (key other : String) (value : α) (entries : List (String × α)) :
    (insertEntry key value entries).find? (·.1 == other) =
      if key = other then some (key, value) else entries.find? (·.1 == other) := by
  induction entries with
  | nil => by_cases same : key = other <;> simp [insertEntry, same]
  | cons head rest ih =>
    unfold insertEntry
    split
    · by_cases same : key = other <;> simp [List.find?_cons, same]
    · split
      case isTrue hit => by_cases same : key = other <;> simp_all
      case isFalse miss =>
        by_cases first : head.1 = other
        · simp [first, show key ≠ other from fun same => miss (same.trans first.symm)]
        · simp [first, ih]

theorem get?_insert (dict : Dict α) (key other : String) (value : α) :
    (dict.insert key value).get? other = if key = other then some value else dict.get? other := by
  by_cases same : key = other <;> simp [get?, insert, find?_insertEntry, same]

@[simp] theorem get?_empty (key : String) : (empty : Dict α).get? key = none := rfl

end Dict

end Muster
