/-!
JSON values, as records are exchanged in them, and the two ways that a record may be spelled: an
object with its fields by name, or an array with its fields in order.
-/

namespace Muster

/-- A JSON value. Integers are kept apart from the numbers written with a fraction or an exponent,
which no record holds and whose values are therefore not kept. -/
inductive Json
  | null
  | bool (value : Bool)
  | integer (value : Int)
  | real
  | string (text : String)
  | array (items : List Json)
  | object (members : List (String × Json))
  deriving Repr, Inhabited

namespace Json

def member? (members : List (String × Json)) (name : String) : Option Json :=
  (members.find? (·.1 == name)).map (·.2)

/-- The fields `names` of a record: an array of exactly that many values, or an object that has
them all. -/
def fields? (names : List String) : Json → Option (List Json)
  | array items => if items.length = names.length then some items else none
  | object members => names.mapM (member? members)
  | _ => none

/-- The fields `names` of a record that may leave some out: an array of at most that many values,
the missing ones last, or an object with some of them. -/
def settings? (names : List String) : Json → Option (List (Option Json))
  | array items =>
    if items.length ≤ names.length then
      some (items.map some ++ List.replicate (names.length - items.length) none)
    else none
  | object members => some (names.map (member? members))
  | _ => none

/-- The name of an alternative without content: the name as a text, or an object that binds the
name alone, to null. -/
def alternative? : Json → Option String
  | string name => some name
  | object [(name, null)] => some name
  | _ => none

def text? : Json → Option String
  | string text => some text
  | _ => none

def bool? : Json → Option Bool
  | bool value => some value
  | _ => none

def integerIn? (low high : Int) : Json → Option Int
  | integer value => if low ≤ value ∧ value ≤ high then some value else none
  | _ => none

def uint32? (json : Json) : Option UInt32 :=
  (integerIn? 0 (UInt32.size - 1) json).map fun value => .ofNat value.toNat

def uint64? (json : Json) : Option UInt64 :=
  (integerIn? 0 (UInt64.size - 1) json).map fun value => .ofNat value.toNat

def int32? (json : Json) : Option Int32 :=
  (integerIn? Int32.minValue.toInt Int32.maxValue.toInt json).map .ofInt

def list? {α : Type} (item? : Json → Option α) : Json → Option (List α)
  | array items => items.mapM item?
  | _ => none

end Json

end Muster
