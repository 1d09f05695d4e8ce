import Descriptors.OrderedMap

/-!
# JSON values

What a descriptor is read into. Integers are of any size and floats are of double precision. The pairs of an object stand in
the order of the text; in what the reader gives, no key of an object comes twice, at any depth (`Json.KeysDistinct`), and values are
not nested too deep (`Json.nesting`).
-/

namespace Descriptors

/-- A JSON value. -/
inductive Json where
  | null
  | bool (b : Bool)
  | int (n : Int)
  | float (x : Float)
  | string (t : Text)
  | array (items : List Json)
  | object (entries : List (Text × Json))

namespace Json

mutual

/-- No key of an object comes twice, at any depth. -/
def KeysDistinct : Json → Prop
  | .array items => ItemsDistinct items
  | .object entries => (Entries.keys entries).Nodup ∧ EntriesDistinct entries
  | _ => True

/-- `KeysDistinct` for each item of a list. -/
def ItemsDistinct : List Json → Prop
  | [] => True
  | v :: items => KeysDistinct v ∧ ItemsDistinct items

/-- `KeysDistinct` for the value of each pair. -/
def EntriesDistinct : List (Text × Json) → Prop
  | [] => True
  | (_, v) :: entries => KeysDistinct v ∧ EntriesDistinct entries

end

mutual

/-- How deep a value is nested: a scalar is not. -/
def nesting : Json → Nat
  | .array items => itemsNesting items + 1
  | .object entries => entriesNesting entries + 1
  | _ => 0

/-- How deep the items of a list are nested at most. -/
def itemsNesting : List Json → Nat
  | [] => 0
  | v :: items => max (nesting v) (itemsNesting items)

/-- How deep the values of pairs are nested at most. -/
def entriesNesting : List (Text × Json) → Nat
  | [] => 0
  | (_, v) :: entries => max (nesting v) (entriesNesting entries)

end

/-- The sort of a value, as messages name it. -/
def sortName : Json → Text
  | .null => "NoneType"
  | .bool _ => "bool"
  | .int _ => "int"
  | .float _ => "float"
  | .string _ => "str"
  | .array _ => "list"
  | .object _ => "dict"

end Json

end Descriptors
