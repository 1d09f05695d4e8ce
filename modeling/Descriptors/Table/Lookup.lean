import Descriptors.Row
import Descriptors.Text.Case

/-!
# Properties in a table of rows

A table is the list of rows of a descriptor. A property of it is asked for by its name, or by the name of an option that leads to
it.
-/

/-! ## Lookup by name

A property is found by its name in any letter case, the first row counts, and rows without a name are passed over. What is asked
of a property that is not there has the neutral answer: no, or nothing.
-/

namespace Descriptors

/-- The rows of a descriptor, in order. -/
abbrev Table : Type := List Row

/-- Whether a row has this name in small letters. -/
def Row.isNamed (r : Row) (small : Text) : Bool :=
  match r.name? with
  | some name => name.lower == small
  | none => false

/-- Whether a cell holds the word for yes. -/
def isYes (cell : Option Text) : Bool := cell == some (Text.ofString "true")

namespace Table

/-! ### By name -/

/-- The first row with this name in any letter case. -/
def property? (rows : Table) (name : Text) : Option Row :=
  let small := name.lower
  rows.find? (·.isNamed small)

/-- The first row with exactly this name. -/
def row? (rows : Table) (name : Text) : Option Row := rows.find? fun r => r.name? == some name

/-- The names of the rows, each once, in the order of their first rows. -/
def names (rows : Table) : List Text :=
  (OrderedMap.ofPairs (rows.filterMap fun r => r.name?.map fun name => (name, ()))).keys

/-! ### Attributes of a property -/

/-- The value of a property under a key. -/
def attribute? (rows : Table) (name key : Text) : Option Text := (rows.property? name).bind (·.get? key)

def kind? (rows : Table) (name : Text) : Option Text := rows.attribute? name Row.kindKey
def hostType? (rows : Table) (name : Text) : Option Text := rows.attribute? name Row.hostTypeKey
def defaultValue? (rows : Table) (name : Text) : Option Text := rows.attribute? name Row.defaultValueKey
def enum? (rows : Table) (name : Text) : Option Text := rows.attribute? name Row.enumKey
def ownPrefix? (rows : Table) (name : Text) : Option Text := rows.attribute? name Row.prefixKey

def isRequired (rows : Table) (name : Text) : Bool := isYes (rows.attribute? name Row.requiredKey)
def isDeprecated (rows : Table) (name : Text) : Bool := isYes (rows.attribute? name Row.deprecatedKey)
def isMultiValue (rows : Table) (name : Text) : Bool := isYes (rows.attribute? name Row.multiValueKey)

/-- Whether a property has a logical type. -/
def hasType (rows : Table) (name : Text) (type : LogicalType) : Bool :=
  rows.attribute? name Row.typeKey == some type.name

/-- Whether the label of a property holds a word, anywhere in it. -/
def hasLabel (rows : Table) (name word : Text) : Bool :=
  match rows.attribute? name Row.labelKey with
  | some label => word.isInside label
  | none => false

def isConsumerOnly (rows : Table) (name : Text) : Bool := rows.hasLabel name "consumer"
def isProducerOnly (rows : Table) (name : Text) : Bool := rows.hasLabel name "producer"

/-! ### Attributes of a component -/

/-- Whether the first row that has a key at all says yes under it. -/
def hasFlag (rows : Table) (key : Text) : Bool := isYes (rows.findSome? (·.get? key))

def isLenient (rows : Table) : Bool := rows.hasFlag Row.lenientPropertiesKey
def isConsumerComponent (rows : Table) : Bool := rows.hasFlag Row.consumerOnlyKey
def isProducerComponent (rows : Table) : Bool := rows.hasFlag Row.producerOnlyKey

end Table

end Descriptors

/-! ## From option names to property names

An option may be given under more than its declared name. A row may have an optional prefix, which may stand in front of the
name of any property, more than once and together with others. A row with several values has a prefix of its own: an option
that starts with it belongs to that row.
-/

namespace Descriptors.Table

/-- What one scan makes of a name: the rest of it after the first optional prefix that applies. The scan passes over rows
without a name and stops at a row with this name in any letter case. -/
def stripOnce? (rows : Table) (name : Text) : Option Text :=
  match rows with
  | [] => none
  | r :: rows =>
    match r.name? with
    | none => stripOnce? rows name
    | some rowName =>
      match (r.get? Row.optionalPrefixKey).bind (·.isPrefixOf? name) with
      | some rest => some rest
      | none => if rowName.lower = name.lower then none else stripOnce? rows name

/-- The greatest number of prefixes that are taken off one name. -/
def greatestStrips : Nat := 64

/-- Takes prefixes off a name until none applies, a name in `seen` comes back, or the given number is reached. -/
def stripFrom (rows : Table) : Nat → List Text → Text → Text
  | 0, _, name => name
  | strips + 1, seen, name =>
    match stripOnce? rows name with
    | none => name
    | some rest => if rest ∈ seen then name else stripFrom rows strips (rest :: seen) rest

/-- A name without its optional prefixes. -/
def stripPrefixes (rows : Table) (name : Text) : Text := stripFrom rows greatestStrips [name] name

/-- The row whose own prefix a name starts with, the first one: its name, if it has one. -/
def nameByPrefix? (rows : Table) (name : Text) : Option Text :=
  (rows.find? fun r => ((r.get? Row.prefixKey).any (·.isPrefixOf name))).bind (·.name?)

/-- The property that an option stands for: the name as it is given, else without its optional prefixes, else by the prefix of a
row with several values. -/
def resolve? (rows : Table) (name : Text) : Option Text :=
  if (rows.property? name).isSome then some name
  else
    let stripped := rows.stripPrefixes name
    if (rows.property? stripped).isSome then some stripped else rows.nameByPrefix? stripped

end Descriptors.Table
