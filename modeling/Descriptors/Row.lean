import Descriptors.Json.Reader
import Descriptors.Json.Writer
import Descriptors.Text

/-!
# Rows

A descriptor is taken apart into rows, and a property has a logical type in its row.
-/

/-! ## Rows and row values

A row maps keys to texts, in the order of the descriptor. Each JSON value has a text as a row value (`Json.toCell`), chosen so that
booleans and numbers can be compared with their JSON spelling. The text of an array takes calls inside each other for the arrays in
it, more of them than reading it takes: arrays may be read that are nested too deep for a row value (`Json.tooDeep?`).
-/

namespace Descriptors

/-- A row: a map from keys to texts in the order of the descriptor. -/
abbrev Row : Type := OrderedMap Text

namespace Json

mutual

/-- A value as a row value: a string as it is, a boolean or a number by its JSON text, null as nothing, the items of an array with
commas between them, an object as compact JSON. -/
def toCell : Json → Text
  | .string t => t
  | .bool b => write (.bool b)
  | .int n => write (.int n)
  | .float x => write (.float x)
  | .null => []
  | .array items => Text.joinWith [CodePoint.comma] (itemCells items)
  | .object entries => write (.object entries)

/-- The row values of the items of an array. -/
def itemCells : List Json → List Text
  | [] => []
  | v :: items => toCell v :: itemCells items

end

/-- The calls inside each other that the row value of an array takes for each level of arrays. -/
def callsPerArray : Nat := 3

mutual

/-- What is nested too deep in a value for a row value where there is room for this many calls: the arrays, or an object in them,
which takes one call for each of its levels. -/
def tooDeepFor? : Nat → Json → Option Container
  | room, .array items => if room < callsPerArray then some .array else itemTooDeepFor? (room - callsPerArray) items
  | room, .object entries => if room < nesting (.object entries) then some .object else none
  | _, _ => none

/-- `tooDeepFor?` for the first item of a list that has something too deep in it. -/
def itemTooDeepFor? : Nat → List Json → Option Container
  | _, [] => none
  | room, v :: items => (tooDeepFor? room v).or (itemTooDeepFor? room items)

end

/-- What is nested too deep in a value for a row value, if anything is: there is room for as many calls as levels are read. -/
def tooDeep? (v : Json) : Option Container := tooDeepFor? greatestDepth v

end Json

namespace Row

/-! ### The keys that rows are asked for -/

def nameKey : Text := "name"
def typeKey : Text := "type"
def hostTypeKey : Text := "javaType"
def kindKey : Text := "kind"
def labelKey : Text := "label"
def enumKey : Text := "enum"
def prefixKey : Text := "prefix"
def optionalPrefixKey : Text := "optionalPrefix"
def defaultValueKey : Text := "defaultValue"
def descriptionKey : Text := "description"
def requiredKey : Text := "required"
def deprecatedKey : Text := "deprecated"
def multiValueKey : Text := "multiValue"
def lenientPropertiesKey : Text := "lenientProperties"
def consumerOnlyKey : Text := "consumerOnly"
def producerOnlyKey : Text := "producerOnly"

/-- The name in a row. -/
def name? (r : Row) : Option Text := r.get? nameKey

/-- What is nested too deep in the first of some values that has no row value. -/
def tooDeep? (entries : Entries Json) : Option Json.Container := entries.findSome? fun e => e.2.tooDeep?

/-- The pairs of a row for the metadata of a group: each value with written controls escaped. -/
def metadataCells (metadata : Entries Json) : Entries Text := metadata.map fun (k, v) => (k, v.toCell.escapeControls)

/-- The row of a metadata map. -/
def ofMetadata (metadata : Entries Json) : Row := OrderedMap.ofPairs (metadataCells metadata)

/-- A row on one line, its keys in order. -/
def toLine (r : Row) : Text := Json.write (.object (r.entries.map fun (k, v) => (k, .string v)))

/-- Rows one on a line, each line with its end. -/
def toLines (rows : List Row) : Text := rows.flatMap fun r => r.toLine ++ [CodePoint.lineFeed]

end Row

end Descriptors

/-! ## Logical types

A property has one of six logical types. The main configuration names host types instead; those of scalars have a logical type
of their own and every other host type is an object.
-/

namespace Descriptors

/-- The types by which property values are interpreted. -/
inductive LogicalType where
  | boolean
  | integer
  | number
  | string
  | array
  | object
  deriving DecidableEq

namespace LogicalType

/-- The type, as rows hold it. -/
def name : LogicalType → Text
  | boolean => "boolean"
  | integer => "integer"
  | number => "number"
  | string => "string"
  | array => "array"
  | object => "object"

/-- The host types of scalars. -/
def scalarHostTypes : List (Text × LogicalType) :=
  [("boolean", boolean), ("java.lang.Boolean", boolean), ("int", integer), ("java.lang.Integer", integer), ("long", integer),
    ("java.lang.Long", integer), ("float", number), ("java.lang.Float", number), ("double", number),
    ("java.lang.Double", number), ("string", string), ("java.lang.String", string)]

/-- The logical type of a host type: an object where it is unknown or not given. Host types are compared as they are. -/
def ofHostType (hostType : Option Text) : LogicalType := (hostType.bind fun t => scalarHostTypes.lookup t).getD object

end LogicalType

end Descriptors
