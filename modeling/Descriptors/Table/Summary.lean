import Descriptors.Table.Lookup

/-!
# Summaries of properties and components

A summary gathers what a table says about one property, or about the component itself. The parts of a property's summary are
the answers of the lookups of `Table` for the resolved name, and all come from the row that has it.
-/

namespace Descriptors

/-- What a table says about a property. -/
structure PropertySummary where
  name : Text
  type : Option Text
  hostType : Option Text
  kind : Option Text
  defaultValue : Option Text
  /-- The values the property may have; none where it may have any. -/
  enum : List Text
  /-- What option names of a property with several values start with. -/
  ownPrefix : Option Text
  required : Bool
  deprecated : Bool
  multiValue : Bool
  consumerOnly : Bool
  producerOnly : Bool
  description : Option Text
  label : Option Text
  deriving DecidableEq

/-- What a table says about the component itself. -/
structure ComponentSummary where
  lenientProperties : Bool
  consumerOnly : Bool
  producerOnly : Bool
  /-- The pairs of all rows, of each key the first. -/
  attributes : OrderedMap Text

/-- The values that a cell lists between commas; none where it is empty. -/
def enumValues (cell : Option Text) : List Text :=
  match cell with
  | none => []
  | some [] => []
  | some t => t.splitAt CodePoint.comma

namespace Table

/-- The summary of the property that an option name stands for. -/
def describe? (rows : Table) (name : Text) : Option PropertySummary := do
  let resolved ← rows.resolve? name
  let row ← rows.property? resolved
  let rowName ← row.name?
  return {
    name := rowName
    type := row.get? Row.typeKey
    hostType := rows.hostType? resolved
    kind := rows.kind? resolved
    defaultValue := rows.defaultValue? resolved
    enum := enumValues (rows.enum? resolved)
    ownPrefix := rows.ownPrefix? resolved
    required := rows.isRequired resolved
    deprecated := rows.isDeprecated resolved
    multiValue := rows.isMultiValue resolved
    consumerOnly := rows.isConsumerOnly resolved
    producerOnly := rows.isProducerOnly resolved
    description := row.get? Row.descriptionKey
    label := row.get? Row.labelKey }

/-- The summaries of all names, in the order of their first rows. -/
def describeAll (rows : Table) : List PropertySummary := rows.names.filterMap rows.describe?

/-- The pairs of all rows, of each key the first, in the order of their first rows. -/
def attributes (rows : Table) : OrderedMap Text :=
  rows.foldl (fun m r => r.entries.foldl (fun m e => m.putNew e.1 e.2) m) OrderedMap.empty

/-- The summary of a component, from the rows of its attributes. -/
def describeComponent (rows : Table) : ComponentSummary where
  lenientProperties := rows.isLenient
  consumerOnly := rows.isConsumerComponent
  producerOnly := rows.isProducerComponent
  attributes := rows.attributes

end Table

/-! ## Summaries as JSON -/

/-- A text, or null where there is none. -/
def Json.ofText? : Option Text → Json
  | some t => .string t
  | none => .null

/-- The summary of a property as a JSON object. -/
def PropertySummary.toJson (s : PropertySummary) : Json :=
  .object [
    ("name", .string s.name), ("type", .ofText? s.type), ("java_type", .ofText? s.hostType), ("kind", .ofText? s.kind),
    ("default_value", .ofText? s.defaultValue), ("enum", .array (s.enum.map .string)), ("prefix", .ofText? s.ownPrefix),
    ("required", .bool s.required), ("deprecated", .bool s.deprecated), ("multi_value", .bool s.multiValue),
    ("consumer_only", .bool s.consumerOnly), ("producer_only", .bool s.producerOnly),
    ("description", .ofText? s.description), ("label", .ofText? s.label)]

/-- The summary of a component as a JSON object. -/
def ComponentSummary.toJson (s : ComponentSummary) : Json :=
  .object [
    ("lenient_properties", .bool s.lenientProperties), ("consumer_only", .bool s.consumerOnly),
    ("producer_only", .bool s.producerOnly),
    ("attributes", .object (s.attributes.entries.map fun (k, v) => (k, .string v)))]

end Descriptors
