import Descriptors.Descriptor.Document
import Descriptors.Row
import Descriptors.Text.Case

/-!
# Rows from descriptors

A descriptor of a component, a data format or the like holds groups under its top keys. A group of properties maps each
property to its metadata and gives a row for each property; a group of attributes is one metadata map and gives a row for
each key. The other groups are not looked at, and a group that is not there gives no rows.

The main configuration lists its properties in an array, each with a name in dash form and a host type. A row keeps the entry
as it is, without escapes, but for three keys: the name is looked up in camel case, the host type moves to its own key, and
the type is the logical one.
-/

namespace Descriptors

/-- What is made of some values, if none of them is nested too deep for a row. -/
def Row.ifShown {α : Type} (entries : Entries Json) (a : α) : Except DescriptorCause α :=
  match tooDeep? entries with
  | none => .ok a
  | some container => .error (.cellTooDeep container)

/-- How a group is taken apart. -/
inductive GroupForm where
  /-- A row for each property, with its name first and then its metadata. -/
  | properties
  /-- A row with one pair for each key. -/
  | attributes
  deriving DecidableEq

namespace Group

/-- The group of a component's own attributes. -/
def component : Text := "component"

/-- The group of properties that is read where no other is named. -/
def properties : Text := "properties"

/-- The row of a property: its key under `name`, then its metadata. A name among the metadata takes the first place. -/
def propertyRow (name : Text) (metadata : Entries Json) : Row :=
  (OrderedMap.empty.put Row.nameKey name).putAll (Row.ofMetadata metadata).entries

/-- A row for each pair of a metadata map. -/
def attributeRows (metadata : Entries Json) : List Row :=
  (Row.ofMetadata metadata).entries.map fun (k, v) => OrderedMap.empty.put k v

/-- The rows of a group that is there. -/
def rowsOf (form : GroupForm) (group : Json) : Except DescriptorCause (List Row) :=
  match form with
  | .properties => Document.asObjectOfObjects group >>= fun properties =>
      properties.mapM fun (k, metadata) => Row.ifShown metadata (propertyRow k metadata)
  | .attributes => Document.asObject group >>= fun metadata => Row.ifShown metadata (attributeRows metadata)

/-- The rows of a group of a document. -/
def rowsIn (group : Text) (form : GroupForm) (document : Entries Json) : Except DescriptorCause (List Row) :=
  match document.get? group with
  | none => .ok []
  | some v => rowsOf form v

/-- The rows of a group of a descriptor. -/
def rows (group : Text) (form : GroupForm) (t : Text) : Except DescriptorFault (List Row) :=
  match Document.read t >>= rowsIn group form with
  | .ok rows => .ok rows
  | .error cause => .error ⟨.group group, cause⟩

end Group

namespace MainConfiguration

/-- The key of the list of properties. -/
def propertiesKey : Text := "properties"

/-- The pairs of an entry as row values. -/
def entryCells (entry : Entries Json) : Entries Text := entry.map fun (k, v) => (k, v.toCell)

/-- A row with the host type in its own key and the logical type in place of it. -/
def withLogicalType (r : Row) : Row :=
  let hostType := r.get? Row.typeKey
  let r := match hostType with
    | some t => r.put Row.hostTypeKey t
    | none => r
  r.put Row.typeKey (LogicalType.ofHostType hostType).name

/-- The row of an entry with this name. -/
def entryRow (entry : Entries Json) (name : Json) : Row :=
  withLogicalType ((OrderedMap.ofPairs (entryCells entry)).put Row.nameKey name.toCell.camelCase)

/-- The name of an entry. It is there and not null. -/
def nameOf (entry : Entries Json) : Except DescriptorCause Json :=
  match entry.get? Row.nameKey with
  | none => .error .nameMissing
  | some .null => .error .nameNull
  | some name => .ok name

/-- The row of an entry. Its values are shown before its name is looked for. -/
def rowOf (entry : Entries Json) : Except DescriptorCause Row :=
  Row.ifShown entry () >>= fun _ => (nameOf entry).map (entryRow entry)

/-- The rows of the list of properties of a document; none where the document has no such list. -/
def rowsIn (document : Entries Json) : Except DescriptorCause (List Row) :=
  match document.get? propertiesKey with
  | none => .ok []
  | some v => Document.asArrayOfObjects v >>= fun entries => entries.mapM rowOf

/-- The rows of a main configuration. -/
def rows (t : Text) : Except DescriptorFault (List Row) :=
  match Document.read t >>= rowsIn with
  | .ok rows => .ok rows
  | .error cause => .error ⟨.mainConfiguration, cause⟩

end MainConfiguration

end Descriptors
