import Descriptors.Json.Reader
import Descriptors.Json.Writer

/-!
# The form of a document, and why a descriptor has no rows

A descriptor is an object, and the part of it that rows are taken from is an object, an object of objects or an array of
objects. Each check gives the pairs inside, or every place that has another form, in the order of the document.

Rows are taken from a descriptor all or none. The cause of a failure is the text (it is not JSON), the form of the document
or of the part that is asked for (listed place by place), a value that is nested too deep for a row, or, in the main configuration,
an entry without a usable name.
-/

namespace Descriptors

/-! ## Mismatches -/

/-- What is asked of a part of a document. -/
inductive Shape where
  /-- An object. -/
  | object
  /-- An object whose values are objects. -/
  | objectOfObjects
  /-- An array whose items are objects. -/
  | arrayOfObjects
  deriving DecidableEq

/-- The shape, as messages give it. -/
def Shape.name : Shape → Text
  | object => "dict[str,any]"
  | objectOfObjects => "dict[str,dict[str,any]]"
  | arrayOfObjects => "list[dict[str,any]]"

/-- A place inside a part of a document: the part itself, the value under a key of it, or an item of it. -/
inductive PartPlace where
  | whole
  | key (k : Text)
  | index (i : Nat)
  deriving DecidableEq

/-- A key, as the place of a mismatch has it: each surrogate is replaced by three replacement characters, one for each byte that it
would take. -/
def PartPlace.shownKey (k : Text) : Text := k.flatMap fun c => if c.isSurrogate then [0xFFFD, 0xFFFD, 0xFFFD] else [c]

/-- The place on a line of its own, as messages give it. The part itself has no such line, and a key that could be taken for several
ones stands between marks. -/
def PartPlace.line : PartPlace → Text
  | whole => []
  | key k => (if k.contains CodePoint.dot then CodePoint.grave :: k ++ [CodePoint.grave] else k) ++ [CodePoint.lineFeed]
  | index i => Text.ofNat i ++ [CodePoint.lineFeed]

/-- A place where the value has another shape: what should be there is an object or an array. What is there is told by its form in
messages and its sort. -/
structure Mismatch where
  place : PartPlace
  expected : Json.Container
  shown : Text
  sort : Text
  deriving DecidableEq

namespace Mismatch

/-- The mismatch of a value at a place. -/
def of (place : PartPlace) (expected : Json.Container) (v : Json) : Mismatch :=
  ⟨place, expected, v.shown.abridged, v.sortName⟩

/-- The name of a mismatch. -/
def name (m : Mismatch) : Text :=
  match m.expected with
  | .object => "dict_type"
  | .array => "list_type"

/-- What is said of a mismatch. -/
def reason (m : Mismatch) : Text :=
  match m.expected with
  | .object => "Input should be a valid dictionary"
  | .array => "Input should be a valid list"

/-- The mismatch in a list of them, with the address of more about it where messages refer to one. -/
def message (reference? : Option Text) (m : Mismatch) : Text :=
  let reference : Text := match reference? with
    | none => []
    | some address => CodePoint.lineFeed :: Text.ofString "    For further information visit " ++ address ++ m.name
  m.place.line ++ Text.ofString "  " ++ m.reason ++ Text.ofString " [type=" ++ m.name ++ Text.ofString ", input_value=" ++ m.shown ++
    Text.ofString ", input_type=" ++ m.sort ++ Text.ofString "]" ++ reference

end Mismatch

/-! ## Failures -/

/-- Why a descriptor has no rows. -/
inductive DescriptorCause where
  /-- The text is not read as JSON. -/
  | unreadable (fault : Json.Fault Position)
  /-- The document, or the part of it that is asked for, has another shape. -/
  | misshapen (shape : Shape) (mismatches : List Mismatch)
  /-- A value is nested too deep for a row: its arrays, or an object in them. -/
  | cellTooDeep (container : Json.Container)
  /-- An entry of the main configuration has no name. -/
  | nameMissing
  /-- An entry of the main configuration has the name null. -/
  | nameNull
  deriving DecidableEq

/-- What stands in front of a list of mismatches: one error, or two errors. -/
def Shape.headline (shape : Shape) (count : Nat) : Text :=
  Text.ofNat count ++ Text.ofString (if count = 1 then " validation error" else " validation errors") ++
    Text.ofString " for " ++ shape.name

/-- The cause, as messages give it. -/
def DescriptorCause.message (reference? : Option Text) : DescriptorCause → Text
  | unreadable fault => fault.message
  | misshapen shape mismatches =>
    Text.joinWith [CodePoint.lineFeed] (shape.headline mismatches.length :: mismatches.map (Mismatch.message reference?))
  | cellTooDeep .array => "maximum recursion depth exceeded"
  | cellTooDeep .object => "maximum recursion depth exceeded while encoding a JSON object"
  | nameMissing => "'name'"
  | nameNull => "property name must not be null"

/-- What rows are taken from. -/
inductive DescriptorPart where
  | mainConfiguration
  | group (name : Text)
  deriving DecidableEq

/-- The part, as the message of a failure gives it. -/
def DescriptorPart.failureName : DescriptorPart → Text
  | mainConfiguration => "main json schema"
  | group name => Text.ofString "json schema group '" ++ name ++ Text.ofString "'"

/-- A failure to take rows from a descriptor. -/
structure DescriptorFault where
  part : DescriptorPart
  cause : DescriptorCause
  deriving DecidableEq

/-- What the message of a failure starts with. -/
def DescriptorFault.opening (fault : DescriptorFault) : Text :=
  Text.ofString "Cannot parse " ++ fault.part.failureName ++ Text.ofString ": "

/-- The failure, as messages give it. -/
def DescriptorFault.message (reference? : Option Text) (fault : DescriptorFault) : Text :=
  fault.opening ++ fault.cause.message reference?

/-! ## Checks -/

namespace Document

/-- The pairs of an object. -/
def objectEntries? : Json → Option (Entries Json)
  | .object entries => some entries
  | _ => none

/-- Whether a value is an object. -/
def isObject (v : Json) : Bool := (objectEntries? v).isSome

/-- The pairs of an object. -/
def asObject : Json → Except DescriptorCause (Entries Json)
  | .object entries => .ok entries
  | v => .error (.misshapen .object [.of .whole .object v])

/-- The mismatch of a pair whose value should be an object. -/
def keyMismatch (e : Text × Json) : Mismatch := .of (.key (PartPlace.shownKey e.1)) .object e.2

/-- The mismatch of an item that should be an object, with its index behind it. -/
def itemMismatch (e : Json × Nat) : Mismatch := .of (.index e.2) .object e.1

/-- The pairs of each value of an object of objects. -/
def asObjectOfObjects : Json → Except DescriptorCause (Entries (Entries Json))
  | .object entries =>
    match entries.filter fun e => !isObject e.2 with
    | [] => .ok (entries.filterMap fun e => (objectEntries? e.2).map fun metadata => (e.1, metadata))
    | others => .error (.misshapen .objectOfObjects (others.map keyMismatch))
  | v => .error (.misshapen .objectOfObjects [.of .whole .object v])

/-- The pairs of each item of an array of objects. -/
def asArrayOfObjects : Json → Except DescriptorCause (List (Entries Json))
  | .array items =>
    match items.zipIdx.filter fun e => !isObject e.1 with
    | [] => .ok (items.filterMap objectEntries?)
    | others => .error (.misshapen .arrayOfObjects (others.map itemMismatch))
  | v => .error (.misshapen .arrayOfObjects [.of .whole .array v])

/-- The pairs of the object that a text holds. -/
def read (t : Text) : Except DescriptorCause (Entries Json) :=
  match Json.read t with
  | .ok v => asObject v
  | .error fault => .error (.unreadable fault)

end Document

end Descriptors
