import Descriptors.Descriptor.Rows
import Descriptors.Layout
import Descriptors.Log
import Descriptors.Table.Summary

/-!
# Catalogs

A catalog gives the texts of descriptors, and what is loaded from it is made of these texts.
-/

/-! ## Texts

A catalog gives the text of a descriptor by its kind and name, and the text of the main configuration. One sort of catalog holds
the texts, the other reads them from files that a layout places. What is not there, and a file that has no text, is answered
with nothing. A name that is not plain could lead out of the directory of its kind and is not looked up.
-/

namespace Descriptors

/-- Why a catalog gives no answer. -/
inductive CatalogFault where
  /-- The file system refuses to say whether a file is at a path. -/
  | refusedPath (fault : FileFault)
  /-- The layout names an encoding by a text that has no bytes. -/
  | encodingUnencodable (fault : EncodeFault)
  /-- A NUL stands in the name of the encoding. -/
  | nullInEncoding
  /-- The layout names an encoding for which there is no codec. -/
  | unknownEncoding (name : Text)
  /-- A file in UTF-16 lacks its byte order mark. -/
  | markMissing
  /-- The codec fails, and not at bytes that are not allowed. -/
  | codecFailed (description : Text)
  deriving DecidableEq

/-- A catalog that holds its texts. -/
structure TextCatalog where
  artifacts : List (Kind × Entries Text)
  mainConfiguration : Option Text

/-- A catalog that reads its texts from files. -/
structure FileCatalog where
  layout : Layout
  files : FileSystem
  codecs : Codecs

/-- Where descriptors come from. -/
inductive Catalog where
  | texts (c : TextCatalog)
  | files (c : FileCatalog)

namespace TextCatalog

/-- The text of a descriptor. -/
def text? (c : TextCatalog) (k : Kind) (name : Text) : Option Text := (c.artifacts.lookup k).bind (·.get? name)

/-- The texts of a kind that is given by its name, or what is said where no kind has this name. -/
def kindOfNamed (e : Text × Entries Text) : Except Text (Kind × Entries Text) :=
  match Kind.ofName? e.1 with
  | some k => .ok (k, e.2)
  | none => .error (Kind.unknownMessage e.1)

/-- The catalog of texts that are given by names of kinds, or what is said of the first name that no kind has. -/
def ofNamed (artifacts : Entries (Entries Text)) (mainConfiguration : Option Text) : Except Text TextCatalog :=
  (artifacts.mapM kindOfNamed).map fun artifacts => ⟨artifacts, mainConfiguration⟩

end TextCatalog

namespace FileCatalog

/-- Whether a name stays inside a directory. -/
def isPlain (name : Text) : Bool :=
  !name.isEmpty && !name.contains CodePoint.slash && !name.contains CodePoint.backslash && name != Path.here &&
    name != Path.up

/-- Why the name of an encoding is never looked up. -/
def encodingFault? (name : Text) : Option CatalogFault :=
  match Utf8.encodeFault? name with
  | some fault => some (.encodingUnencodable fault)
  | none => if name.contains CodePoint.null then some .nullInEncoding else none

/-- What decoding the bytes of a file gives: its text, or why it has none, unless the codec fails in another way. -/
def decoded (codec : Codec) (bytes : List Byte) : Except CatalogFault (Except ReadFault Text) :=
  match codec.readText bytes with
  | .ok t => .ok (.ok t)
  | .error (.undecodable fault) => .ok (.error (.undecodable fault))
  | .error .markMissing => .error .markMissing
  | .error (.other description) => .error (.codecFailed description)

/-- What reading a file gives: its text, or why it has none. The file is opened before the codec is looked up, and read after
that. -/
def readFile (c : FileCatalog) (f : File) : Except CatalogFault (Except ReadFault Text) :=
  match encodingFault? c.layout.encoding, f with
  | some fault, _ => .error fault
  | none, .sealed fault => .ok (.error (.notOpened fault))
  | none, f =>
    match c.codecs.codec? c.layout.encoding with
    | none => .error (.unknownEncoding c.layout.encoding)
    | some codec =>
      match f.read with
      | .ok bytes => decoded codec bytes
      | .error fault => .ok (.error fault)

/-- The text of the file at a path. -/
def read (c : FileCatalog) (path : Path) : Logged CatalogFault (Option Text) :=
  match c.files.file? path with
  | .error fault => .error (.refusedPath fault)
  | .ok none => ⟨.ok none, [.noFile path]⟩
  | .ok (some f) =>
    match c.readFile f with
    | .ok (.ok t) => .ok (some t)
    | .ok (.error fault) => ⟨.ok none, [.unreadable path fault]⟩
    | .error fault => .error fault

/-- The text of a descriptor. -/
def text (c : FileCatalog) (k : Kind) (name : Text) : Logged CatalogFault (Option Text) :=
  if isPlain name then c.read (c.layout.file k name) else ⟨.ok none, [.nameRejected name]⟩

end FileCatalog

namespace Catalog

/-- The text of a descriptor. -/
def text (c : Catalog) (k : Kind) (name : Text) : Logged CatalogFault (Option Text) :=
  match c with
  | texts c => .ok (c.text? k name)
  | files c => c.text k name

/-- The text of the main configuration. -/
def mainText (c : Catalog) : Logged CatalogFault (Option Text) :=
  match c with
  | texts c => .ok c.mainConfiguration
  | files c => c.read c.layout.mainPath

end Catalog

end Descriptors

/-! ## Rows and summaries from a catalog

The text of a descriptor is fetched and its rows are taken. A descriptor that the catalog does not have has no rows.
-/

namespace Descriptors

/-- Why nothing is loaded. -/
inductive LoadFault where
  /-- No kind has the name that is given for one, as is said. -/
  | unknownKind (message : Text)
  | catalog (fault : CatalogFault)
  | descriptor (fault : DescriptorFault)
  deriving DecidableEq

namespace Group

/-- The rows of a group of a descriptor, logged. -/
def load (group : Text) (form : GroupForm) (t : Text) : Logged DescriptorFault (List Row) :=
  match rows group form t with
  | .ok rows => ⟨.ok rows, [.groupParsed rows.length group]⟩
  | .error fault => .error fault

end Group

namespace MainConfiguration

/-- The rows of a main configuration, logged. -/
def load (t : Text) : Logged DescriptorFault (List Row) :=
  match rows t with
  | .ok rows => ⟨.ok rows, [.mainConfigurationParsed rows.length]⟩
  | .error fault => .error fault

end MainConfiguration

namespace Catalog

/-- What is asked about a kind that is given by its name. Nothing is asked where no kind has this name. -/
def forKind {α : Type} (kindName : Text) (ask : Kind → Logged LoadFault α) : Logged LoadFault α :=
  match Kind.ofName? kindName with
  | some k => ask k
  | none => .error (.unknownKind (Kind.unknownMessage kindName))

/-- The rows of a group of a descriptor. -/
def loadRows (c : Catalog) (k : Kind) (name group : Text) (form : GroupForm) : Logged LoadFault (List Row) :=
  ((c.text k name).mapError .catalog).andThen fun
    | none => ⟨.ok [], [.noDescriptor k name]⟩
    | some t => (Group.load group form t).mapError .descriptor

/-- The rows of the main configuration. -/
def loadMainRows (c : Catalog) : Logged LoadFault (List Row) :=
  (c.mainText.mapError .catalog).andThen fun
    | none => .ok []
    | some t => (MainConfiguration.load t).mapError .descriptor

/-- The summary of a component. -/
def loadComponent (c : Catalog) (name : Text) : Logged LoadFault (Option ComponentSummary) :=
  ((c.text .component name).mapError .catalog).andThen fun
    | none => .ok none
    | some t =>
      ((Group.load Group.component .attributes t).mapError .descriptor).andThen fun rows =>
        .ok (some (Table.describeComponent rows))

/-- The summary of a property of a descriptor. -/
def describe (c : Catalog) (k : Kind) (name property : Text) : Logged LoadFault (Option PropertySummary) :=
  (c.loadRows k name Group.properties .properties).andThen fun rows => .ok (Table.describe? rows property)

end Catalog

end Descriptors
