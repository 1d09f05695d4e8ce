import Descriptors.Json.Reader
import Descriptors.Kind
import Descriptors.Path

/-!
# The layout of a directory of descriptors

Descriptors of a kind lie in a directory of that kind below the root, each in a file named for it; the main configuration is one
file below the root. A layout may be given as a JSON object: the root is required, every other field has a default, and no
other key is allowed. All that is wrong with such an object is listed: first the fields, in the order in which they are
declared, then the keys that are none, in the order of the object. But a key with a surrogate is not compared with the fields: where
there is one, that is all that is told.
-/

namespace Descriptors

/-- Where descriptors lie and how their files are encoded. -/
structure Layout where
  root : Path
  componentsDirectory : Text := "components"
  dataFormatsDirectory : Text := "dataformats"
  languagesDirectory : Text := "languages"
  modelsDirectory : Text := "models"
  othersDirectory : Text := "others"
  /-- What follows the name of a descriptor in the name of its file. -/
  suffix : Text := ".json"
  mainFile : Text := "main-configuration-metadata.json"
  encoding : Text := "utf-8"
  deriving DecidableEq

namespace Layout

/-! ## Places -/

/-- The directory of a kind, as the layout gives it. -/
def directoryName (l : Layout) : Kind → Text
  | .component => l.componentsDirectory
  | .dataFormat => l.dataFormatsDirectory
  | .language => l.languagesDirectory
  | .model => l.modelsDirectory
  | .other => l.othersDirectory

/-- The directory of a kind. -/
def directory (l : Layout) (k : Kind) : Path := l.root.join (Path.ofText (l.directoryName k))

/-- The file of a descriptor. -/
def file (l : Layout) (k : Kind) (name : Text) : Path := (l.directory k).join (Path.ofText (name ++ l.suffix))

/-- The file of the main configuration. -/
def mainPath (l : Layout) : Path := l.root.join (Path.ofText l.mainFile)

/-! ## Layouts as JSON -/

/-- The fields of a layout. -/
inductive Field where
  | root
  | componentsDirectory
  | dataFormatsDirectory
  | languagesDirectory
  | modelsDirectory
  | othersDirectory
  | suffix
  | mainFile
  | encoding
  deriving DecidableEq

/-- The key of a field. -/
def Field.key : Field → Text
  | root => "root"
  | componentsDirectory => "components_dir"
  | dataFormatsDirectory => "dataformats_dir"
  | languagesDirectory => "languages_dir"
  | modelsDirectory => "models_dir"
  | othersDirectory => "others_dir"
  | suffix => "suffix"
  | mainFile => "main_file"
  | encoding => "encoding"

/-- The fields in the order in which they are declared. -/
def fields : List Field :=
  [.root, .componentsDirectory, .dataFormatsDirectory, .languagesDirectory, .modelsDirectory, .othersDirectory, .suffix,
    .mainFile, .encoding]

/-- What is wrong with the value under a key. -/
inductive FieldProblem where
  | missing
  | notPath
  | notString
  | undeclared
  | unreadableKey
  deriving DecidableEq

/-- The name of a problem. -/
def FieldProblem.name : FieldProblem → Text
  | missing => "missing"
  | notPath => "path_type"
  | notString => "string_type"
  | undeclared => "extra_forbidden"
  | unreadableKey => "string_unicode"

/-- The problem, as messages give it. -/
def FieldProblem.message : FieldProblem → Text
  | missing => "Field required"
  | notPath => "Input is not a valid path for <class 'pathlib.Path'>"
  | notString => "Input should be a valid string"
  | undeclared => "Extra inputs are not permitted"
  | unreadableKey => "Input should be a valid string, unable to parse raw data as a unicode string"

/-- A problem with the key where it is, if it is told. -/
structure FieldError where
  key? : Option Text
  problem : FieldProblem
  deriving DecidableEq

/-- What is wrong with a field of an object, if anything is. -/
def fieldError? (object : Entries Json) (f : Field) : Option FieldError :=
  match object.get? f.key with
  | some (.string _) => none
  | some _ => some ⟨some f.key, if f = .root then .notPath else .notString⟩
  | none => if f = .root then some ⟨some f.key, .missing⟩ else none

/-- Whether a key is that of a field. -/
def isDeclared (key : Text) : Bool := fields.any fun f => f.key == key

/-- Whether a key of an object holds a surrogate. -/
def hasUnreadableKey (object : Entries Json) : Bool := object.any fun e => e.1.any (·.isSurrogate)

/-- What is listed of an object. -/
def errors (object : Entries Json) : List FieldError :=
  if hasUnreadableKey object then [⟨none, .unreadableKey⟩]
  else fields.filterMap (fieldError? object) ++ ((object.filter fun e => !isDeclared e.1).map fun e => ⟨some e.1, .undeclared⟩)

/-- The text under the key of a field, or the default where there is none. -/
def fieldText (object : Entries Json) (f : Field) (default : Text) : Text :=
  match object.get? f.key with
  | some (.string t) => t
  | _ => default

/-- The layout of an object in which nothing is wrong. -/
def ofFields (object : Entries Json) : Layout :=
  let defaults : Layout := { root := ⟨.current, []⟩ }
  { root := Path.ofText (fieldText object .root [])
    componentsDirectory := fieldText object .componentsDirectory defaults.componentsDirectory
    dataFormatsDirectory := fieldText object .dataFormatsDirectory defaults.dataFormatsDirectory
    languagesDirectory := fieldText object .languagesDirectory defaults.languagesDirectory
    modelsDirectory := fieldText object .modelsDirectory defaults.modelsDirectory
    othersDirectory := fieldText object .othersDirectory defaults.othersDirectory
    suffix := fieldText object .suffix defaults.suffix
    mainFile := fieldText object .mainFile defaults.mainFile
    encoding := fieldText object .encoding defaults.encoding }

/-- The layout of an object, or all that is wrong with it. -/
def ofObject (object : Entries Json) : Except (List FieldError) Layout :=
  match errors object with
  | [] => .ok (ofFields object)
  | errors => .error errors

/-! ## Layouts as files -/

/-- Why a file gives no layout. -/
inductive Fault where
  | unreadable (fault : Json.Fault Position)
  /-- The document is not an object, as is said. -/
  | notObject (message : Text)
  | invalid (errors : List FieldError)
  deriving DecidableEq

/-- What is said of a document that is not an object. -/
def notObjectMessage (v : Json) : Text :=
  Text.ofString "propcatalog.config.SchemaSourceConfig() argument after ** must be a mapping, not " ++ v.sortName

/-- The layout with a root that does not start at a root of files followed from a directory. -/
def relativeTo (l : Layout) (directory : Path) : Layout :=
  if l.root.isAbsolute then l else { l with root := directory.join l.root }

/-- The layout that the text of a file gives, its root followed from the directory of the file. -/
def ofFile (path : Path) (t : Text) : Except Fault Layout :=
  match Json.read t with
  | .error fault => .error (.unreadable fault)
  | .ok (.object object) =>
    match ofObject object with
    | .ok l => .ok (l.relativeTo path.parent)
    | .error errors => .error (.invalid errors)
  | .ok v => .error (.notObject (notObjectMessage v))

end Layout

end Descriptors
