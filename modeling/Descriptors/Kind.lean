import Descriptors.Text.Quoted

/-!
# Kinds of descriptors

A catalog keeps descriptors of five kinds, each under names of its own.
-/

namespace Descriptors

/-- What a descriptor describes. -/
inductive Kind where
  | component
  | dataFormat
  | language
  | model
  | other
  deriving DecidableEq

namespace Kind

/-- The name of a kind. -/
def name : Kind → Text
  | component => "component"
  | dataFormat => "dataformat"
  | language => "language"
  | model => "model"
  | other => "other"

/-- All kinds. -/
def all : List Kind := [component, dataFormat, language, model, other]

/-- The kind of a name. -/
def ofName? (t : Text) : Option Kind := all.find? fun k => k.name == t

/-- What is said of a name that no kind has. -/
def unknownMessage (t : Text) : Text := t.quoted ++ Text.ofString " is not a valid ArtifactKind"

end Kind

end Descriptors
