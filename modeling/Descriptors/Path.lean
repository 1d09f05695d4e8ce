import Descriptors.Text

/-!
# Paths

A path is where it starts and the parts below. When a path is read from text, repeated slashes and parts that are a single dot
are dropped; a part of two dots is kept, as what it means depends on the files. A path that starts with exactly two slashes
keeps both.
-/

namespace Descriptors

/-- Where a path starts. -/
inductive PathStart where
  /-- At the current directory. -/
  | current
  /-- At the root. -/
  | root
  /-- At the root that two slashes name. -/
  | doubleSlash
  deriving DecidableEq

/-- What stands before the parts of a path. -/
def PathStart.toText : PathStart → Text
  | current => []
  | root => [CodePoint.slash]
  | doubleSlash => [CodePoint.slash, CodePoint.slash]

/-- A path. -/
structure Path where
  start : PathStart
  parts : List Text
  deriving DecidableEq

namespace Path

/-- The part that leads nowhere. -/
def here : Text := "."

/-- The part that leads up. -/
def up : Text := ".."

/-- Where a text says that its path starts. -/
def startOf (t : Text) : PathStart :=
  match (t.takeWhile (· == CodePoint.slash)).length with
  | 0 => .current
  | 2 => .doubleSlash
  | _ => .root

/-- The path that a text names. -/
def ofText (t : Text) : Path :=
  ⟨startOf t, (t.splitAt CodePoint.slash).filter fun part => !part.isEmpty && part != here⟩

/-- A path followed from another: itself if it starts at a root. -/
def join (p q : Path) : Path :=
  match q.start with
  | .current => ⟨p.start, p.parts ++ q.parts⟩
  | _ => q

/-- The path without its last part. -/
def parent (p : Path) : Path := ⟨p.start, p.parts.dropLast⟩

/-- Whether a path starts at a root. -/
def isAbsolute (p : Path) : Bool := p.start != .current

/-- The path, as messages give it. -/
def toText (p : Path) : Text :=
  if p.start = .current ∧ p.parts = [] then here else p.start.toText ++ Text.joinWith [CodePoint.slash] p.parts

/-- Whether a NUL stands in a path. No file has such a path. -/
def holdsNull (p : Path) : Bool := p.parts.any (·.contains CodePoint.null)

end Path

end Descriptors
