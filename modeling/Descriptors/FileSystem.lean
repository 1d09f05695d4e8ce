import Descriptors.Encoding
import Descriptors.OrderedMap
import Descriptors.Path
import Descriptors.Text.Quoted

/-!
# The file system

The file system knows a name by its bytes. A path is followed name by name, from the root or from the current directory, once all
its parts are known by their bytes. A file may be there and yet not give its bytes, and a directory may refuse to look anything
up in it; each does so with a fault of its own.
-/

namespace Descriptors

/-! ## Names

A text names a file by its UTF-8 bytes; beyond that each code point from U+DC80 to U+DCFF, a low surrogate, stands for one byte,
so that a name of any bytes can be written as a text. A file can therefore have several names in texts. Any other surrogate
stands for no bytes, and a text that holds one names no file.
-/

/-- The name of a file: its bytes. -/
abbrev FileName : Type := List Byte

namespace FileName

/-- Whether a code point stands for a single byte that is not ASCII. -/
def isEscapedByte (c : CodePoint) : Bool := 0xDC80 ≤ c && c ≤ 0xDCFF

/-- The bytes that a code point stands for. -/
def bytes? (c : CodePoint) : Option (List Byte) :=
  if isEscapedByte c then some [c - 0xDC00]
  else if c.isSurrogate then none
  else some (Utf8.encodeCodePoint c)

/-- The name that a text stands for. -/
def ofText? : Text → Option FileName
  | [] => some []
  | c :: t =>
    match bytes? c, ofText? t with
    | some front, some rest => some (front ++ rest)
    | _, _ => none

/-- Why a text names no file: the first surrogate that stands for no byte, with those that follow it directly. -/
def fault? (t : Text) : Option EncodeFault := EncodeFault.first? (fun c => (bytes? c).isSome) t

/-- The names of some parts of a path, where each has one. -/
def ofParts? (parts : List Text) : Option (List FileName) := parts.mapM ofText?

end FileName

/-! ## Files and directories -/

/-- Why a path does not lead to the bytes of a file. -/
inductive FileFault where
  | notFound
  | notDirectory
  | isDirectory
  | nameTooLong
  /-- Another fault, as the file system tells it. -/
  | other (number : Nat) (description : Text)
  deriving DecidableEq

namespace FileFault

/-- The number of the fault. -/
def number : FileFault → Nat
  | notFound => 2
  | notDirectory => 20
  | isDirectory => 21
  | nameTooLong => 36
  | other number _ => number

/-- What is wrong, as messages give it. -/
def description : FileFault → Text
  | notFound => "No such file or directory"
  | notDirectory => "Not a directory"
  | isDirectory => "Is a directory"
  | nameTooLong => "File name too long"
  | other _ description => description

/-- Whether a path that ends in this fault counts as one where nothing is: no such entry, a bad descriptor, no directory on the
way, or too many links. -/
def meansAbsence (fault : FileFault) : Bool := [2, 9, 20, 40].contains fault.number

/-- The fault, as messages give it. -/
def message (fault : FileFault) : Text :=
  Text.ofString "[Errno " ++ Text.ofNat fault.number ++ Text.ofString "] " ++ fault.description

end FileFault

/-- A file. -/
inductive File where
  | intact (bytes : List Byte)
  /-- A file that cannot be opened. -/
  | sealed (fault : FileFault)
  /-- A file that can be opened, but not read to its end. -/
  | broken (fault : FileFault)
  deriving DecidableEq

/-- A file, or a directory. -/
inductive FileTree where
  | file (f : File)
  | directory (entries : List (FileName × FileTree))
  /-- A directory in which nothing is looked up. -/
  | closed (fault : FileFault)

/-- Why a file gives no text. -/
inductive ReadFault where
  | notOpened (fault : FileFault)
  | notRead (fault : FileFault)
  | undecodable (fault : DecodeFault)
  deriving DecidableEq

/-- The fault, as messages give it. A path that was to be opened is named. -/
def ReadFault.message (path : Path) : ReadFault → Text
  | notOpened fault => fault.message ++ Text.ofString ": " ++ path.toText.quoted
  | notRead fault => fault.message
  | undecodable fault => fault.message

/-- What reading a file gives. -/
def File.read : File → Except ReadFault (List Byte)
  | intact bytes => .ok bytes
  | .sealed fault => .error (.notOpened fault)
  | broken fault => .error (.notRead fault)

namespace FileTree

/-! ## Ways through a tree -/

/-- The greatest number of bytes of a name. -/
def greatestNameSize : Nat := 255

/-- The greatest number of bytes of a path. -/
def greatestPathSize : Nat := 4095

/-- The name that leads up. -/
def upName : FileName := Utf8.encode Path.up

/-- The number of bytes of a path, its names divided by slashes. -/
def pathSize (start : PathStart) (names : List FileName) : Nat :=
  start.toText.length + ([CodePoint.slash].intercalate names).length

/-- The entries of a directory; none where nothing is looked up. -/
def entries : FileTree → List (FileName × FileTree)
  | directory entries => entries
  | _ => []

/-- Where a name leads from a place, of which `above` are the directories around it, the nearest one first, and what lies around
that. The root leads up to itself. -/
def step (name : FileName) (place : FileTree) (above : List FileTree) : Except FileFault (FileTree × List FileTree) :=
  match place with
  | file _ => .error .notDirectory
  | closed fault => .error fault
  | directory entries =>
    if name = upName then .ok (above.headD place, above.tail)
    else if greatestNameSize < name.length then .error .nameTooLong
    else match Entries.get? name entries with
      | none => .error .notFound
      | some child => .ok (child, place :: above)

/-- Where names lead, one after the other. -/
def follow : List FileName → FileTree → List FileTree → Except FileFault FileTree
  | [], place, _ => .ok place
  | name :: names, place, above => step name place above >>= fun x => follow names x.1 x.2

/-! ## Changes -/

/-- The tree with something put at the end of some names, in directories that are made where they are missing. -/
def putAt (new : FileTree) : List FileName → FileTree → FileTree
  | [], _ => new
  | name :: names, place =>
    .directory (Entries.put name (putAt new names ((Entries.get? name place.entries).getD (.directory []))) place.entries)

/-- The tree with something put at the end of some parts. Nothing can be put where a part has no name. -/
def put (new : FileTree) (parts : List Text) (top : FileTree) : FileTree :=
  match FileName.ofParts? parts with
  | none => top
  | some names => putAt new names top

/-- The tree with a directory at the end of some names. -/
def makeDirectoryAt : List FileName → FileTree → FileTree
  | [], place => .directory place.entries
  | name :: names, place =>
    .directory
      (Entries.put name (makeDirectoryAt names ((Entries.get? name place.entries).getD (.directory []))) place.entries)

/-- The tree with a directory at the end of some parts. -/
def makeDirectory (parts : List Text) (top : FileTree) : FileTree :=
  match FileName.ofParts? parts with
  | none => top
  | some names => makeDirectoryAt names top

/-- The tree without what some names lead to. -/
def removeAt : List FileName → FileTree → FileTree
  | [name], .directory entries => .directory (entries.filter fun e => e.1 != name)
  | name :: names, .directory entries =>
    match Entries.get? name entries with
    | none => .directory entries
    | some place => .directory (Entries.put name (removeAt names place) entries)
  | _, place => place

/-- The tree without what some parts lead to. -/
def remove (parts : List Text) (top : FileTree) : FileTree :=
  match FileName.ofParts? parts with
  | none => top
  | some names => removeAt names top

end FileTree

/-! ## The file system of a process -/

/-- The files below the root, and the way from there to the current directory. -/
structure FileSystem where
  root : FileTree
  current : List FileName

namespace FileSystem

/-- The place at the end of some names, with the directories around it. The process stays in a directory that is gone; nothing
is in it. -/
def placeAt : List FileName → FileTree → List FileTree → FileTree × List FileTree
  | [], place, above => (place, above)
  | name :: names, place, above => placeAt names ((Entries.get? name place.entries).getD (.directory [])) (place :: above)

/-- Where paths start, with the directories around that place. -/
def origin (files : FileSystem) : PathStart → FileTree × List FileTree
  | .current => placeAt files.current files.root []
  | .root => (files.root, [])
  | .doubleSlash => (files.root, [])

/-- What a path leads to. A path with a part that has no name leads nowhere. -/
def find (files : FileSystem) (p : Path) : Except FileFault FileTree :=
  match FileName.ofParts? p.parts with
  | none => .error .notFound
  | some names =>
    if FileTree.greatestPathSize < FileTree.pathSize p.start names then .error .nameTooLong
    else FileTree.follow names (files.origin p.start).1 (files.origin p.start).2

/-- The file at a path, if a file is there. Not every fault on the way means that there is none. -/
def file? (files : FileSystem) (p : Path) : Except FileFault (Option File) :=
  if p.holdsNull then .ok none
  else match files.find p with
    | .ok (.file f) => .ok (some f)
    | .ok _ => .ok none
    | .error fault => if fault.meansAbsence then .ok none else .error fault

/-- What reading at a path gives. -/
def read (files : FileSystem) (p : Path) : Except ReadFault (List Byte) :=
  match files.find p with
  | .ok (.file f) => f.read
  | .ok _ => .error (.notOpened .isDirectory)
  | .error fault => .error (.notOpened fault)

end FileSystem

end Descriptors
