import Descriptors.CommandLine.Vocabulary
import Descriptors.Text

/-!
# Arguments

The texts of a command line are told apart into operands and flags, without regard to what they are for.
-/

/-! ## Decimal digits

The decimal digits of all scripts, of Unicode 14, as closed ranges.
-/

namespace Descriptors.CodePoint

/-- The decimal digits of all scripts. -/
def decimalDigitRanges : List (CodePoint × CodePoint) := [
  (0x30, 0x39), (0x660, 0x669), (0x6F0, 0x6F9), (0x7C0, 0x7C9), (0x966, 0x96F), (0x9E6, 0x9EF), (0xA66, 0xA6F),
  (0xAE6, 0xAEF), (0xB66, 0xB6F), (0xBE6, 0xBEF), (0xC66, 0xC6F), (0xCE6, 0xCEF), (0xD66, 0xD6F), (0xDE6, 0xDEF),
  (0xE50, 0xE59), (0xED0, 0xED9), (0xF20, 0xF29), (0x1040, 0x1049), (0x1090, 0x1099), (0x17E0, 0x17E9),
  (0x1810, 0x1819), (0x1946, 0x194F), (0x19D0, 0x19D9), (0x1A80, 0x1A89), (0x1A90, 0x1A99), (0x1B50, 0x1B59),
  (0x1BB0, 0x1BB9), (0x1C40, 0x1C49), (0x1C50, 0x1C59), (0xA620, 0xA629), (0xA8D0, 0xA8D9), (0xA900, 0xA909),
  (0xA9D0, 0xA9D9), (0xA9F0, 0xA9F9), (0xAA50, 0xAA59), (0xABF0, 0xABF9), (0xFF10, 0xFF19), (0x104A0, 0x104A9),
  (0x10D30, 0x10D39), (0x11066, 0x1106F), (0x110F0, 0x110F9), (0x11136, 0x1113F), (0x111D0, 0x111D9),
  (0x112F0, 0x112F9), (0x11450, 0x11459), (0x114D0, 0x114D9), (0x11650, 0x11659), (0x116C0, 0x116C9),
  (0x11730, 0x11739), (0x118E0, 0x118E9), (0x11950, 0x11959), (0x11C50, 0x11C59), (0x11D50, 0x11D59),
  (0x11DA0, 0x11DA9), (0x16A60, 0x16A69), (0x16AC0, 0x16AC9), (0x16B50, 0x16B59), (0x1D7CE, 0x1D7FF),
  (0x1E140, 0x1E149), (0x1E2F0, 0x1E2F9), (0x1E950, 0x1E959), (0x1FBF0, 0x1FBF9)]

/-- A decimal digit of any script. -/
def isDecimalDigit (c : CodePoint) : Bool := c.isIn decimalDigitRanges

end Descriptors.CodePoint

/-! ## Operands and flags

An argument is an operand or a flag. What starts with a dash is a flag, unless it is a dash alone, a negative number, or no known
flag and has a space in it. A flag may be written with its value behind an equals sign, and a long one may be cut short as long
as no other flag starts like it. The first `--` separates: all that stands behind it are operands.
-/

namespace Descriptors.CommandLine

/-- What an argument is. -/
inductive Word where
  | operand (t : Text)
  /-- The first `--`. -/
  | separator
  /-- A flag, with the value that is given for it. -/
  | flag (f : Flag) (value : Option Text)
  /-- The short flag for help, with more right behind it. -/
  | helpWith (tail : Text)
  /-- A flag that is not known. -/
  | unknown
  deriving DecidableEq

/-- An argument, or a flag together with the argument that is its value. -/
structure Argument where
  texts : List Text
  word : Word
  deriving DecidableEq

/-- The argument that separates. -/
def separator : Text := "--"

/-- What stands before the first equals sign, and what stands behind it if there is one. -/
def cutAtEqualsSign (t : Text) : Text × Option Text :=
  match t.dropWhile (· != CodePoint.equalsSign) with
  | [] => (t, none)
  | _ :: value => (t.takeWhile (· != CodePoint.equalsSign), some value)

/-- A text without a line feed at its end. -/
def withoutLineEnd (t : Text) : Text := if t.getLast? = some CodePoint.lineFeed then t.dropLast else t

/-- Whether a text is a number: digits, or digits behind a point with or without digits before it. -/
def isNumber (t : Text) : Bool :=
  match t.dropWhile CodePoint.isDecimalDigit with
  | [] => !t.isEmpty
  | CodePoint.dot :: fraction => !fraction.isEmpty && fraction.all CodePoint.isDecimalDigit
  | _ => false

/-- Whether a text is a dash and a number, perhaps with a line feed at the end. -/
def isNegativeNumber : Text → Bool
  | CodePoint.dash :: t => isNumber (withoutLineEnd t)
  | _ => false

namespace Scope

/-- The flags that an argument may be short for, with the spellings in full. -/
def abbreviated (s : Scope) : Text → List (Text × Word)
  | CodePoint.dash :: CodePoint.dash :: t =>
    let (name, value) := cutAtEqualsSign (CodePoint.dash :: CodePoint.dash :: t)
    (s.spelled.filter fun e => name.isPrefixOf e.1).map fun e => (e.1, .flag e.2 value)
  | CodePoint.dash :: c :: tail =>
    (s.spelled.filter fun e => e.1 == [CodePoint.dash, c]).map fun e => (e.1, .helpWith tail)
  | _ => []

/-- What an argument with a dash in front is, where it is no spelling of a flag. -/
def unspelledWord (s : Scope) (t : Text) : Except UsageCause Word :=
  match s.abbreviated t with
  | [] => .ok (if isNegativeNumber t || t.contains CodePoint.space then .operand t else .unknown)
  | [(_, word)] => .ok word
  | several => .error (.ambiguous t (several.map (·.1)))

/-- What an argument before the separator is. -/
def word (s : Scope) (t : Text) : Except UsageCause Word :=
  if t.head? != some CodePoint.dash || t.length == 1 then .ok (.operand t)
  else match s.flag? t with
    | some f => .ok (.flag f none)
    | none =>
      match cutAtEqualsSign t with
      | (name, some value) =>
        match s.flag? name with
        | some f => .ok (.flag f (some value))
        | none => s.unspelledWord t
      | (_, none) => s.unspelledWord t

/-- What each argument is. -/
def words (s : Scope) : List Text → Except UsageCause (List Argument)
  | [] => .ok []
  | t :: rest =>
    if t = separator then .ok (⟨[t], .separator⟩ :: rest.map fun u => ⟨[u], .operand u⟩)
    else do return ⟨[t], ← s.word t⟩ :: (← s.words rest)

end Scope

namespace Argument

/-- Joins each flag that lacks its value with the operand right behind it. -/
def joinValues : List Argument → List Argument
  | [] => []
  | [a] => [a]
  | a :: b :: rest =>
    match a.word, b.word with
    | .flag f none, .operand value =>
      if f.takesValue then ⟨a.texts ++ b.texts, .flag f (some value)⟩ :: joinValues rest else a :: joinValues (b :: rest)
    | _, _ => a :: joinValues (b :: rest)

/-- The arguments of a scope. -/
def read (s : Scope) (texts : List Text) : Except UsageCause (List Argument) := (s.words texts).map joinValues

end Argument

end Descriptors.CommandLine
