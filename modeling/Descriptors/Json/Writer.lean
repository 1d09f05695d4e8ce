import Descriptors.Decimal
import Descriptors.Encoding
import Descriptors.Json.Value
import Descriptors.Text.Quoted

/-!
# Writing JSON

A value is written as JSON for output, in one of two forms, and in a form of its own for messages.
-/

/-! ## JSON

Values are written without white space and with the keys in the order of the object. A string stands between quotes, in which a
quote, a backslash and the controls below U+0020 are escaped; everything else, beyond ASCII too, stands as it is.
The canonical form sorts the keys first, at every depth, so that values that differ in the order of keys alone are written
alike.
-/

namespace Descriptors.Json

/-- Floats are written by their shortest decimal, without an exponent from 10⁻⁴ up to below 10¹⁶. -/
def floatNotation : FloatNotation where
  leastPoint := -3
  greatestPoint := 16
  exponentWidth := 2
  notANumber := "NaN"
  infinity := "Infinity"

/-- A code point as it stands between quotes. -/
def escapedCodePoint (c : CodePoint) : Text :=
  if c = CodePoint.quote ∨ c = CodePoint.backslash then [CodePoint.backslash, c]
  else if c = CodePoint.backspace then [CodePoint.backslash, CodePoint.letterB]
  else if c = CodePoint.formFeed then [CodePoint.backslash, CodePoint.letterF]
  else if c = CodePoint.lineFeed then [CodePoint.backslash, CodePoint.letterN]
  else if c = CodePoint.carriageReturn then [CodePoint.backslash, CodePoint.letterR]
  else if c = CodePoint.tab then [CodePoint.backslash, CodePoint.letterT]
  else if c < 0x20 then CodePoint.backslash :: CodePoint.letterU :: Text.hexDigits 4 c
  else [c]

/-- A text as a string literal. -/
def writeString (t : Text) : Text := CodePoint.quote :: t.flatMap escapedCodePoint ++ [CodePoint.quote]

mutual

/-- A value as compact JSON. -/
def write : Json → Text
  | .null => "null"
  | .bool true => "true"
  | .bool false => "false"
  | .int n => Text.ofInt n
  | .float x => floatNotation.write x
  | .string t => writeString t
  | .array items => CodePoint.openBracket :: writeItems items ++ [CodePoint.closeBracket]
  | .object entries => CodePoint.openBrace :: writeEntries entries ++ [CodePoint.closeBrace]

/-- The items of an array, with commas between them. -/
def writeItems : List Json → Text
  | [] => []
  | [v] => write v
  | v :: items => write v ++ CodePoint.comma :: writeItems items

/-- The pairs of an object, with commas between them. -/
def writeEntries : List (Text × Json) → Text
  | [] => []
  | [(k, v)] => writeString k ++ CodePoint.colon :: write v
  | (k, v) :: entries => writeString k ++ CodePoint.colon :: write v ++ CodePoint.comma :: writeEntries entries

end

mutual

/-- A value with the keys of every object sorted by code point. -/
def sortKeys : Json → Json
  | .array items => .array (sortItems items)
  | .object entries => .object ((sortEntries entries).mergeSort fun a b => Text.precedesOrEquals a.1 b.1)
  | v => v

/-- `sortKeys` for each item of a list. -/
def sortItems : List Json → List Json
  | [] => []
  | v :: items => sortKeys v :: sortItems items

/-- `sortKeys` for the value of each pair, the pairs in the order they had. -/
def sortEntries : List (Text × Json) → List (Text × Json)
  | [] => []
  | (k, v) :: entries => (k, sortKeys v) :: sortEntries entries

end

/-- A value in canonical form: compact, with sorted keys. -/
def writeCanonical (v : Json) : Text := write (sortKeys v)

end Descriptors.Json

/-! ## Values in messages

A message that complains about a value shows it: not as JSON, but with the words for null, booleans and floats that the program has
itself, texts in quotes and a space after each comma and colon. Of a long form only the front and the back are shown.
-/

namespace Descriptors

namespace Json

/-- Floats in messages. -/
def shownFloats : FloatNotation := { floatNotation with notANumber := "nan", infinity := "inf" }

mutual

/-- A value, as messages show it. -/
def shown : Json → Text
  | .null => "None"
  | .bool true => "True"
  | .bool false => "False"
  | .int n => Text.ofInt n
  | .float x => shownFloats.write x
  | .string t => t.quoted
  | .array items => CodePoint.openBracket :: Text.joinWith ", " (shownItems items) ++ [CodePoint.closeBracket]
  | .object entries => CodePoint.openBrace :: Text.joinWith ", " (shownEntries entries) ++ [CodePoint.closeBrace]

/-- The items of an array, as messages show them. -/
def shownItems : List Json → List Text
  | [] => []
  | v :: items => shown v :: shownItems items

/-- The pairs of an object, as messages show them. -/
def shownEntries : List (Text × Json) → List Text
  | [] => []
  | (k, v) :: entries => (k.quoted ++ Text.ofString ": " ++ shown v) :: shownEntries entries

end

end Json

namespace Text

/-- The longest front of a text that takes at most this many bytes. -/
def frontWithin : Nat → Text → Text
  | _, [] => []
  | room, c :: rest =>
    let size := (Utf8.encodeCodePoint c).length
    if size ≤ room then c :: frontWithin (room - size) rest else []

/-- The longest back of a text that takes at most this many bytes. -/
def backWithin (room : Nat) (t : Text) : Text := (frontWithin room t.reverse).reverse

/-- A text of more than 50 bytes by its front and its back, with dots between them. -/
def abridged (t : Text) : Text :=
  if Utf8.size t ≤ 50 then t else frontWithin 25 t ++ Text.ofString "..." ++ backWithin 24 t

end Text

end Descriptors
