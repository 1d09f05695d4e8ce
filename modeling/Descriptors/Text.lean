/-!
# Text: a list of code points

A descriptor may bring in a lone surrogate (U+D800 to U+DFFF) through an escape, and a row may hold it, print it and be
looked up by it. So a text is not a `String`: it is the list of its code points, each by its number. Lengths, places and
the order of texts count code points.

`Text.ofString` reads a literal of this library; `Text.toString` is for the outer layer, which prints.
-/

namespace Descriptors

/-- A code point, by its number. -/
abbrev CodePoint : Type := Nat

/-- A text: its code points, surrogates included. -/
abbrev Text : Type := List CodePoint

namespace CodePoint

/-! ## The code points that the grammars name -/

@[match_pattern] abbrev null : CodePoint := 0x00
@[match_pattern] abbrev backspace : CodePoint := 0x08
@[match_pattern] abbrev tab : CodePoint := 0x09
@[match_pattern] abbrev lineFeed : CodePoint := 0x0A
@[match_pattern] abbrev formFeed : CodePoint := 0x0C
@[match_pattern] abbrev carriageReturn : CodePoint := 0x0D
@[match_pattern] abbrev space : CodePoint := 0x20
@[match_pattern] abbrev quote : CodePoint := 0x22
@[match_pattern] abbrev apostrophe : CodePoint := 0x27
@[match_pattern] abbrev plus : CodePoint := 0x2B
@[match_pattern] abbrev comma : CodePoint := 0x2C
@[match_pattern] abbrev dash : CodePoint := 0x2D
@[match_pattern] abbrev dot : CodePoint := 0x2E
@[match_pattern] abbrev slash : CodePoint := 0x2F
@[match_pattern] abbrev zero : CodePoint := 0x30
@[match_pattern] abbrev colon : CodePoint := 0x3A
@[match_pattern] abbrev equalsSign : CodePoint := 0x3D
@[match_pattern] abbrev openBracket : CodePoint := 0x5B
@[match_pattern] abbrev backslash : CodePoint := 0x5C
@[match_pattern] abbrev closeBracket : CodePoint := 0x5D
@[match_pattern] abbrev grave : CodePoint := 0x60
@[match_pattern] abbrev letterB : CodePoint := 0x62
@[match_pattern] abbrev letterE : CodePoint := 0x65
@[match_pattern] abbrev letterF : CodePoint := 0x66
@[match_pattern] abbrev letterN : CodePoint := 0x6E
@[match_pattern] abbrev letterR : CodePoint := 0x72
@[match_pattern] abbrev letterT : CodePoint := 0x74
@[match_pattern] abbrev letterU : CodePoint := 0x75
@[match_pattern] abbrev letterX : CodePoint := 0x78
@[match_pattern] abbrev openBrace : CodePoint := 0x7B
@[match_pattern] abbrev closeBrace : CodePoint := 0x7D
@[match_pattern] abbrev capitalE : CodePoint := 0x45
@[match_pattern] abbrev capitalU : CodePoint := 0x55
@[match_pattern] abbrev byteOrderMark : CodePoint := 0xFEFF

/-! ## Classes -/

/-- An ASCII digit. No other digit counts in a number. -/
def isDigit (c : CodePoint) : Bool := 0x30 ≤ c && c ≤ 0x39

/-- A high surrogate: the first half of a pair. -/
def isHighSurrogate (c : CodePoint) : Bool := 0xD800 ≤ c && c ≤ 0xDBFF

/-- A low surrogate: the second half of a pair. -/
def isLowSurrogate (c : CodePoint) : Bool := 0xDC00 ≤ c && c ≤ 0xDFFF

/-- A surrogate, high or low. -/
def isSurrogate (c : CodePoint) : Bool := 0xD800 ≤ c && c ≤ 0xDFFF

/-- A scalar value: a code point that an encoded file can hold. -/
def isScalar (c : CodePoint) : Bool := c < 0xD800 || (0xDFFF < c && c < 0x110000)

/-- The code point that a high and a low surrogate stand for together. -/
def ofSurrogates (high low : CodePoint) : CodePoint := 0x10000 + (high - 0xD800) * 0x400 + (low - 0xDC00)

/-- Whether a code point lies in one of some closed ranges. -/
def isIn (ranges : List (CodePoint × CodePoint)) (c : CodePoint) : Bool := ranges.any fun r => r.1 ≤ c && c ≤ r.2

/-- The value of a hexadecimal digit, in either case. -/
def hexValue? (c : CodePoint) : Option Nat :=
  if 0x30 ≤ c ∧ c ≤ 0x39 then some (c - 0x30)
  else if 0x41 ≤ c ∧ c ≤ 0x46 then some (c - 0x37)
  else if 0x61 ≤ c ∧ c ≤ 0x66 then some (c - 0x57)
  else none

/-- The hexadecimal digit of a value below sixteen, in lower case. -/
def ofHexValue (n : Nat) : CodePoint := if n < 10 then 0x30 + n else 0x57 + n

end CodePoint

namespace Text

/-- The code points of a string. -/
def ofString (s : String) : Text := s.toList.map (·.toNat)

instance : Coe String Text := ⟨ofString⟩

/-- The text as a string. What a string cannot hold, a surrogate, becomes U+FFFD. -/
def toString (t : Text) : String :=
  String.ofList (t.map fun c => if c.isScalar then Char.ofNat c else Char.ofNat 0xFFFD)

/-- Whether a text stands somewhere inside another. -/
def isInside (part : Text) : Text → Bool
  | [] => part.isEmpty
  | c :: rest => part.isPrefixOf (c :: rest) || isInside part rest

/-- The pieces between the occurrences of a code point: always at least one, and one more than there are occurrences. -/
def splitAt (separator : CodePoint) : Text → List Text
  | [] => [[]]
  | c :: rest =>
    if c = separator then [] :: splitAt separator rest
    else match splitAt separator rest with
      | [] => [[c]]
      | piece :: pieces => (c :: piece) :: pieces

/-- The texts one after the other, with a separator between two neighbours. -/
def joinWith (separator : Text) (pieces : List Text) : Text := separator.intercalate pieces

/-- The hexadecimal digits of a number, the given count of them, the lowest ones. -/
def hexDigits : Nat → Nat → Text
  | 0, _ => []
  | width + 1, n => hexDigits width (n / 16) ++ [CodePoint.ofHexValue (n % 16)]

/-- The order of texts: by the first code point that differs, a text before its extensions. -/
def precedesOrEquals : Text → Text → Bool
  | [], _ => true
  | _ :: _, [] => false
  | c :: s, d :: t => c < d || (c == d && precedesOrEquals s t)

/-- Line ends as every reader of files gives them: a carriage return, with the line feed after it if there is one, is a line
feed. -/
def normalizeLines : Text → Text
  | [] => []
  | CodePoint.carriageReturn :: CodePoint.lineFeed :: rest => CodePoint.lineFeed :: normalizeLines rest
  | CodePoint.carriageReturn :: rest => CodePoint.lineFeed :: normalizeLines rest
  | c :: rest => c :: normalizeLines rest

end Text

end Descriptors

/-! ## Written controls in row values

A descriptor may hold the two characters backslash and n, which a reader of single-line formats would take for a line feed. So
a row value doubles the backslash of each such pair, and likewise before r and t. The doubling is done for one letter after
the other, each time over the whole text and from left to right.
-/

namespace Descriptors.Text

/-- The text with the backslash doubled in each pair of a backslash and the given letter. -/
def doubleBackslashBefore (letter : CodePoint) : Text → Text
  | CodePoint.backslash :: c :: rest =>
    if c = letter then CodePoint.backslash :: CodePoint.backslash :: letter :: doubleBackslashBefore letter rest
    else CodePoint.backslash :: doubleBackslashBefore letter (c :: rest)
  | c :: rest => c :: doubleBackslashBefore letter rest
  | [] => []

/-- The text with each written carriage return, line feed and tab made unreadable as such. -/
def escapeControls (t : Text) : Text :=
  doubleBackslashBefore CodePoint.letterT
    (doubleBackslashBefore CodePoint.letterN (doubleBackslashBefore CodePoint.letterR t))

end Descriptors.Text
