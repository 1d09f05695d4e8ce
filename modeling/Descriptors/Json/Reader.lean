import Descriptors.Decimal
import Descriptors.Json.Value

/-!
# Reading JSON

A text is read as one JSON value, or refused with the first fault from the left.
-/

/-! ## Why a text is not JSON

A complaint has a place in the text, shown with its line and column. A reader in the middle of a text knows only how much of
the text is left, so inside the reader a place is that number; `Json.read` turns it into a `Position`. Two faults have no
place: an integer with more digits than are read, and nesting deeper than is read.
-/

namespace Descriptors

/-- A place in a text: the line and the column count from 1, the offset from 0, all in code points. -/
structure Position where
  line : Nat
  column : Nat
  offset : Nat
  deriving DecidableEq

/-- The place after `offset` code points of a text. A line feed ends a line. -/
def Position.ofOffset (t : Text) (offset : Nat) : Position :=
  let passed := t.take offset
  { line := passed.count CodePoint.lineFeed + 1
    column := (passed.reverse.takeWhile (· != CodePoint.lineFeed)).length + 1
    offset := offset }

/-- The place, as messages give it. -/
def Position.toText (p : Position) : Text :=
  Text.ofString "line " ++ Text.ofNat p.line ++ Text.ofString " column " ++ Text.ofNat p.column ++
    Text.ofString " (char " ++ Text.ofNat p.offset ++ Text.ofString ")"

namespace Json

/-- What the grammar has against a text at some place. -/
inductive Complaint where
  | valueExpected
  | nameExpected
  | colonExpected
  | commaExpected
  | extraText
  | unterminatedString
  | rawControl
  | unknownEscape
  | badUnicodeEscape
  | byteOrderMark
  deriving DecidableEq

/-- The complaint, as messages give it. -/
def Complaint.message : Complaint → Text
  | valueExpected => "Expecting value"
  | nameExpected => "Expecting property name enclosed in double quotes"
  | colonExpected => "Expecting ':' delimiter"
  | commaExpected => "Expecting ',' delimiter"
  | extraText => "Extra data"
  | unterminatedString => "Unterminated string starting at"
  | rawControl => "Invalid control character at"
  | unknownEscape => "Invalid \\escape"
  | badUnicodeEscape => "Invalid \\uXXXX escape"
  | byteOrderMark => "Unexpected UTF-8 BOM (decode using utf-8-sig)"

/-- What holds other values. -/
inductive Container where
  | array
  | object
  deriving DecidableEq

/-- The name of a container. -/
def Container.name : Container → Text
  | array => "array"
  | object => "object"

/-- Why a text is not read. -/
inductive Fault (Place : Type) where
  | malformed (complaint : Complaint) (place : Place)
  | longInteger (digits : Nat)
  | tooDeep (container : Container)
  deriving DecidableEq

/-- The fault with its place shown otherwise. -/
def Fault.mapPlace {α β : Type} (f : α → β) : Fault α → Fault β
  | malformed complaint place => malformed complaint (f place)
  | longInteger digits => longInteger digits
  | tooDeep container => tooDeep container

/-- The greatest number of digits of an integer that is read. -/
def greatestDigits : Nat := 4300

/-- The fault, as messages give it. -/
def Fault.message : Fault Position → Text
  | malformed complaint place => complaint.message ++ Text.ofString ": " ++ place.toText
  | longInteger digits =>
    Text.ofString "Exceeds the limit (" ++ Text.ofNat greatestDigits ++
      Text.ofString " digits) for integer string conversion: value has " ++ Text.ofNat digits ++
      Text.ofString " digits; use sys.set_int_max_str_digits() to increase the limit"
  | tooDeep container =>
    Text.ofString "maximum recursion depth exceeded while decoding a JSON " ++ container.name ++
      Text.ofString " from a unicode string"

/-- What reading the front of a text gives: a result and the text that is left, or a fault placed by how much was left. -/
abbrev Reading (α : Type) : Type := Except (Fault Nat) (α × Text)

/-- A complaint about the place where this much of the text is left. -/
def complain {α : Type} (complaint : Complaint) (left : Text) : Reading α := .error (.malformed complaint left.length)

/-- White space between the parts of a JSON text. -/
def isBlank (c : CodePoint) : Bool :=
  c == CodePoint.space || c == CodePoint.tab || c == CodePoint.lineFeed || c == CodePoint.carriageReturn

/-- The text after the white space in front of it. -/
def skipBlanks (t : Text) : Text := t.dropWhile isBlank

end Json

end Descriptors

/-! ## Number literals

A number without fraction and exponent is an integer of any size up to `greatestDigits` digits; any other is a float. The
longest text that makes a number is taken: a point without a digit after it, or an exponent without digits, is left.
-/

namespace Descriptors.Json

/-- The digits in front of a text, by value, and what is left. -/
def readDigits (t : Text) : List Nat × Text := ((t.takeWhile (·.isDigit)).map (· - 0x30), t.dropWhile (·.isDigit))

/-- The digits in front of the point: a single zero, or digits that do not start with one. -/
def readWhole? : Text → Option (List Nat × Text)
  | CodePoint.zero :: rest => some ([0], rest)
  | c :: rest => if c.isDigit then some (readDigits (c :: rest)) else none
  | [] => none

/-- The digits after a point; none where no point with a digit follows. -/
def readFraction : Text → List Nat × Text
  | CodePoint.dot :: c :: rest => if c.isDigit then readDigits (c :: rest) else ([], CodePoint.dot :: c :: rest)
  | t => ([], t)

/-- The exponent, where one with digits follows. -/
def readExponent? : Text → Option (Int × Text)
  | e :: rest =>
    if e = CodePoint.letterE ∨ e = CodePoint.capitalE then
      let (negative, rest) : Bool × Text := match rest with
        | CodePoint.plus :: rest => (false, rest)
        | CodePoint.dash :: rest => (true, rest)
        | _ => (false, rest)
      match readDigits rest with
      | ([], _) => none
      | (ds, rest) => some (if negative then -(Decimal.ofDigits ds : Int) else Decimal.ofDigits ds, rest)
    else none
  | [] => none

/-- A number without its sign: an integer where neither fraction nor exponent follows the whole part. -/
def readMagnitude (negative : Bool) (t : Text) : Option (Reading Json) := do
  let (whole, rest) ← readWhole? t
  let (fraction, rest) := readFraction rest
  match fraction, readExponent? rest with
  | [], none =>
    if greatestDigits < whole.length then return .error (.longInteger whole.length)
    let n : Int := Decimal.ofDigits whole
    return .ok (.int (if negative then -n else n), rest)
  | fraction, exponent =>
    let (shift, rest) := exponent.getD (0, rest)
    let x := Decimal.toFloat ⟨Decimal.ofDigits (whole ++ fraction), shift - fraction.length⟩
    return .ok (.float (if negative then -x else x), rest)

/-- A number, with a dash in front of it or not. -/
def readNumber (t : Text) : Reading Json :=
  let number := match t with
    | CodePoint.dash :: rest => readMagnitude true rest
    | _ => readMagnitude false t
  number.getD (complain .valueExpected t)

end Descriptors.Json

/-! ## String literals

A string stands between quotes. An escape with four hexadecimal digits gives a code point of its own, but two escapes that follow
each other directly, a high and then a low surrogate, give the one code point they stand for together. Surrogates that stand
unescaped are never joined.
-/

namespace Descriptors.Json

/-- What a letter after a backslash stands for, the letter u apart. -/
def shortEscape? (c : CodePoint) : Option CodePoint :=
  match c with
  | CodePoint.quote => some CodePoint.quote
  | CodePoint.backslash => some CodePoint.backslash
  | CodePoint.slash => some CodePoint.slash
  | CodePoint.letterB => some CodePoint.backspace
  | CodePoint.letterF => some CodePoint.formFeed
  | CodePoint.letterN => some CodePoint.lineFeed
  | CodePoint.letterR => some CodePoint.carriageReturn
  | CodePoint.letterT => some CodePoint.tab
  | _ => none

/-- The value of four hexadecimal digits. -/
def unicodeEscape? (a b c d : CodePoint) : Option CodePoint := do
  let a ← a.hexValue?
  let b ← b.hexValue?
  let c ← c.hexValue?
  let d ← d.hexValue?
  return ((a * 16 + b) * 16 + c) * 16 + d

/-- Adds what an escape gave to the code points so far, the last one first. `afterHigh` says that the last one came from an escape
and is a high surrogate. -/
def pushEscaped (afterHigh : Bool) (c : CodePoint) : Text → Text
  | high :: passed => if afterHigh && c.isLowSurrogate then CodePoint.ofSurrogates high c :: passed else c :: high :: passed
  | [] => [c]

/-- The rest of a string literal after its opening quote, of which `passed` has been read, the last code point first. `opening` is
the text from the opening quote on. An escape of four digits needs something after it, as every string has its closing quote
to come. -/
def readStringFrom (opening : Text) (afterHigh : Bool) (passed : Text) : Text → Reading Text
  | [] => complain .unterminatedString opening
  | CodePoint.quote :: rest => .ok (passed.reverse, rest)
  | [CodePoint.backslash] => complain .unterminatedString opening
  | CodePoint.backslash :: CodePoint.letterU :: a :: b :: c :: d :: next :: rest =>
    match unicodeEscape? a b c d with
    | some x => readStringFrom opening x.isHighSurrogate (pushEscaped afterHigh x passed) (next :: rest)
    | none => complain .badUnicodeEscape (CodePoint.letterU :: a :: b :: c :: d :: next :: rest)
  | CodePoint.backslash :: CodePoint.letterU :: rest => complain .badUnicodeEscape (CodePoint.letterU :: rest)
  | CodePoint.backslash :: c :: rest =>
    match shortEscape? c with
    | some x => readStringFrom opening false (x :: passed) rest
    | none => complain .unknownEscape (CodePoint.backslash :: c :: rest)
  | c :: rest =>
    if c < 0x20 then complain .rawControl (c :: rest) else readStringFrom opening false (c :: passed) rest

/-- The rest of a string literal after its opening quote. -/
def readString (rest : Text) : Reading Text := readStringFrom (CodePoint.quote :: rest) false [] rest

end Descriptors.Json

/-! ## Values

The reader takes a text from the front and gives a value and what is left (`Json.readValue`), or the first fault. Besides the
values of the grammar it takes the words `NaN`, `Infinity` and `-Infinity` for floats. Of a key that comes twice in an object
the last value counts, at the first place. Nesting is read up to a depth; the reader recurs on the depth that is left, and
the items of one container are counted down from a bound that the length of the text gives.
-/

namespace Descriptors.Json

/-- The words that stand for a value. -/
def words : List (Text × Json) :=
  [("null", .null), ("true", .bool true), ("false", .bool false), ("NaN", .float (0.0 / 0.0)),
    ("Infinity", .float (1.0 / 0.0)), ("-Infinity", .float (-1.0 / 0.0))]

/-- The value of the word in front of a text, and what is left. -/
def readWord? (t : Text) : Option (Json × Text) :=
  words.findSome? fun w => (w.1.isPrefixOf? t).map fun rest => (w.2, rest)

/-- The items of an array from the front of its first one on, of which `passed` has been read, the last one first. The bound is
at least the number of items left. -/
def readItems (readOne : Text → Reading Json) : Nat → List Json → Text → Reading (List Json)
  | 0, _, t => complain .valueExpected t
  | bound + 1, passed, t =>
    match readOne t with
    | .error fault => .error fault
    | .ok (v, rest) =>
      match skipBlanks rest with
      | CodePoint.comma :: rest => readItems readOne bound (v :: passed) (skipBlanks rest)
      | CodePoint.closeBracket :: rest => .ok ((v :: passed).reverse, rest)
      | rest => complain .commaExpected rest

/-- The pairs of an object from the front of its first key on, of which `passed` has been read, the last one first. The bound is
at least the number of pairs left. -/
def readPairs (readOne : Text → Reading Json) : Nat → List (Text × Json) → Text → Reading (List (Text × Json))
  | 0, _, t => complain .nameExpected t
  | bound + 1, passed, t =>
    match t with
    | CodePoint.quote :: rest =>
      match readString rest with
      | .error fault => .error fault
      | .ok (key, rest) =>
        match skipBlanks rest with
        | CodePoint.colon :: rest =>
          match readOne (skipBlanks rest) with
          | .error fault => .error fault
          | .ok (v, rest) =>
            match skipBlanks rest with
            | CodePoint.comma :: rest => readPairs readOne bound ((key, v) :: passed) (skipBlanks rest)
            | CodePoint.closeBrace :: rest => .ok (((key, v) :: passed).reverse, rest)
            | rest => complain .commaExpected rest
        | rest => complain .colonExpected rest
    | t => complain .nameExpected t

/-- The rest of an array after its opening bracket. -/
def readArray (readOne : Text → Reading Json) (bound : Nat) (t : Text) : Reading Json :=
  match skipBlanks t with
  | CodePoint.closeBracket :: rest => .ok (.array [], rest)
  | t => (readItems readOne bound [] t).map fun (items, rest) => (.array items, rest)

/-- The rest of an object after its opening brace. -/
def readObject (readOne : Text → Reading Json) (bound : Nat) (t : Text) : Reading Json :=
  match skipBlanks t with
  | CodePoint.closeBrace :: rest => .ok (.object [], rest)
  | t => (readPairs readOne bound [] t).map fun (pairs, rest) => (.object (Entries.putAll [] pairs), rest)

/-- A value in front of a text, given how the rest of an array and the rest of an object are read. -/
def readValueBy (array object : Text → Reading Json) (t : Text) : Reading Json :=
  match t with
  | CodePoint.quote :: rest => (readString rest).map fun (s, rest) => (.string s, rest)
  | CodePoint.openBracket :: rest => array rest
  | CodePoint.openBrace :: rest => object rest
  | t => (readWord? t).elim (readNumber t) .ok

/-- A value in front of a text, nested at most `depth` deep. -/
def readValue (bound : Nat) : Nat → Text → Reading Json
  | 0 => readValueBy (fun _ => .error (.tooDeep .array)) (fun _ => .error (.tooDeep .object))
  | depth + 1 => readValueBy (readArray (readValue bound depth) bound) (readObject (readValue bound depth) bound)

/-- The greatest depth of nesting that is read. -/
def greatestDepth : Nat := 990

/-- A whole text as one value, with white space around it, the fault placed by how much of the text was left. -/
def readWhole (t : Text) : Except (Fault Nat) Json :=
  match t with
  | CodePoint.byteOrderMark :: _ => .error (.malformed .byteOrderMark t.length)
  | _ =>
    match readValue t.length greatestDepth (skipBlanks t) with
    | .error fault => .error fault
    | .ok (v, rest) =>
      match skipBlanks rest with
      | [] => .ok v
      | rest => .error (.malformed .extraText rest.length)

/-- Reads a text as JSON. -/
def read (t : Text) : Except (Fault Position) Json :=
  match readWhole t with
  | .ok v => .ok v
  | .error fault => .error (fault.mapPlace fun left => Position.ofOffset t (t.length - left))

end Descriptors.Json
