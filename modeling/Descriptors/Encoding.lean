import Descriptors.Decimal

/-!
# Bytes and text

A file holds bytes, and its text is what a codec makes of them. `Encoding` lists the encodings whose codecs are here; others are
those of the platform, which `Codecs` gives by their names. A decoder stops at the first bytes that its encoding does not allow,
and the fault says which they are and what is wrong.
-/

namespace Descriptors

/-- A byte, by its number. -/
abbrev Byte : Type := Nat

/-! ## Faults -/

/-- What is wrong with some bytes. -/
inductive DecodeReason where
  | invalidStart
  | invalidContinuation
  | unexpectedEnd
  | beyondAscii
  | truncatedUnit
  | loneLowSurrogate
  | loneHighSurrogate
  /-- Another reason, as a codec of the platform gives it. -/
  | other (description : Text)
  deriving DecidableEq

/-- What is wrong, as messages give it. -/
def DecodeReason.message : DecodeReason → Text
  | invalidStart => "invalid start byte"
  | invalidContinuation => "invalid continuation byte"
  | unexpectedEnd => "unexpected end of data"
  | beyondAscii => "ordinal not in range(128)"
  | truncatedUnit => "truncated data"
  | loneLowSurrogate => "illegal encoding"
  | loneHighSurrogate => "illegal UTF-16 surrogate"
  | other description => description

/-- Bytes that an encoding does not allow: those from offset `start` up to before `stop`, of which `first` is the first. -/
structure DecodeFault where
  encoding : Text
  first : Byte
  start : Nat
  stop : Nat
  reason : DecodeReason
  deriving DecidableEq

/-- The fault, as messages give it: a single byte is shown, several are named by their offsets. -/
def DecodeFault.message (fault : DecodeFault) : Text :=
  let bytes :=
    if fault.stop = fault.start + 1 then
      Text.ofString "byte 0x" ++ Text.hexDigits 2 fault.first ++ Text.ofString " in position " ++ Text.ofNat fault.start
    else
      Text.ofString "bytes in position " ++ Text.ofNat fault.start ++ CodePoint.dash :: Text.ofNat (fault.stop - 1)
  CodePoint.apostrophe :: fault.encoding ++ Text.ofString "' codec can't decode " ++ bytes ++ Text.ofString ": " ++
    fault.reason.message

/-- Code points that stand for no bytes: those from offset `start` up to before `stop`, of which `first` is the first. -/
structure EncodeFault where
  first : CodePoint
  start : Nat
  stop : Nat
  deriving DecidableEq

namespace EncodeFault

/-- The fault, as messages give it: a single code point is shown, several are named by their offsets. -/
def message (fault : EncodeFault) : Text :=
  let codePoints :=
    if fault.stop = fault.start + 1 then
      Text.ofString "character '\\u" ++ Text.hexDigits 4 fault.first ++ Text.ofString "' in position " ++
        Text.ofNat fault.start
    else
      Text.ofString "characters in position " ++ Text.ofNat fault.start ++ CodePoint.dash :: Text.ofNat (fault.stop - 1)
  Text.ofString "'utf-8' codec can't encode " ++ codePoints ++ Text.ofString ": surrogates not allowed"

/-- The first code point of a text that stands for no bytes, with the surrogates that follow it directly. -/
def first? (hasBytes : CodePoint → Bool) (t : Text) : Option EncodeFault :=
  let front := t.takeWhile hasBytes
  match t.drop front.length with
  | [] => none
  | c :: rest => some ⟨c, front.length, front.length + 1 + (rest.takeWhile (·.isSurrogate)).length⟩

end EncodeFault

/-! ## UTF-8

A code point takes one to four bytes. The decoder goes byte by byte and remembers, inside a code point, how many bytes are owed
and in what range the next one must be: the first byte after the lead has a narrower range for some leads, so that no code
point has two forms and no surrogate has one.
-/

namespace Utf8

/-- The bytes of a code point. -/
def encodeCodePoint (c : CodePoint) : List Byte :=
  if c < 0x80 then [c]
  else if c < 0x800 then [0xC0 + c / 0x40, 0x80 + c % 0x40]
  else if c < 0x10000 then [0xE0 + c / 0x1000, 0x80 + c / 0x40 % 0x40, 0x80 + c % 0x40]
  else [0xF0 + c / 0x40000, 0x80 + c / 0x1000 % 0x40, 0x80 + c / 0x40 % 0x40, 0x80 + c % 0x40]

/-- The bytes of a text. -/
def encode (t : Text) : List Byte := t.flatMap encodeCodePoint

/-- The number of bytes of a text. -/
def size (t : Text) : Nat := (encode t).length

/-- Why a text has no bytes: its first surrogates. -/
def encodeFault? (t : Text) : Option EncodeFault := EncodeFault.first? (!·.isSurrogate) t

/-- A code point of which some bytes are still owed. -/
structure Pending where
  /-- Its first byte and the offset of that. -/
  lead : Byte
  start : Nat
  /-- The bits so far. -/
  value : Nat
  owed : Nat
  /-- The range of the next byte. -/
  least : Byte
  greatest : Byte

/-- What is owed after a first byte, if it is one. -/
def Pending.ofLead? (start : Nat) (b : Byte) : Option Pending :=
  if b < 0xC2 then none
  else if b < 0xE0 then some ⟨b, start, b - 0xC0, 1, 0x80, 0xBF⟩
  else if b < 0xF0 then
    some ⟨b, start, b - 0xE0, 2, if b = 0xE0 then 0xA0 else 0x80, if b = 0xED then 0x9F else 0xBF⟩
  else if b < 0xF5 then
    some ⟨b, start, b - 0xF0, 3, if b = 0xF0 then 0x90 else 0x80, if b = 0xF4 then 0x8F else 0xBF⟩
  else none

/-- A fault of UTF-8. -/
def fault {α : Type} (first : Byte) (start stop : Nat) (reason : DecodeReason) : Except DecodeFault α :=
  .error ⟨"utf-8", first, start, stop, reason⟩

/-- Decodes the rest of some bytes, from an offset on; `passed` are the code points so far, the last one first. -/
def decodeFrom (offset : Nat) (pending : Option Pending) (passed : Text) : List Byte → Except DecodeFault Text
  | [] =>
    match pending with
    | none => .ok passed.reverse
    | some p => fault p.lead p.start offset .unexpectedEnd
  | b :: rest =>
    match pending with
    | none =>
      if b < 0x80 then decodeFrom (offset + 1) none (b :: passed) rest
      else match Pending.ofLead? offset b with
        | some p => decodeFrom (offset + 1) (some p) passed rest
        | none => fault b offset (offset + 1) .invalidStart
    | some p =>
      if p.least ≤ b ∧ b ≤ p.greatest then
        let value := p.value * 0x40 + (b - 0x80)
        if p.owed = 1 then decodeFrom (offset + 1) none (value :: passed) rest
        else
          decodeFrom (offset + 1) (some ⟨p.lead, p.start, value, p.owed - 1, 0x80, 0xBF⟩) passed rest
      else fault p.lead p.start offset .invalidContinuation

/-- The text of some bytes. -/
def decode (bytes : List Byte) : Except DecodeFault Text := decodeFrom 0 none [] bytes

end Utf8

/-! ## UTF-16

A code point takes one unit of two bytes, or two units that are a high and a low surrogate. The bytes of a unit stand in one of
two orders.
-/

namespace Utf16

/-- The order of the two bytes of a unit. -/
inductive ByteOrder where
  | littleEndian
  | bigEndian
  deriving DecidableEq

/-- The encoding with a given order of bytes, as messages name it. -/
def ByteOrder.encodingName : ByteOrder → Text
  | littleEndian => "utf-16-le"
  | bigEndian => "utf-16-be"

/-- The unit of two bytes. -/
def ByteOrder.unit (order : ByteOrder) (a b : Byte) : Nat :=
  match order with
  | littleEndian => a + 0x100 * b
  | bigEndian => 0x100 * a + b

/-- Decodes the rest of some bytes, from an offset on; `passed` are the code points so far, the last one first. -/
def decodeFrom (order : ByteOrder) (offset : Nat) (passed : Text) : List Byte → Except DecodeFault Text
  | [] => .ok passed.reverse
  | [a] => .error ⟨order.encodingName, a, offset, offset + 1, .truncatedUnit⟩
  | a :: b :: rest =>
    let x := order.unit a b
    if CodePoint.isLowSurrogate x then .error ⟨order.encodingName, a, offset, offset + 2, .loneLowSurrogate⟩
    else if CodePoint.isHighSurrogate x then
      match rest with
      | c :: d :: rest =>
        let y := order.unit c d
        if CodePoint.isLowSurrogate y then decodeFrom order (offset + 4) (CodePoint.ofSurrogates x y :: passed) rest
        else .error ⟨order.encodingName, a, offset, offset + 2, .loneHighSurrogate⟩
      | rest => .error ⟨order.encodingName, a, offset, offset + 2 + rest.length, .unexpectedEnd⟩
    else decodeFrom order (offset + 2) (x :: passed) rest

/-- The text of some bytes in a given order. -/
def decode (order : ByteOrder) (bytes : List Byte) : Except DecodeFault Text := decodeFrom order 0 [] bytes

end Utf16

/-! ## Encodings -/

/-- Why some bytes have no text in an encoding. -/
inductive EncodingFault where
  /-- Some bytes are not allowed. -/
  | undecodable (fault : DecodeFault)
  /-- UTF-16 without the byte order mark it needs. -/
  | markMissing
  /-- The codec fails in another way, as it tells. -/
  | other (description : Text)
  deriving DecidableEq

/-- What gives the text of some bytes. -/
abbrev Codec : Type := List Byte → Except EncodingFault Text

/-- The text of a file with some bytes: decoded, and with the line ends of every platform as line feeds. -/
def Codec.readText (codec : Codec) (bytes : List Byte) : Except EncodingFault Text := (codec bytes).map Text.normalizeLines

/-- The encodings whose codecs are here. -/
inductive Encoding where
  | utf8
  /-- UTF-8 in which a byte order mark in front is dropped. -/
  | utf8WithMark
  | latin1
  | ascii
  /-- UTF-16 in the order that the byte order mark in front gives. -/
  | utf16
  | utf16LittleEndian
  | utf16BigEndian
  deriving DecidableEq

namespace Encoding

/-- The encodings by their names: for each the one that counts, and the others. -/
def named : List (Encoding × Text × List Text) :=
  [(utf8, "utf_8", ["u8", "utf", "utf8", "utf8_ucs2", "utf8_ucs4", "cp65001"]),
    (utf8WithMark, "utf_8_sig", []),
    (latin1, "latin_1", ["8859", "cp819", "csisolatin1", "ibm819", "iso8859", "iso8859_1", "iso_8859_1", "iso_8859_1_1987",
      "iso_ir_100", "l1", "latin", "latin1"]),
    (ascii, "ascii", ["646", "ansi_x3.4_1968", "ansi_x3_4_1968", "ansi_x3.4_1986", "cp367", "csascii", "ibm367", "iso646_us",
      "iso_646.irv_1991", "iso_ir_6", "us", "us_ascii"]),
    (utf16, "utf_16", ["u16", "utf16"]),
    (utf16LittleEndian, "utf_16_le", ["unicodelittleunmarked", "utf_16le"]),
    (utf16BigEndian, "utf_16_be", ["unicodebigunmarked", "utf_16be"])]

/-- Whether a code point of a name counts: an ASCII letter or digit, or a dot. -/
def countsInName (c : CodePoint) : Bool := c.isIn [(0x30, 0x39), (0x41, 0x5A), (0x61, 0x7A)] || c == CodePoint.dot

/-- An ASCII letter in lower case. -/
def lowerAscii (c : CodePoint) : CodePoint := if c.isIn [(0x41, 0x5A)] then c + 0x20 else c

/-- A name as it is looked up: the runs of what counts in it, in lower case and with underscores between them. -/
def normalizedName (name : Text) : Text :=
  let runs := Text.splitAt CodePoint.space (name.map fun c => if countsInName c then lowerAscii c else CodePoint.space)
  Text.joinWith "_" (runs.filter (!·.isEmpty))

/-- The encoding of a name. A name with dots may stand for one with underscores. -/
def ofName? (name : Text) : Option Encoding :=
  let key := normalizedName name
  let undotted := key.map fun c => if c = CodePoint.dot then 0x5F else c
  let isCalled (e : Encoding × Text × List Text) : Bool := e.2.1 == key || e.2.2.contains key || e.2.2.contains undotted
  (named.find? isCalled).map (·.1)

/-- The text of bytes that are all ASCII. -/
def decodeAscii (offset : Nat) : List Byte → Except DecodeFault Text
  | [] => .ok []
  | b :: rest =>
    if b < 0x80 then (decodeAscii (offset + 1) rest).map (b :: ·)
    else .error ⟨"ascii", b, offset, offset + 1, .beyondAscii⟩

/-- The text of UTF-8 with or without a mark in front. What is only the beginning of a mark counts as nothing. Offsets count from
after the mark. -/
def decodeUtf8WithMark : List Byte → Except DecodeFault Text
  | [0xEF] => .ok []
  | [0xEF, 0xBB] => .ok []
  | 0xEF :: 0xBB :: 0xBF :: rest => Utf8.decode rest
  | bytes => Utf8.decode bytes

/-- The text of UTF-16 with a mark in front. Bytes without a mark are decoded all the same, to tell a fault in them from the
missing mark. -/
def decodeUtf16 : List Byte → Except EncodingFault Text
  | 0xFF :: 0xFE :: rest => (Utf16.decodeFrom .littleEndian 2 [] rest).mapError .undecodable
  | 0xFE :: 0xFF :: rest => (Utf16.decodeFrom .bigEndian 2 [] rest).mapError .undecodable
  | bytes =>
    match Utf16.decode .littleEndian bytes with
    | .error fault => .error (.undecodable fault)
    | .ok t => if bytes.isEmpty then .ok t else .error .markMissing

/-- The codec of an encoding. -/
def codec : Encoding → Codec
  | utf8, bytes => (Utf8.decode bytes).mapError .undecodable
  | utf8WithMark, bytes => (decodeUtf8WithMark bytes).mapError .undecodable
  | latin1, bytes => .ok bytes
  | ascii, bytes => (decodeAscii 0 bytes).mapError .undecodable
  | utf16, bytes => decodeUtf16 bytes
  | utf16LittleEndian, bytes => (Utf16.decode .littleEndian bytes).mapError .undecodable
  | utf16BigEndian, bytes => (Utf16.decode .bigEndian bytes).mapError .undecodable

end Encoding

/-! ## Codecs of a platform -/

/-- The codecs of a platform, by the names under which it has them. Every platform has UTF-8. -/
structure Codecs where
  codec? : Text → Option Codec
  utf8 : codec? "utf-8" = some Encoding.utf8.codec

/-- The codecs that are here, as a platform without any other. -/
def Codecs.listed : Codecs where
  codec? name := (Encoding.ofName? name).map Encoding.codec
  utf8 := by
    have hname : Encoding.ofName? "utf-8" = some .utf8 := by decide
    rw [hname, Option.map_some]

end Descriptors
