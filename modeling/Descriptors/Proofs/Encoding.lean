import Descriptors.Encoding
import Descriptors.Proofs.Outcome
import Mathlib.Data.List.Basic
import Mathlib.Data.List.TakeWhile

/-!
# Texts, their bytes, and what codecs refuse

The bytes of a scalar value take the decoder of UTF-8 from between two code points to between the next two, with that scalar value
passed (`Utf8.decodeFrom_encodeCodePoint`): the first byte says how many are owed, and each of these is in the range for it. So a
text without surrogates is decoded from its bytes (`Utf8.decode_encode`), and no two such texts have the same bytes.

The codecs that are listed fail at bytes that are not allowed, and UTF-16 also where it lacks its mark
(`Encoding.readText_error_iff`).
-/

namespace Descriptors

/-- Nothing is found wrong with a text of which every code point stands for bytes. -/
theorem EncodeFault.first?_eq_none_iff {hasBytes : CodePoint → Bool} {t : Text} :
    first? hasBytes t = none ↔ ∀ c ∈ t, hasBytes c = true := by
  have hdrop : t.drop (t.takeWhile hasBytes).length = [] ↔ ∀ c ∈ t, hasBytes c = true := by
    rw [List.drop_eq_nil_iff, ← List.takeWhile_eq_self_iff]
    exact ⟨(List.takeWhile_prefix _).eq_of_length_le, fun h => by rw [h]⟩
  rw [← hdrop, first?]
  cases t.drop (t.takeWhile hasBytes).length <;> simp

/-! ## UTF-8 -/

namespace Utf8

variable {c : CodePoint} {b : Byte} {passed s t : Text} {rest : List Byte} {offset start x : Nat} {p : Pending}

/-! ## Single bytes -/

/-- The first of two bytes. -/
theorem ofLead?_two (h : 2 ≤ x) (h' : x < 0x20) :
    Pending.ofLead? start (0xC0 + x) = some ⟨0xC0 + x, start, x, 1, 0x80, 0xBF⟩ := by
  have hleast : ¬ 0xC0 + x < 0xC2 := by omega
  have hgreatest : 0xC0 + x < 0xE0 := by omega
  rw [Pending.ofLead?, if_neg hleast, if_pos hgreatest, Nat.add_sub_cancel_left]

/-- The first of three bytes. -/
theorem ofLead?_three (h : x < 0x10) :
    Pending.ofLead? start (0xE0 + x) =
      some ⟨0xE0 + x, start, x, 2, if x = 0 then 0xA0 else 0x80, if x = 0xD then 0x9F else 0xBF⟩ := by
  have htwo : ¬ 0xE0 + x < 0xC2 := by omega
  have hleast : ¬ 0xE0 + x < 0xE0 := by omega
  have hgreatest : 0xE0 + x < 0xF0 := by omega
  have hfirst : (0xE0 + x = 0xE0) = (x = 0) := propext (by omega)
  have hsurrogate : (0xE0 + x = 0xED) = (x = 0xD) := propext (by omega)
  rw [Pending.ofLead?, if_neg htwo, if_neg hleast, if_pos hgreatest, Nat.add_sub_cancel_left]
  simp only [hfirst, hsurrogate]

/-- The first of four bytes. -/
theorem ofLead?_four (h : x < 5) :
    Pending.ofLead? start (0xF0 + x) =
      some ⟨0xF0 + x, start, x, 3, if x = 0 then 0x90 else 0x80, if x = 4 then 0x8F else 0xBF⟩ := by
  have htwo : ¬ 0xF0 + x < 0xC2 := by omega
  have hthree : ¬ 0xF0 + x < 0xE0 := by omega
  have hleast : ¬ 0xF0 + x < 0xF0 := by omega
  have hgreatest : 0xF0 + x < 0xF5 := by omega
  have hfirst : (0xF0 + x = 0xF0) = (x = 0) := propext (by omega)
  have hlast : (0xF0 + x = 0xF4) = (x = 4) := propext (by omega)
  rw [Pending.ofLead?, if_neg htwo, if_neg hthree, if_neg hleast, if_pos hgreatest, Nat.add_sub_cancel_left]
  simp only [hfirst, hlast]

/-- A byte that starts a code point of several. -/
theorem decodeFrom_lead (hb : 0x80 ≤ b) (hp : Pending.ofLead? offset b = some p) :
    decodeFrom offset none passed (b :: rest) = decodeFrom (offset + 1) (some p) passed rest := by
  rw [decodeFrom, if_neg (Nat.not_lt.2 hb), hp]

/-- A byte after which more are owed. -/
theorem decodeFrom_owed (hleast : p.least ≤ 0x80 + x) (hgreatest : 0x80 + x ≤ p.greatest) (howed : p.owed ≠ 1) :
    decodeFrom offset (some p) passed ((0x80 + x) :: rest) =
      decodeFrom (offset + 1) (some ⟨p.lead, p.start, p.value * 0x40 + x, p.owed - 1, 0x80, 0xBF⟩) passed rest := by
  rw [decodeFrom, if_pos ⟨hleast, hgreatest⟩]
  simp only [if_neg howed, Nat.add_sub_cancel_left]

/-- The last byte of a code point. -/
theorem decodeFrom_last (hleast : p.least ≤ 0x80 + x) (hgreatest : 0x80 + x ≤ p.greatest) (howed : p.owed = 1) :
    decodeFrom offset (some p) passed ((0x80 + x) :: rest) =
      decodeFrom (offset + 1) none ((p.value * 0x40 + x) :: passed) rest := by
  rw [decodeFrom, if_pos ⟨hleast, hgreatest⟩]
  simp only [if_pos howed, Nat.add_sub_cancel_left]

/-! ## Code points and texts -/

/-- A scalar value is decoded from its bytes. -/
theorem decodeFrom_encodeCodePoint (offset : Nat) (passed : Text) (rest : List Byte) (hc : c.isScalar) :
    ∃ offset', decodeFrom offset none passed (encodeCodePoint c ++ rest) = decodeFrom offset' none (c :: passed) rest := by
  have hscalar : c < 0xD800 ∨ (0xDFFF < c ∧ c < 0x110000) := by simpa [CodePoint.isScalar] using hc
  dsimp only [CodePoint] at c hscalar
  -- by the number of bytes
  by_cases hone : c < 0x80
  · exact ⟨offset + 1, by rw [encodeCodePoint, if_pos hone, List.singleton_append, decodeFrom, if_pos hone]⟩
  by_cases htwo : c < 0x800
  · have hlead : 2 ≤ c / 0x40 ∧ c / 0x40 < 0x20 := by omega
    have hlast : 0x80 ≤ 0x80 + c % 0x40 ∧ 0x80 + c % 0x40 ≤ 0xBF := by omega
    have hvalue : c / 0x40 * 0x40 + c % 0x40 = c := by omega
    refine ⟨offset + 1 + 1, ?_⟩
    rw [encodeCodePoint, if_neg hone, if_pos htwo]
    simp only [List.cons_append, List.nil_append]
    rw [decodeFrom_lead (Nat.le_add_right_of_le (by decide)) (ofLead?_two hlead.1 hlead.2), decodeFrom_last hlast.1 hlast.2 rfl,
      hvalue]
  by_cases hthree : c < 0x10000
  · have hlead : c / 0x1000 < 0x10 := by omega
    have hleast : (if c / 0x1000 = 0 then 0xA0 else 0x80) ≤ 0x80 + c / 0x40 % 0x40 := by split <;> omega
    have hgreatest : 0x80 + c / 0x40 % 0x40 ≤ (if c / 0x1000 = 0xD then 0x9F else 0xBF) := by split <;> omega
    have hlast : 0x80 ≤ 0x80 + c % 0x40 ∧ 0x80 + c % 0x40 ≤ 0xBF := by omega
    have hvalue : (c / 0x1000 * 0x40 + c / 0x40 % 0x40) * 0x40 + c % 0x40 = c := by omega
    refine ⟨offset + 1 + 1 + 1, ?_⟩
    rw [encodeCodePoint, if_neg hone, if_neg htwo, if_pos hthree]
    simp only [List.cons_append, List.nil_append]
    rw [decodeFrom_lead (Nat.le_add_right_of_le (by decide)) (ofLead?_three hlead),
      decodeFrom_owed hleast hgreatest (show 2 ≠ 1 by decide), decodeFrom_last hlast.1 hlast.2 rfl, hvalue]
  · have hlead : c / 0x40000 < 5 := by omega
    have hleast : (if c / 0x40000 = 0 then 0x90 else 0x80) ≤ 0x80 + c / 0x1000 % 0x40 := by split <;> omega
    have hgreatest : 0x80 + c / 0x1000 % 0x40 ≤ (if c / 0x40000 = 4 then 0x8F else 0xBF) := by split <;> omega
    have hthird : 0x80 ≤ 0x80 + c / 0x40 % 0x40 ∧ 0x80 + c / 0x40 % 0x40 ≤ 0xBF := by omega
    have hlast : 0x80 ≤ 0x80 + c % 0x40 ∧ 0x80 + c % 0x40 ≤ 0xBF := by omega
    have hvalue : ((c / 0x40000 * 0x40 + c / 0x1000 % 0x40) * 0x40 + c / 0x40 % 0x40) * 0x40 + c % 0x40 = c := by omega
    refine ⟨offset + 1 + 1 + 1 + 1, ?_⟩
    rw [encodeCodePoint, if_neg hone, if_neg htwo, if_neg hthree]
    simp only [List.cons_append, List.nil_append]
    rw [decodeFrom_lead (Nat.le_add_right_of_le (by decide)) (ofLead?_four hlead),
      decodeFrom_owed hleast hgreatest (show 3 ≠ 1 by decide), decodeFrom_owed hthird.1 hthird.2 (show 2 ≠ 1 by decide),
      decodeFrom_last hlast.1 hlast.2 rfl, hvalue]

/-- The code points of a text without surrogates are decoded one after the other. -/
theorem decodeFrom_encode (ht : ∀ c ∈ t, c.isScalar) :
    ∀ offset passed, decodeFrom offset none passed (encode t) = .ok (passed.reverse ++ t) := by
  induction t with
  | nil =>
    intro offset passed
    rw [encode, List.flatMap_nil, decodeFrom, List.append_nil]
  | cons c t ih =>
    intro offset passed
    obtain ⟨hc, ht⟩ := List.forall_mem_cons.1 ht
    obtain ⟨offset', hfront⟩ := decodeFrom_encodeCodePoint offset passed (encode t) hc
    rw [encode, List.flatMap_cons, ← encode, hfront, ih ht, List.reverse_cons, List.append_assoc, List.singleton_append]

/-- A text without surrogates is decoded from its bytes. -/
theorem decode_encode (ht : ∀ c ∈ t, c.isScalar) : decode (encode t) = .ok t :=
  decodeFrom_encode ht 0 []

/-- Texts without surrogates that have the same bytes are the same. -/
theorem encode_injective (hs : ∀ c ∈ s, c.isScalar) (ht : ∀ c ∈ t, c.isScalar) (h : encode s = encode t) : s = t := by
  have hdecoded := decode_encode hs
  rw [h, decode_encode ht] at hdecoded
  exact (Except.ok.inj hdecoded).symm

end Utf8

/-! ## Codecs -/

/-- A file in UTF-8 that holds a text without surrogates has that text with even line ends. -/
theorem Encoding.readText_utf8_encode {t : Text} (ht : ∀ c ∈ t, c.isScalar) :
    utf8.codec.readText (Utf8.encode t) = .ok t.normalizeLines := by
  rw [Codec.readText, codec, Utf8.decode_encode ht]
  rfl

/-- A codec that is listed fails at bytes that are not allowed. Only UTF-16 also needs a mark: it is missed where some bytes without
one are decoded all the same. -/
theorem Encoding.readText_error_iff {e : Encoding} {bytes : List Byte} {fault : EncodingFault}
    (hfault : ∀ f, fault ≠ .undecodable f) : e.codec.readText bytes = .error fault ↔
      fault = .markMissing ∧ e = .utf16 ∧ bytes ≠ [] ∧ ¬ [0xFF, 0xFE] <+: bytes ∧ ¬ [0xFE, 0xFF] <+: bytes ∧
        ∃ t, Utf16.decode .littleEndian bytes = .ok t := by
  have hundecodable : ∀ x : Except DecodeFault Text, x.mapError EncodingFault.undecodable ≠ .error fault := by
    intro x h
    cases x with
    | ok t => cases h
    | error f => exact hfault f (Except.error.inj h).symm
  rw [Codec.readText, Outcome.map_error_iff]
  cases e with
  | utf8 | utf8WithMark | ascii | utf16LittleEndian | utf16BigEndian => simp [codec, hundecodable]
  | latin1 => simp [codec]
  | utf16 =>
    rw [codec]
    unfold decodeUtf16
    split
    · simp [hundecodable]
    · simp [hundecodable]
    · next hlittle hbig =>
      have hlittle' : ¬ [0xFF, 0xFE] <+: bytes := fun ⟨rest, h⟩ => hlittle rest h.symm
      have hbig' : ¬ [0xFE, 0xFF] <+: bytes := fun ⟨rest, h⟩ => hbig rest h.symm
      cases hdecode : Utf16.decode .littleEndian bytes with
      | error f =>
        have hne : fault ≠ .undecodable f := hfault f
        simp [hne.symm]
      | ok t => cases bytes <;> simp [hlittle', hbig', eq_comm]

end Descriptors
