import Descriptors.Decimal
import Descriptors.Json.Reader
import Descriptors.Json.Writer
import Mathlib.Data.List.Basic

/-!
# Literals are read as they are written

Integers and strings are read back from what is written of them, whatever stands behind.
-/

/-! ## Decimal digits and their value

The digits of a number are digits, there is at least one, none of them is a zero in front unless it stands alone, and they
write the number (`Decimal.ofDigits_digits`). These statements follow the recursion of `Decimal.digits`, which takes the last
digit off. Of all digits that write a number they are the fewest (`Decimal.length_digits_ofDigits_le`).
-/

namespace Descriptors.Decimal

/-- A number below ten is its own digit. -/
theorem digits_of_lt_ten {n : Nat} (h : n < 10) : digits n = [n] := by
  rw [digits, if_pos h]

/-- Every digit is below ten. -/
theorem lt_ten_of_mem_digits (n : Nat) : ∀ d ∈ digits n, d < 10 := by
  induction n using digits.induct with
  | case1 n hn =>
    rw [digits_of_lt_ten hn]
    exact fun d hd => List.mem_singleton.1 hd ▸ hn
  | case2 n hn ih =>
    rw [digits, if_neg hn]
    intro d hd
    rcases List.mem_append.1 hd with hd | hd
    · exact ih d hd
    · rw [List.mem_singleton.1 hd]
      omega

/-- A number has a first digit, which is no zero unless the number is. -/
theorem exists_digits_eq_cons (n : Nat) : ∃ d ds, digits n = d :: ds ∧ (n ≠ 0 → d ≠ 0) := by
  induction n using digits.induct with
  | case1 n hn => exact ⟨n, [], digits_of_lt_ten hn, id⟩
  | case2 n hn ih =>
    obtain ⟨d, ds, hds, hd⟩ := ih
    exact ⟨d, ds ++ [n % 10], by rw [digits, if_neg hn, hds, List.cons_append], fun _ => hd (by omega)⟩

/-- The digits of a number write it. -/
theorem ofDigits_digits (n : Nat) : ofDigits (digits n) = n := by
  induction n using digits.induct with
  | case1 n hn => simp [digits, hn, ofDigits]
  | case2 n hn ih =>
    have hsnoc : ofDigits (digits (n / 10) ++ [n % 10]) = 10 * ofDigits (digits (n / 10)) + n % 10 := by
      simp [ofDigits, List.foldl_append]
    rw [digits, if_neg hn, hsnoc, ih]
    omega

/-- A digit behind a number makes it longer by one digit at most. -/
theorem length_digits_snoc_le {n d : Nat} (hd : d < 10) : (digits (10 * n + d)).length ≤ (digits n).length + 1 := by
  rw [digits]
  split
  · exact Nat.le_add_left _ _
  · have hn : (10 * n + d) / 10 = n := by omega
    exact Nat.le_of_eq (by rw [hn, List.length_append, List.length_singleton])

/-- Digits behind a number make it longer by their number at most. -/
theorem length_digits_foldl_le {ds : List Nat} (h : ∀ d ∈ ds, d < 10) :
    ∀ n, (digits (ds.foldl (fun n d => 10 * n + d) n)).length ≤ (digits n).length + ds.length := by
  induction ds with
  | nil => exact fun n => Nat.le_refl _
  | cons d ds ih =>
    intro n
    obtain ⟨hd, hds⟩ := List.forall_mem_cons.1 h
    have hrest := ih hds (10 * n + d)
    have hstep := length_digits_snoc_le (n := n) hd
    rw [List.foldl_cons, List.length_cons]
    omega

/-- A number that digits write has no more digits than they are. -/
theorem length_digits_ofDigits_le {ds : List Nat} (hne : ds ≠ []) (h : ∀ d ∈ ds, d < 10) :
    (digits (ofDigits ds)).length ≤ ds.length := by
  obtain ⟨d, ds, rfl⟩ := List.exists_cons_of_ne_nil hne
  obtain ⟨hd, hds⟩ := List.forall_mem_cons.1 h
  have hrest := length_digits_foldl_le hds d
  have hone : (digits d).length = 1 := by rw [digits, if_pos hd, List.length_singleton]
  rw [ofDigits, List.foldl_cons, Nat.mul_zero, Nat.zero_add, List.length_cons]
  omega

end Descriptors.Decimal

/-! ## Integers are read as they are written

The digits of an integer are the whole part of a number literal, and where neither a fraction nor an exponent follows them
(`Json.EndsNumber`) the literal is that integer and nothing behind it is taken (`Json.readNumber_ofInt`). The digits may be
as many as the reader takes, and no integer that is read has more (`Json.length_digits_of_readMagnitude`).
-/

namespace Descriptors.Json

variable {c : CodePoint} {t rest : Text} {n : Nat} {ds : List Nat}

/-- A text that a number in front of it does not go on with: it starts with no digit, point or sign of an exponent. -/
def EndsNumber (t : Text) : Prop :=
  ∀ c ∈ t.head?, c.isDigit = false ∧ c ≠ CodePoint.dot ∧ c ≠ CodePoint.letterE ∧ c ≠ CodePoint.capitalE

theorem endsNumber_nil : EndsNumber [] := by
  simp [EndsNumber]

/-- No number goes on with a comma or a closing bracket or brace. -/
theorem endsNumber_cons (h : c ∈ [CodePoint.comma, CodePoint.closeBracket, CodePoint.closeBrace]) : EndsNumber (c :: rest) := by
  have hall : ∀ c ∈ [CodePoint.comma, CodePoint.closeBracket, CodePoint.closeBrace],
      c.isDigit = false ∧ c ≠ CodePoint.dot ∧ c ≠ CodePoint.letterE ∧ c ≠ CodePoint.capitalE := by decide
  intro c' hc'
  rw [List.head?_cons, Option.mem_some_iff] at hc'
  exact hc' ▸ hall c h

/-! ### The parts of a literal -/

/-- A decimal digit is written as a digit. -/
theorem isDigit_of_lt_ten : ∀ {d : Nat}, d < 10 → CodePoint.isDigit (0x30 + d) = true := by
  decide

/-- A natural number starts with a digit. -/
theorem exists_ofNat_eq_cons (n : Nat) : ∃ c s, Text.ofNat n = c :: s ∧ c.isDigit = true := by
  obtain ⟨d, ds, hds, _⟩ := Decimal.exists_digits_eq_cons n
  have hd := Decimal.lt_ten_of_mem_digits n d (hds ▸ List.mem_cons_self)
  exact ⟨0x30 + d, Text.ofDigits ds, by rw [Text.ofNat, hds]; rfl, isDigit_of_lt_ten hd⟩

/-- An integer starts with a digit or a dash. -/
theorem exists_ofInt_eq_cons (i : Int) : ∃ c s, Text.ofInt i = c :: s ∧ (c.isDigit = true ∨ c = CodePoint.dash) := by
  cases i with
  | ofNat n =>
    obtain ⟨c, s, hs, hc⟩ := exists_ofNat_eq_cons n
    exact ⟨c, s, hs, Or.inl hc⟩
  | negSucc n => exact ⟨CodePoint.dash, Text.ofNat (n + 1), rfl, Or.inr rfl⟩

/-- Digits are read up to the first code point that is none. -/
theorem readDigits_ofDigits (hds : ∀ d ∈ ds, d < 10) (hrest : ∀ c ∈ rest.head?, c.isDigit = false) :
    readDigits (Text.ofDigits ds ++ rest) = (ds, rest) := by
  have hdigits : ∀ c ∈ Text.ofDigits ds, c.isDigit = true := by
    intro c hc
    obtain ⟨d, hd, rfl⟩ := List.mem_map.1 hc
    exact isDigit_of_lt_ten (hds d hd)
  have htake : rest.takeWhile (·.isDigit) = [] := by
    cases rest with
    | nil => rfl
    | cons c rest => rw [List.takeWhile_cons, hrest c rfl]; rfl
  have hdrop : rest.dropWhile (·.isDigit) = rest := by
    cases rest with
    | nil => rfl
    | cons c rest => rw [List.dropWhile_cons, hrest c rfl]; rfl
  rw [readDigits, List.takeWhile_append_of_pos hdigits, List.dropWhile_append_of_pos hdigits, htake, hdrop, List.append_nil]
  simp [Text.ofDigits, Function.comp_def]

/-- The digits of a number are the whole part of a literal: they start with a zero only if that is all. -/
theorem readWhole?_ofNat (n : Nat) (hrest : EndsNumber rest) :
    readWhole? (Text.ofNat n ++ rest) = some (Decimal.digits n, rest) := by
  by_cases hn : n = 0
  · subst hn
    rw [Text.ofNat, Decimal.digits_of_lt_ten (by decide)]
    rfl
  · obtain ⟨d, ds, hds, hd⟩ := Decimal.exists_digits_eq_cons n
    have hlt := Decimal.lt_ten_of_mem_digits n
    have hread := readDigits_ofDigits hlt fun c hc => (hrest c hc).1
    rw [hds] at hlt hread
    rw [Text.ofNat, hds]
    have hfirst : 0x30 + d ≠ CodePoint.zero := by
      have := hd hn
      simp only [CodePoint.zero]
      omega
    change readWhole? ((0x30 + d) :: (Text.ofDigits ds ++ rest)) = _
    unfold readWhole?
    split
    · next heq => exact absurd (List.cons.inj heq).1 hfirst
    · next heq =>
      obtain ⟨rfl, rfl⟩ := List.cons.inj heq
      rw [if_pos (isDigit_of_lt_ten (hlt d List.mem_cons_self))]
      exact congrArg some hread
    · next heq => cases heq

/-- Where no number goes on there is no fraction. -/
theorem readFraction_of_endsNumber (h : EndsNumber t) : readFraction t = ([], t) := by
  unfold readFraction
  split
  · next c rest => exact absurd rfl (h CodePoint.dot rfl).2.1
  · rfl

/-- Where no number goes on there is no exponent. -/
theorem readExponent?_of_endsNumber (h : EndsNumber t) : readExponent? t = none := by
  unfold readExponent?
  split
  · next e rest =>
    obtain ⟨_, _, he, hE⟩ := h e rfl
    rw [if_neg (by simp [he, hE])]
  · rfl

/-- The digits that are read are digits. -/
theorem lt_ten_of_mem_readDigits (t : Text) : ∀ d ∈ (readDigits t).1, d < 10 := by
  intro d hd
  obtain ⟨c, hc, rfl⟩ := List.mem_map.1 hd
  have hdigit := List.all_eq_true.1 List.all_takeWhile c hc
  rw [CodePoint.isDigit, Bool.and_eq_true, decide_eq_true_iff, decide_eq_true_iff] at hdigit
  exact Nat.lt_of_le_of_lt (Nat.sub_le_sub_right hdigit.2 0x30) (by decide)

/-- The whole part that is read is at least one digit. -/
theorem readWhole?_digits (h : readWhole? t = some (ds, rest)) : ds ≠ [] ∧ ∀ d ∈ ds, d < 10 := by
  unfold readWhole? at h
  split at h
  · cases h
    exact ⟨List.cons_ne_nil _ _, by decide⟩
  · next c rest' _ =>
    split at h
    · next hc =>
      obtain rfl : (readDigits (c :: rest')).1 = ds := congrArg Prod.fst (Option.some.inj h)
      refine ⟨?_, lt_ten_of_mem_readDigits _⟩
      rw [readDigits, List.takeWhile_cons, if_pos hc]
      exact List.cons_ne_nil _ _
    · cases h
  · cases h

/-! ### Whole literals -/

/-- A natural number without its sign is read as it is written. -/
theorem readMagnitude_ofNat (negative : Bool) (hn : (Decimal.digits n).length ≤ greatestDigits) (hrest : EndsNumber rest) :
    readMagnitude negative (Text.ofNat n ++ rest) = some (.ok (.int (if negative then -n else n), rest)) := by
  unfold readMagnitude
  rw [readWhole?_ofNat n hrest]
  simp only [Option.bind_eq_bind, Option.bind_some, readFraction_of_endsNumber hrest, readExponent?_of_endsNumber hrest]
  rw [if_neg (Nat.not_lt.2 hn), Decimal.ofDigits_digits]
  rfl

/-- A number without its sign that is read is an integer of no more digits than are read, or a float. -/
theorem length_digits_of_readMagnitude {negative : Bool} {v : Json} (h : readMagnitude negative t = some (.ok (v, rest))) :
    (∃ n, v = .int n ∧ (Decimal.digits n.natAbs).length ≤ greatestDigits) ∨ ∃ x, v = .float x := by
  obtain ⟨⟨whole, afterWhole⟩, hwhole, h⟩ := Option.bind_eq_some_iff.1 h
  obtain ⟨hne, hdigits⟩ := readWhole?_digits hwhole
  dsimp only at h
  split at h
  · split at h
    · cases h
    · next hlong =>
      cases h
      refine Or.inl ⟨_, rfl, ?_⟩
      have habs : (if negative = true then -(Decimal.ofDigits whole : Int) else Decimal.ofDigits whole).natAbs =
          Decimal.ofDigits whole := by
        split
        · rw [Int.natAbs_neg, Int.natAbs_natCast]
        · rw [Int.natAbs_natCast]
      rw [habs]
      exact Nat.le_trans (Decimal.length_digits_ofDigits_le hne hdigits) (Nat.le_of_not_lt hlong)
  · cases h
    exact Or.inr ⟨_, rfl⟩

/-- An integer is read as it is written. -/
theorem readNumber_ofInt {i : Int} (hi : (Decimal.digits i.natAbs).length ≤ greatestDigits) (hrest : EndsNumber rest) :
    readNumber (Text.ofInt i ++ rest) = .ok (.int i, rest) := by
  cases i with
  | ofNat n =>
    obtain ⟨c, s, hs, hc⟩ := exists_ofNat_eq_cons n
    have hread := readMagnitude_ofNat false (n := n) hi hrest
    change readNumber (Text.ofNat n ++ rest) = _
    rw [hs, List.cons_append] at hread ⊢
    unfold readNumber
    split
    · next heq =>
      rw [(List.cons.inj heq).1] at hc
      cases hc
    · rw [hread]
      rfl
  | negSucc n =>
    have hread := readMagnitude_ofNat true (n := n + 1) hi hrest
    change (readMagnitude true (Text.ofNat (n + 1) ++ rest)).getD _ = _
    rw [hread]
    rfl

end Descriptors.Json

/-! ## Strings are read as they are written

Each code point is written as a group that the reader takes back to that code point, whatever stands before and behind it
(`Json.readStringFrom_escapedCodePoint`): a raw code point, a surrogate among them, is never joined with a neighbour, and the
escapes that are written stand for controls. So a string literal is read as the text it was written for
(`Json.readString_write`). What is written holds no control (`Json.space_le_of_mem_writeString`), so a literal stays on its
line.
-/

namespace Descriptors.Json

variable {c : CodePoint} {passed opening tail rest t : Text} {afterHigh : Bool}

/-- The four hexadecimal digits of a control stand for it. -/
theorem unicodeEscape?_hexDigits : ∀ c < 0x20,
    Text.hexDigits 4 c = [CodePoint.zero, CodePoint.zero, CodePoint.ofHexValue (c / 16), CodePoint.ofHexValue (c % 16)] ∧
      unicodeEscape? CodePoint.zero CodePoint.zero (CodePoint.ofHexValue (c / 16)) (CodePoint.ofHexValue (c % 16)) = some c := by
  decide

/-- A control is no surrogate. -/
theorem not_isSurrogate_of_lt : ∀ c < 0x20, CodePoint.isHighSurrogate c = false ∧ CodePoint.isLowSurrogate c = false := by
  decide

/-- A code point from an escape that is no low surrogate is added as it is. -/
theorem pushEscaped_of_not (h : c.isLowSurrogate = false) : pushEscaped afterHigh c passed = c :: passed := by
  cases passed <;> simp [pushEscaped, h]

/-- The three ways to write a code point: an escape of one letter, an escape of four digits for another control, and the code
point as it is. -/
theorem escapedCodePoint_cases (c : CodePoint) :
    (∃ letter, 0x20 ≤ letter ∧ letter ≠ CodePoint.letterU ∧ shortEscape? letter = some c ∧
      escapedCodePoint c = [CodePoint.backslash, letter]) ∨
    (c < 0x20 ∧ escapedCodePoint c = CodePoint.backslash :: CodePoint.letterU :: Text.hexDigits 4 c) ∨
    (0x20 ≤ c ∧ c ≠ CodePoint.quote ∧ c ≠ CodePoint.backslash ∧ escapedCodePoint c = [c]) := by
  unfold escapedCodePoint
  split
  · next h => rcases h with rfl | rfl <;> exact Or.inl ⟨_, by decide, by decide, rfl, rfl⟩
  next hspecial =>
  split
  · next h => exact Or.inl ⟨_, by decide, by decide, by rw [h]; rfl, rfl⟩
  split
  · next h => exact Or.inl ⟨_, by decide, by decide, by rw [h]; rfl, rfl⟩
  split
  · next h => exact Or.inl ⟨_, by decide, by decide, by rw [h]; rfl, rfl⟩
  split
  · next h => exact Or.inl ⟨_, by decide, by decide, by rw [h]; rfl, rfl⟩
  split
  · next h => exact Or.inl ⟨_, by decide, by decide, by rw [h]; rfl, rfl⟩
  split
  · next h => exact Or.inr (Or.inl ⟨h, rfl⟩)
  · next h =>
    obtain ⟨hquote, hbackslash⟩ := not_or.1 hspecial
    exact Or.inr (Or.inr ⟨Nat.le_of_not_lt h, hquote, hbackslash, rfl⟩)

/-- What is written for a code point is read as that code point. -/
theorem readStringFrom_escapedCodePoint (htail : tail ≠ []) :
    readStringFrom opening afterHigh passed (escapedCodePoint c ++ tail) = readStringFrom opening false (c :: passed) tail := by
  obtain ⟨next, rest, rfl⟩ := List.exists_cons_of_ne_nil htail
  rcases escapedCodePoint_cases c with ⟨letter, _, hletter, hvalue, hc⟩ | ⟨hcontrol, hc⟩ | ⟨hraw, hquote, hbackslash, hc⟩
  · rw [hc, List.cons_append, List.singleton_append, readStringFrom, hvalue]
    · exact fun _ _ _ _ _ _ h => absurd h hletter
    · exact fun h => absurd h hletter
  · obtain ⟨hdigits, hvalue⟩ := unicodeEscape?_hexDigits c hcontrol
    obtain ⟨hhigh, hlow⟩ := not_isSurrogate_of_lt c hcontrol
    rw [hc, hdigits]
    simp only [List.cons_append, List.nil_append]
    rw [readStringFrom, hvalue]
    simp only [hhigh, pushEscaped_of_not hlow]
  · rw [hc, List.singleton_append, readStringFrom, if_neg (Nat.not_lt.2 hraw)] <;> simp [hquote, hbackslash]

/-- The code points between the quotes are read one after the other, up to the closing quote. -/
theorem readStringFrom_flatMap (t : Text) : ∀ (afterHigh : Bool) (passed : Text),
    readStringFrom opening afterHigh passed (t.flatMap escapedCodePoint ++ CodePoint.quote :: rest) =
      .ok (passed.reverse ++ t, rest) := by
  induction t with
  | nil =>
    intro afterHigh passed
    rw [List.flatMap_nil, List.nil_append, List.append_nil, readStringFrom]
  | cons c t ih =>
    intro afterHigh passed
    rw [List.flatMap_cons, List.append_assoc, readStringFrom_escapedCodePoint (by simp), ih, List.reverse_cons,
      List.append_assoc, List.singleton_append]

/-- A string literal is read as the text it was written for, after its opening quote. -/
theorem readString_write (t : Text) :
    readString (t.flatMap escapedCodePoint ++ CodePoint.quote :: rest) = .ok (t, rest) :=
  readStringFrom_flatMap t false []

/-! ### No controls -/

/-- What is written for a code point holds no control. -/
theorem space_le_of_mem_escapedCodePoint : ∀ x ∈ escapedCodePoint c, 0x20 ≤ x := by
  have hdigits : ∀ c < 0x20, ∀ x ∈ Text.hexDigits 4 c, 0x20 ≤ x := by decide
  rcases escapedCodePoint_cases c with ⟨letter, hletter, _, _, hc⟩ | ⟨hcontrol, hc⟩ | ⟨hraw, _, _, hc⟩
  · rw [hc, List.forall_mem_cons, List.forall_mem_singleton]
    exact ⟨by decide, hletter⟩
  · rw [hc, List.forall_mem_cons, List.forall_mem_cons]
    exact ⟨by decide, by decide, hdigits c hcontrol⟩
  · rw [hc, List.forall_mem_singleton]
    exact hraw

/-- A string literal holds no control. -/
theorem space_le_of_mem_writeString (t : Text) : ∀ x ∈ writeString t, 0x20 ≤ x := by
  intro x hx
  simp only [writeString, List.cons_append, List.mem_cons, List.mem_append, List.mem_flatMap, List.not_mem_nil, or_false] at hx
  rcases hx with rfl | ⟨c, _, hx⟩ | rfl
  · decide
  · exact space_le_of_mem_escapedCodePoint x hx
  · decide

end Descriptors.Json
