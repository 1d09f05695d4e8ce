import Descriptors.Proofs.Table.Resolution

/-!
# Names in another letter case

Names are matched by their small form, which is not taken letter by letter: what a capital sigma becomes depends on the letters
around it. ASCII letters count there as letters in either case, and none of them is a sigma or becomes one, so that texts which
differ in the case of ASCII letters have one small form (`Text.SameButAsciiCase.lower_eq`). So all lookups answer alike for two
such names, and a name that is found is described alike (`Table.lookups_ignore_asciiCase`). A name that is not found goes on to
prefixes, which are compared as they are.
-/

namespace Descriptors

/-- A code point, a capital ASCII letter made small. -/
def CodePoint.smallAscii (c : CodePoint) : CodePoint := if 0x41 ≤ c ∧ c ≤ 0x5A then c + 0x20 else c

/-- Two texts differ at most in the case of ASCII letters. -/
def Text.SameButAsciiCase (s t : Text) : Prop := s.map CodePoint.smallAscii = t.map CodePoint.smallAscii

/-! ## One letter -/

namespace CodePoint

variable {c : CodePoint}

/-- What is made small is one of 26 letters, and becomes the small letter of the same place. -/
theorem smallAscii_cases (c : Nat) : smallAscii c = c ∨ ∃ i < 26, c = 0x41 + i ∧ smallAscii c = 0x61 + i := by
  by_cases h : 0x41 ≤ c ∧ c ≤ 0x5A
  · have hsmall : c + 0x20 = 0x61 + (c - 0x41) := by omega
    exact Or.inr ⟨c - 0x41, by omega, by omega, (if_pos h).trans hsmall⟩
  · exact Or.inl (if_neg h)

/-- What holds alike of small letters and their capitals does not see the case of ASCII letters. -/
theorem apply_smallAscii {α : Type} {f : CodePoint → α} (h : ∀ i < 26, f (0x61 + i) = f (0x41 + i)) (c : CodePoint) :
    f c.smallAscii = f c := by
  rcases smallAscii_cases c with hsame | ⟨i, hi, hc, hsmall⟩
  · rw [hsame]
  · rw [hsmall, hc, h i hi]

theorem isCaseIgnorable_smallAscii (c : CodePoint) : c.smallAscii.isCaseIgnorable = c.isCaseIgnorable :=
  apply_smallAscii (by decide) c

theorem isCased_smallAscii (c : CodePoint) : c.smallAscii.isCased = c.isCased := apply_smallAscii (by decide) c

theorem lower_smallAscii (c : CodePoint) : c.smallAscii.lower = c.lower := apply_smallAscii (by decide) c

theorem smallAscii_eq_capitalSigma_iff : c.smallAscii = capitalSigma ↔ c = capitalSigma := by
  have hsigma : (c.smallAscii == capitalSigma) = (c == capitalSigma) :=
    apply_smallAscii (f := fun c => c == capitalSigma) (by decide) c
  rw [← beq_iff_eq, hsigma, beq_iff_eq]

end CodePoint

/-! ## A text -/

namespace Text

variable {s t : Text}

/-- The letters around a sigma are letters in either case. -/
theorem meetsCased_map_smallAscii (t : Text) : meetsCased (t.map CodePoint.smallAscii) = meetsCased t := by
  have hignorable : CodePoint.isCaseIgnorable ∘ CodePoint.smallAscii = CodePoint.isCaseIgnorable :=
    funext CodePoint.isCaseIgnorable_smallAscii
  rw [meetsCased, meetsCased, List.dropWhile_map, hignorable]
  cases t.dropWhile CodePoint.isCaseIgnorable with
  | nil => rfl
  | cons c rest => exact CodePoint.isCased_smallAscii c

/-- The rest of a text has one small form whether or not the ASCII letters of it, and of what has been passed, are small. -/
theorem lowerAfter_map_smallAscii (t : Text) : ∀ before,
    lowerAfter (before.map CodePoint.smallAscii) (t.map CodePoint.smallAscii) = lowerAfter before t := by
  induction t with
  | nil => exact fun before => rfl
  | cons c rest ih =>
    intro before
    have hrest := ih (c :: before)
    rw [List.map_cons] at hrest
    rw [List.map_cons, lowerAfter, lowerAfter, hrest, endsWord, endsWord, meetsCased_map_smallAscii, meetsCased_map_smallAscii,
      CodePoint.lower_smallAscii]
    simp only [CodePoint.smallAscii_eq_capitalSigma_iff]

/-- Texts that differ in the case of ASCII letters have one small form. -/
theorem SameButAsciiCase.lower_eq (h : s.SameButAsciiCase t) : s.lower = t.lower := by
  have hsmall : ∀ t, lower (t.map CodePoint.smallAscii) = lower t := fun t => lowerAfter_map_smallAscii t []
  rw [← hsmall s, h, hsmall t]

end Text

/-! ## Lookups -/

namespace Table

variable {rows : Table} {m n : Text}

/-- The lookups of a property answer alike for two names. -/
structure AnswersAlike (rows : Table) (m n : Text) : Prop where
  consumerOnly : rows.isConsumerOnly m = rows.isConsumerOnly n
  producerOnly : rows.isProducerOnly m = rows.isProducerOnly n
  required : rows.isRequired m = rows.isRequired n
  deprecated : rows.isDeprecated m = rows.isDeprecated n
  multiValue : rows.isMultiValue m = rows.isMultiValue n
  kind : rows.kind? m = rows.kind? n
  hostType : rows.hostType? m = rows.hostType? n
  defaultValue : rows.defaultValue? m = rows.defaultValue? n
  enum : rows.enum? m = rows.enum? n
  ownPrefix : rows.ownPrefix? m = rows.ownPrefix? n
  type : ∀ type, rows.hasType m type = rows.hasType n type

/-- Names that find the same row have the same answers, all of which are read from it. -/
theorem AnswersAlike.of_property? (h : rows.property? m = rows.property? n) : rows.AnswersAlike m n := by
  have hattribute : rows.attribute? m = rows.attribute? n := by
    funext key
    rw [attribute?, h, attribute?]
  constructor <;> simp only [isConsumerOnly, isProducerOnly, hasLabel, isRequired, isDeprecated, isMultiValue, kind?, hostType?,
    defaultValue?, enum?, ownPrefix?, hasType, hattribute, implies_true]

/-- The case of ASCII letters does not matter for lookups. Two names that differ in nothing else find the same row, every lookup of
a property answers alike for them, and if either of them is found they have the same summary. -/
theorem lookups_ignore_asciiCase (rows : Table) (h : m.SameButAsciiCase n) :
    rows.property? m = rows.property? n ∧ rows.AnswersAlike m n ∧
    ((rows.property? m).isSome ∨ (rows.property? n).isSome → rows.describe? m = rows.describe? n) := by
  have hproperty : rows.property? m = rows.property? n := property?_congr rows h.lower_eq
  refine ⟨hproperty, .of_property? hproperty, fun hfound => ?_⟩
  rw [← hproperty, or_self] at hfound
  obtain ⟨r, hr⟩ := Option.isSome_iff_exists.1 hfound
  exact describe?_congr hr (hproperty.symm.trans hr)

/-- Between ASCII letters, and with a full stop in between, a capital sigma does not end a word; without them it does. -/
example : Text.lower "AΣ.b" = Text.ofString "aσ.b" ∧ Text.lower "aΣ" = Text.ofString "aς" := by decide

/-- A name with a sigma at its end is found and described in either case of the letter before it. -/
theorem lookups_ignore_asciiCase_sigma :
    Text.SameButAsciiCase "AΣ" "aΣ" ∧
    Table.describe? [OrderedMap.ofPairs [(Row.nameKey, "aς"), (Row.kindKey, "path")]] "AΣ" =
      Table.describe? [OrderedMap.ofPairs [(Row.nameKey, "aς"), (Row.kindKey, "path")]] "aΣ" := by
  have hsame : Text.SameButAsciiCase "AΣ" "aΣ" := by
    rw [Text.SameButAsciiCase]
    decide
  exact ⟨hsame, (lookups_ignore_asciiCase _ hsame).2.2 (Or.inl (by decide))⟩

end Table

end Descriptors
