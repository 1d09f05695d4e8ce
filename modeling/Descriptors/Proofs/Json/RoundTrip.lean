import Descriptors.Proofs.Json.Literals
import Descriptors.Proofs.Json.Progress
import Descriptors.Proofs.Json.ReadInvariant
import Descriptors.Proofs.Json.Written

/-!
# JSON is read as it is written

The reader takes a written value back and leaves what stands behind it, whatever that is, as long as a number does not go on
with it (`Json.ReadsBack`). Items and pairs are read back one after the other, by induction on the list; a container is read
back one level above its parts (`Json.readsBack_array`, `Json.readsBack_object`), hence every value where the reader has room
for it (`Json.readsBack_of_keysDistinct`). A whole text follows (`Json.read_write`), and that no two values are written alike
(`Json.write_injective`).
-/

namespace Descriptors.Json

variable {v : Json} {rest : Text} {items passed : List Json} {entries : Entries Json} {readOne : Text → Reading Json}
  {bound depth : Nat}

/-- A reader takes a written value back, whatever follows that a number does not go on with. -/
def ReadsBack (readOne : Text → Reading Json) (v : Json) : Prop :=
  ∀ rest, EndsNumber rest → readOne (write v ++ rest) = .ok (v, rest)

/-! ## Arrays -/

/-- The items start as the first of them does. -/
theorem exists_writeItems_eq_cons (items : List Json) (hv : v.Exact) : ∃ c s, writeItems (v :: items) = c :: s ∧ Opens c := by
  obtain ⟨c, s, hs, hc⟩ := exists_write_eq_cons hv
  cases items with
  | nil => exact ⟨c, s, by rw [writeItems, hs], hc⟩
  | cons w items =>
    exact ⟨c, s ++ CodePoint.comma :: writeItems (w :: items), by rw [writeItems_cons_cons, hs, List.cons_append], hc⟩

/-- An item is read back, and what follows it is looked at. -/
theorem readItems_write (hv : ReadsBack readOne v) (hrest : EndsNumber rest) :
    readItems readOne (bound + 1) passed (write v ++ rest) = afterItem readOne bound (v :: passed) rest := by
  rw [readItems, hv rest hrest]
  rfl

/-- An item in front of the closing bracket is the last one. -/
theorem readItems_close (hv : ReadsBack readOne v) :
    readItems readOne (bound + 1) passed (write v ++ CodePoint.closeBracket :: rest) = .ok ((v :: passed).reverse, rest) := by
  rw [readItems_write hv (endsNumber_cons (by decide)), afterItem, skipBlanks_cons (by decide)]
  rfl

/-- After an item in front of a comma the next one is read. -/
theorem readItems_comma (hv : ReadsBack readOne v) :
    readItems readOne (bound + 1) passed (write v ++ CodePoint.comma :: rest) =
      readItems readOne bound (v :: passed) (skipBlanks rest) := by
  rw [readItems_write hv (endsNumber_cons (by decide)), afterItem, skipBlanks_cons (by decide)]
  rfl

/-- The items of an array are read back one after the other. -/
theorem readItems_writeItems (rest : Text) (hne : items ≠ []) (hexact : ∀ v ∈ items, v.Exact)
    (hitems : ∀ v ∈ items, ReadsBack readOne v) : ∀ (bound : Nat) (passed : List Json), items.length ≤ bound →
      readItems readOne bound passed (writeItems items ++ CodePoint.closeBracket :: rest) =
        .ok (passed.reverse ++ items, rest) := by
  induction items with
  | nil => exact absurd rfl hne
  | cons v items ih =>
    intro bound passed hbound
    obtain ⟨hv, hitems⟩ := List.forall_mem_cons.1 hitems
    obtain ⟨bound, rfl⟩ : ∃ b, bound = b + 1 := Nat.exists_eq_add_one.2 (Nat.lt_of_lt_of_le (Nat.zero_lt_succ _) hbound)
    cases items with
    | nil => rw [writeItems, readItems_close hv, List.reverse_cons]
    | cons w items =>
      obtain ⟨_, hexact⟩ := List.forall_mem_cons.1 hexact
      obtain ⟨c, s, hs, hc⟩ := exists_writeItems_eq_cons items (List.forall_mem_cons.1 hexact).1
      have hlater := ih (List.cons_ne_nil w items) hexact hitems bound (v :: passed) (Nat.le_of_succ_le_succ hbound)
      rw [hs, List.cons_append] at hlater
      rw [writeItems_cons_cons, hs, List.append_assoc, List.cons_append, List.cons_append, readItems_comma hv,
        skipBlanks_cons hc.1, hlater, List.reverse_cons, List.append_assoc, List.singleton_append]

/-- An array is read back when its items are. -/
theorem readArray_writeItems (rest : Text) (hexact : ∀ v ∈ items, v.Exact) (hitems : ∀ v ∈ items, ReadsBack readOne v)
    (hbound : items.length ≤ bound) :
    readArray readOne bound (writeItems items ++ CodePoint.closeBracket :: rest) = .ok (.array items, rest) := by
  cases items with
  | nil =>
    rw [writeItems, List.nil_append, readArray, skipBlanks_cons (by decide)]
    rfl
  | cons v items =>
    obtain ⟨c, s, hs, hc⟩ := exists_writeItems_eq_cons items (List.forall_mem_cons.1 hexact).1
    have hread := readItems_writeItems rest (List.cons_ne_nil v items) hexact hitems bound [] hbound
    rw [hs, List.cons_append] at hread ⊢
    rw [readArray, skipBlanks_cons hc.1]
    split
    · next h => exact absurd (List.cons.inj h).1 hc.2.2
    · rw [hread]
      rfl

/-! ## Objects -/

/-- The pairs start with the quote of the first key. -/
theorem exists_writeEntries_eq_cons (e : Text × Json) (entries : Entries Json) :
    ∃ s, writeEntries (e :: entries) = CodePoint.quote :: s := by
  cases entries with
  | nil => exact ⟨_, writeEntries_singleton e⟩
  | cons e' entries => exact ⟨_, writeEntries_cons_cons e e' entries⟩

/-- A key and its value are read back, and what follows them is looked at. -/
theorem readPairs_writeEntry {passed : Entries Json} {e : Text × Json} (hexact : e.2.Exact) (he : ReadsBack readOne e.2)
    (hrest : EndsNumber rest) :
    readPairs readOne (bound + 1) passed (writeEntry e ++ rest) = afterPair readOne bound (e :: passed) rest := by
  have hfront : writeEntry e ++ rest =
      CodePoint.quote :: (e.1.flatMap escapedCodePoint ++ CodePoint.quote :: CodePoint.colon :: (write e.2 ++ rest)) := by
    simp [writeEntry, writeString]
  rw [hfront, readPairs, readString_write]
  dsimp only
  rw [skipBlanks_cons (by decide)]
  split
  · next heq =>
    obtain ⟨_, rfl⟩ := List.cons.inj heq
    rw [skipBlanks_write hexact, he rest hrest]
    rfl
  · next hne => exact absurd rfl (hne _)

/-- A pair in front of the closing brace is the last one. -/
theorem readPairs_close {passed : Entries Json} {e : Text × Json} (hexact : e.2.Exact) (he : ReadsBack readOne e.2) :
    readPairs readOne (bound + 1) passed (writeEntry e ++ CodePoint.closeBrace :: rest) =
      .ok ((e :: passed).reverse, rest) := by
  rw [readPairs_writeEntry hexact he (endsNumber_cons (by decide)), afterPair, skipBlanks_cons (by decide)]
  rfl

/-- After a pair in front of a comma the next one is read. -/
theorem readPairs_comma {passed : Entries Json} {e : Text × Json} (hexact : e.2.Exact) (he : ReadsBack readOne e.2) :
    readPairs readOne (bound + 1) passed (writeEntry e ++ CodePoint.comma :: rest) =
      readPairs readOne bound (e :: passed) (skipBlanks rest) := by
  rw [readPairs_writeEntry hexact he (endsNumber_cons (by decide)), afterPair, skipBlanks_cons (by decide)]
  rfl

/-- The pairs of an object are read back one after the other. -/
theorem readPairs_writeEntries (rest : Text) (hne : entries ≠ []) (hexact : ∀ e ∈ entries, e.2.Exact)
    (hentries : ∀ e ∈ entries, ReadsBack readOne e.2) : ∀ (bound : Nat) (passed : Entries Json), entries.length ≤ bound →
      readPairs readOne bound passed (writeEntries entries ++ CodePoint.closeBrace :: rest) =
        .ok (passed.reverse ++ entries, rest) := by
  induction entries with
  | nil => exact absurd rfl hne
  | cons e entries ih =>
    intro bound passed hbound
    obtain ⟨he, hentries⟩ := List.forall_mem_cons.1 hentries
    obtain ⟨hvalue, hexact⟩ := List.forall_mem_cons.1 hexact
    obtain ⟨bound, rfl⟩ : ∃ b, bound = b + 1 := Nat.exists_eq_add_one.2 (Nat.lt_of_lt_of_le (Nat.zero_lt_succ _) hbound)
    cases entries with
    | nil => rw [writeEntries_singleton, readPairs_close hvalue he, List.reverse_cons]
    | cons e' entries =>
      obtain ⟨s, hs⟩ := exists_writeEntries_eq_cons e' entries
      have hlater := ih (List.cons_ne_nil e' entries) hexact hentries bound (e :: passed) (Nat.le_of_succ_le_succ hbound)
      rw [hs, List.cons_append] at hlater
      rw [writeEntries_cons_cons, hs, List.append_assoc, List.cons_append, List.cons_append, readPairs_comma hvalue he,
        skipBlanks_cons (by decide), hlater, List.reverse_cons, List.append_assoc, List.singleton_append]

/-- An object without a repeated key is read back when its values are. -/
theorem readObject_writeEntries (rest : Text) (hkeys : (Entries.keys entries).Nodup) (hexact : ∀ e ∈ entries, e.2.Exact)
    (hentries : ∀ e ∈ entries, ReadsBack readOne e.2) (hbound : entries.length ≤ bound) :
    readObject readOne bound (writeEntries entries ++ CodePoint.closeBrace :: rest) = .ok (.object entries, rest) := by
  cases entries with
  | nil =>
    rw [writeEntries, List.nil_append, readObject, skipBlanks_cons (by decide)]
    rfl
  | cons e entries =>
    obtain ⟨s, hs⟩ := exists_writeEntries_eq_cons e entries
    have hread := readPairs_writeEntries rest (List.cons_ne_nil e entries) hexact hentries bound [] hbound
    rw [hs, List.cons_append] at hread ⊢
    rw [readObject, skipBlanks_cons (by decide)]
    change (readPairs readOne bound [] _).map _ = _
    rw [hread, List.reverse_nil, List.nil_append]
    change Except.ok (Json.object (Entries.putAll [] (e :: entries)), rest) = _
    rw [Entries.putAll_nil hkeys]

/-! ## Values -/

variable {array object : Text → Reading Json}

/-- No word starts as an integer does: none with a digit, and the one with a dash goes on with a letter. -/
theorem readWord?_ofInt (i : Int) : readWord? (Text.ofInt i ++ rest) = none := by
  have hne : ∀ w ∈ words, w.1 ≠ [] := by decide
  have hfirst : ∀ w ∈ words, ∀ c ∈ w.1.head?, c.isDigit = false := by decide
  have hsecond : ∀ w ∈ words, w.1.head? = some CodePoint.dash → ∃ c ∈ w.1.tail.head?, c.isDigit = false := by decide
  rw [readWord?, List.findSome?_eq_none_iff]
  intro w hw
  rw [Option.map_eq_none_iff, Option.eq_none_iff_forall_ne_some]
  intro s hs
  have hprefix := List.append_eq_of_isPrefixOf?_eq_some hs
  obtain ⟨x, xs, hx⟩ := List.exists_cons_of_ne_nil (hne w hw)
  cases i with
  | ofNat n =>
    obtain ⟨c, digits, hdigits, hc⟩ := exists_ofNat_eq_cons n
    have hxc : x = c := by
      change w.1 ++ s = Text.ofNat n ++ rest at hprefix
      rw [hx, hdigits] at hprefix
      exact (List.cons.inj hprefix).1
    have hnot := hfirst w hw x (by rw [hx]; rfl)
    rw [hxc, hc] at hnot
    cases hnot
  | negSucc n =>
    obtain ⟨c, digits, hdigits, hc⟩ := exists_ofNat_eq_cons (n + 1)
    change w.1 ++ s = CodePoint.dash :: Text.ofNat (n + 1) ++ rest at hprefix
    rw [hx, hdigits] at hprefix
    obtain ⟨hdash, hprefix⟩ := List.cons.inj hprefix
    obtain ⟨y, hy, hnot⟩ := hsecond w hw (by rw [hx, hdash]; rfl)
    rw [hx, List.tail_cons, Option.mem_def, List.head?_eq_some_iff] at hy
    obtain ⟨ys, rfl⟩ := hy
    rw [(List.cons.inj hprefix).1, hc] at hnot
    cases hnot

/-- An integer is read as a number: it starts as no string, array, object or word does. -/
theorem readsBack_int {i : Int} (h : (Decimal.digits i.natAbs).length ≤ greatestDigits) :
    ReadsBack (readValueBy array object) (.int i) := by
  intro rest hrest
  obtain ⟨c, s, hs, hc⟩ := exists_ofInt_eq_cons i
  have hopen : ∀ d ∈ [CodePoint.quote, CodePoint.openBracket, CodePoint.openBrace], c ≠ d := by
    rintro d hd rfl
    simp only [List.mem_cons, List.not_mem_nil, or_false] at hd
    rcases hd with rfl | rfl | rfl <;> exact absurd hc (by decide)
  -- none of the three other branches of the reader starts like this
  change readValueBy array object (Text.ofInt i ++ rest) = _
  have hnumber : (readWord? (Text.ofInt i ++ rest)).elim (readNumber (Text.ofInt i ++ rest)) .ok = .ok (.int i, rest) := by
    rw [readWord?_ofInt, Option.elim_none, readNumber_ofInt h hrest]
  rw [hs, List.cons_append] at hnumber ⊢
  unfold readValueBy
  split
  · next heq => exact absurd (List.cons.inj heq).1 (hopen _ (by decide))
  · next heq => exact absurd (List.cons.inj heq).1 (hopen _ (by decide))
  · next heq => exact absurd (List.cons.inj heq).1 (hopen _ (by decide))
  · exact hnumber

/-- A string is read back. -/
theorem readsBack_string (t : Text) : ReadsBack (readValueBy array object) (.string t) := by
  intro rest _
  have hfront : write (.string t) ++ rest = CodePoint.quote :: (t.flatMap escapedCodePoint ++ CodePoint.quote :: rest) := by
    simp [write, writeString]
  rw [hfront]
  change (readString _).map _ = _
  rw [readString_write]
  rfl

/-- A scalar is read back whatever depth is left. -/
theorem readsBack_scalar (h : ∀ array object, ReadsBack (readValueBy array object) v) (bound depth : Nat) :
    ReadsBack (readValue bound depth) v := by
  cases depth with
  | zero => exact h _ _
  | succ depth => exact h _ _

/-- An array is read back one level above its items. -/
theorem readsBack_array (hexact : (Json.array items).Exact) (hitems : ∀ v ∈ items, ReadsBack (readValue bound depth) v)
    (hbound : (write (.array items)).length ≤ bound) : ReadsBack (readValue bound (depth + 1)) (.array items) := by
  intro rest _
  rw [Exact, itemsExact_iff] at hexact
  have hlength : items.length ≤ bound := by
    have hitems := length_le_writeItems hexact
    rw [write, List.length_append, List.length_cons] at hbound
    omega
  have hread := readArray_writeItems rest hexact hitems hlength
  have hfront : write (.array items) ++ rest =
      CodePoint.openBracket :: (writeItems items ++ CodePoint.closeBracket :: rest) := by
    simp [write]
  rw [hfront]
  exact hread

/-- An object without a repeated key is read back one level above its values. -/
theorem readsBack_object (hkeys : (Entries.keys entries).Nodup) (hexact : (Json.object entries).Exact)
    (hentries : ∀ e ∈ entries, ReadsBack (readValue bound depth) e.2) (hbound : (write (.object entries)).length ≤ bound) :
    ReadsBack (readValue bound (depth + 1)) (.object entries) := by
  intro rest _
  rw [Exact, entriesExact_iff] at hexact
  have hlength : entries.length ≤ bound := by
    have hentries := length_le_writeEntries entries
    rw [write, List.length_append, List.length_cons] at hbound
    omega
  have hread := readObject_writeEntries rest hkeys hexact hentries hlength
  have hfront : write (.object entries) ++ rest =
      CodePoint.openBrace :: (writeEntries entries ++ CodePoint.closeBrace :: rest) := by
    simp [write]
  rw [hfront]
  exact hread

/-- A value is read back by a reader that has room for it, `bound` for its length and `depth` for its nesting. -/
def FitsBack (bound : Nat) (v : Json) : Prop :=
  v.Exact → (write v).length ≤ bound → ∀ depth, v.nesting ≤ depth → ReadsBack (readValue bound depth) v

/-- Being read back where there is room passes from the parts to the whole: the parts of a container are shorter than it, and
need one level less. -/
theorem inherited_fitsBack (bound : Nat) : Inherited (FitsBack bound) where
  null _ _ depth _ := readsBack_scalar (fun _ _ _ _ => rfl) bound depth
  bool b _ _ depth _ := readsBack_scalar (fun _ _ _ _ => by cases b <;> rfl) bound depth
  int i hexact _ depth _ := readsBack_scalar (fun _ _ => readsBack_int (by rwa [Exact] at hexact)) bound depth
  float x hexact := absurd hexact (by simp [Exact])
  string t _ _ depth _ := readsBack_scalar (fun _ _ => readsBack_string t) bound depth
  array items ih hexact hbound depth hdepth := by
    obtain ⟨depth, rfl⟩ := Nat.exists_eq_add_one.2 (Nat.lt_of_lt_of_le (Nat.zero_lt_succ _) hdepth)
    refine readsBack_array hexact (fun v hv => ?_) hbound
    have hlength := write_length_le_writeItems hv
    rw [write, List.length_append, List.length_cons] at hbound
    rw [Exact, itemsExact_iff] at hexact
    exact ih v hv (hexact v hv) (by omega) depth (nesting_array_le_iff.1 hdepth v hv)
  object entries hkeys ih hexact hbound depth hdepth := by
    obtain ⟨depth, rfl⟩ := Nat.exists_eq_add_one.2 (Nat.lt_of_lt_of_le (Nat.zero_lt_succ _) hdepth)
    refine readsBack_object hkeys hexact (fun e he => ?_) hbound
    have hlength := write_length_le_writeEntries he
    rw [write, List.length_append, List.length_cons] at hbound
    rw [Exact, entriesExact_iff] at hexact
    exact ih e he (hexact e he) (by omega) depth (nesting_object_le_iff.1 hdepth e he)

/-- A value without a repeated key is read back by a reader that has room for it. -/
theorem readsBack_of_keysDistinct (hkeys : v.KeysDistinct) (hexact : v.Exact) (hbound : (write v).length ≤ bound)
    (hdepth : v.nesting ≤ depth) : ReadsBack (readValue bound depth) v :=
  (inherited_fitsBack bound).of_keysDistinct v hkeys hexact hbound depth hdepth

/-! ## Whole texts -/

/-- What is written is read back, as far as nesting is read. -/
theorem read_write (hkeys : v.KeysDistinct) (hexact : v.Exact) (hdepth : v.nesting ≤ greatestDepth) :
    Json.read (write v) = .ok v := by
  have hread := readsBack_of_keysDistinct hkeys hexact (Nat.le_refl _) hdepth [] endsNumber_nil
  have hblanks := skipBlanks_write (s := []) hexact
  rw [List.append_nil] at hread hblanks
  have hwhole : readWhole (write v) = .ok v := by
    unfold readWhole
    split
    · next hmark =>
      obtain ⟨c, s, hs, _, hc, _⟩ := exists_write_eq_cons hexact
      rw [hs] at hmark
      rw [(List.cons.inj hmark).1] at hc
      exact absurd hc (by decide)
    · rw [hblanks, hread]
      rfl
  rw [Json.read, hwhole]

/-- Different values are written differently, however deep they are nested. -/
theorem write_injective {w : Json} (hv : v.KeysDistinct) (hw : w.KeysDistinct) (hv' : v.Exact) (hw' : w.Exact)
    (h : write v = write w) : v = w := by
  have hreadV := readsBack_of_keysDistinct hv hv' (Nat.le_refl _) (Nat.le_max_left v.nesting w.nesting) [] endsNumber_nil
  have hreadW := readsBack_of_keysDistinct hw hw' (Nat.le_refl _) (Nat.le_max_right v.nesting w.nesting) [] endsNumber_nil
  rw [h, hreadW] at hreadV
  exact (congrArg Prod.fst (Except.ok.inj hreadV)).symm

end Descriptors.Json
