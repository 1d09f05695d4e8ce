import Descriptors.Json.Writer
import Descriptors.Proofs.Json.Literals
import Descriptors.Proofs.Text.Pieces

/-!
# What written JSON looks like

The values that can be read back are those whose numbers are integers of a length that is read (`Json.Exact`) and whose
nesting (`Json.nesting`) is not too deep. What is written of such a value starts with a code point that shows what follows
(`Json.exists_write_eq_cons`): no white space, no bracket that closes an array. Containers are written piece by piece with
commas between the pieces, hence they are longer than each piece and than the number of pieces.
-/

namespace Descriptors.Json

variable {v : Json} {c : CodePoint} {s : Text} {items : List Json} {entries : Entries Json} {depth : Nat}

/-! ## The values that can be read back -/

mutual

/-- Every number, at any depth, is an integer with no more digits than are read. -/
def Exact : Json → Prop
  | .int n => (Decimal.digits n.natAbs).length ≤ greatestDigits
  | .float _ => False
  | .array items => ItemsExact items
  | .object entries => EntriesExact entries
  | _ => True

/-- `Exact` for each item of a list. -/
def ItemsExact : List Json → Prop
  | [] => True
  | v :: items => Exact v ∧ ItemsExact items

/-- `Exact` for the value of each pair. -/
def EntriesExact : List (Text × Json) → Prop
  | [] => True
  | (_, v) :: entries => Exact v ∧ EntriesExact entries

end

theorem itemsExact_iff : ItemsExact items ↔ ∀ v ∈ items, v.Exact := by
  induction items with
  | nil => simp [ItemsExact]
  | cons v items ih => simp [ItemsExact, ih]

theorem entriesExact_iff : EntriesExact entries ↔ ∀ e ∈ entries, e.2.Exact := by
  induction entries with
  | nil => simp [EntriesExact]
  | cons e entries ih => simp [EntriesExact, ih]

theorem itemsNesting_le_iff : itemsNesting items ≤ depth ↔ ∀ v ∈ items, v.nesting ≤ depth := by
  induction items with
  | nil => simp [itemsNesting]
  | cons v items ih => rw [itemsNesting, Nat.max_le, ih, List.forall_mem_cons]

theorem entriesNesting_le_iff : entriesNesting entries ≤ depth ↔ ∀ e ∈ entries, e.2.nesting ≤ depth := by
  induction entries with
  | nil => simp [entriesNesting]
  | cons e entries ih => rw [entriesNesting, Nat.max_le, ih, List.forall_mem_cons]

/-- The items of an array have one level less. -/
theorem nesting_array_le_iff : (Json.array items).nesting ≤ depth + 1 ↔ ∀ v ∈ items, v.nesting ≤ depth := by
  rw [nesting, Nat.add_le_add_iff_right, itemsNesting_le_iff]

/-- The values of an object have one level less. -/
theorem nesting_object_le_iff : (Json.object entries).nesting ≤ depth + 1 ↔ ∀ e ∈ entries, e.2.nesting ≤ depth := by
  rw [nesting, Nat.add_le_add_iff_right, entriesNesting_le_iff]

/-! ## The front of what is written -/

/-- A code point that a written value may start with. -/
def Opens (c : CodePoint) : Prop := 0x20 < c ∧ c < 0x80 ∧ c ≠ CodePoint.closeBracket

instance (c : CodePoint) : Decidable (Opens c) := inferInstanceAs (Decidable (_ ∧ _ ∧ _))

theorem Opens.of_isDigit (h : c.isDigit = true) : Opens c := by
  have hrange : ∀ d < 0x80, CodePoint.isDigit d = true → 0x20 < d ∧ d ≠ CodePoint.closeBracket := by decide
  have hc : c < 0x80 := by
    simp only [CodePoint.isDigit, Bool.and_eq_true, decide_eq_true_eq] at h
    exact Nat.lt_of_le_of_lt h.2 (by decide)
  exact ⟨(hrange c hc h).1, hc, (hrange c hc h).2⟩

/-- What is written of a value starts with a code point that is no blank and closes no array. -/
theorem exists_write_eq_cons (h : v.Exact) : ∃ c s, write v = c :: s ∧ Opens c := by
  cases v with
  | null => exact ⟨CodePoint.letterN, _, rfl, by decide⟩
  | bool b =>
    cases b with
    | true => exact ⟨CodePoint.letterT, _, rfl, by decide⟩
    | false => exact ⟨CodePoint.letterF, _, rfl, by decide⟩
  | int n =>
    obtain ⟨c, s, hs, hc | rfl⟩ := exists_ofInt_eq_cons n
    · exact ⟨c, s, hs, .of_isDigit hc⟩
    · exact ⟨CodePoint.dash, s, hs, by decide⟩
  | float x => cases h
  | string t => exact ⟨CodePoint.quote, _, rfl, by decide⟩
  | array items => exact ⟨CodePoint.openBracket, _, rfl, by decide⟩
  | object entries => exact ⟨CodePoint.openBrace, _, rfl, by decide⟩

/-- No white space stands in front of a code point above the blanks. -/
theorem skipBlanks_cons (h : 0x20 < c) : skipBlanks (c :: s) = c :: s := by
  have hblank : ∀ b, isBlank b = true → b ≤ 0x20 := by
    intro b hb
    simp only [isBlank, Bool.or_eq_true, beq_iff_eq] at hb
    rcases hb with ((rfl | rfl) | rfl) | rfl <;> decide
  have hc : isBlank c = false := by
    cases hb : isBlank c with
    | false => rfl
    | true => exact absurd (hblank c hb) (Nat.not_le.2 h)
  rw [skipBlanks, List.dropWhile_cons, hc]
  rfl

/-- No white space stands in front of a written value. -/
theorem skipBlanks_write (h : v.Exact) : skipBlanks (write v ++ s) = write v ++ s := by
  obtain ⟨c, s', hs, hc⟩ := exists_write_eq_cons h
  rw [hs, List.cons_append, skipBlanks_cons hc.1]

/-! ## Pieces and lengths -/

theorem writeItems_cons_cons (v w : Json) (items : List Json) :
    writeItems (v :: w :: items) = write v ++ CodePoint.comma :: writeItems (w :: items) := by
  rw [writeItems]
  exact List.cons_ne_nil w items

/-- A pair as it is written. -/
def writeEntry (e : Text × Json) : Text := writeString e.1 ++ CodePoint.colon :: write e.2

theorem writeEntries_singleton (e : Text × Json) : writeEntries [e] = writeEntry e := by
  rw [writeEntries, writeEntry]

theorem writeEntries_cons_cons (e e' : Text × Json) (entries : Entries Json) :
    writeEntries (e :: e' :: entries) = writeEntry e ++ CodePoint.comma :: writeEntries (e' :: entries) := by
  rw [writeEntries, writeEntry]
  exact List.cons_ne_nil e' entries

/-- The items are written with commas between them. -/
theorem writeItems_eq_joinWith (items : List Json) :
    writeItems items = Text.joinWith [CodePoint.comma] (items.map write) := by
  rw [Text.joinWith]
  induction items with
  | nil => rfl
  | cons v items ih =>
    cases items with
    | nil => rw [writeItems, List.map_singleton, List.intercalate_singleton]
    | cons w items =>
      rw [writeItems_cons_cons, ih]
      simp [List.intercalate_cons_cons]

/-- The pairs are written with commas between them. -/
theorem writeEntries_eq_joinWith (entries : Entries Json) :
    writeEntries entries = Text.joinWith [CodePoint.comma] (entries.map writeEntry) := by
  rw [Text.joinWith]
  induction entries with
  | nil => rfl
  | cons e entries ih =>
    cases entries with
    | nil => rw [writeEntries_singleton, List.map_singleton, List.intercalate_singleton]
    | cons e' entries =>
      rw [writeEntries_cons_cons, ih]
      simp [List.intercalate_cons_cons]

/-- Written items are at least as long as their number. -/
theorem length_le_writeItems (h : ∀ v ∈ items, v.Exact) : items.length ≤ (writeItems items).length := by
  rw [writeItems_eq_joinWith, ← List.length_map write]
  refine Text.length_le_joinWith fun p hp => ?_
  obtain ⟨v, hv, rfl⟩ := List.mem_map.1 hp
  obtain ⟨c, s, hs, _⟩ := exists_write_eq_cons (h v hv)
  rw [hs]
  exact List.cons_ne_nil c s

/-- Written items are at least as long as each of them. -/
theorem write_length_le_writeItems (h : v ∈ items) : (write v).length ≤ (writeItems items).length := by
  rw [writeItems_eq_joinWith]
  exact Text.length_le_of_mem_joinWith (List.mem_map_of_mem h)

/-- Written pairs are at least as long as their number. -/
theorem length_le_writeEntries (entries : Entries Json) : entries.length ≤ (writeEntries entries).length := by
  rw [writeEntries_eq_joinWith, ← List.length_map writeEntry]
  refine Text.length_le_joinWith fun p hp => ?_
  obtain ⟨e, _, rfl⟩ := List.mem_map.1 hp
  exact List.cons_ne_nil _ _

/-- Written pairs are at least as long as each of their values. -/
theorem write_length_le_writeEntries {e : Text × Json} (h : e ∈ entries) :
    (write e.2).length ≤ (writeEntries entries).length := by
  have hentry : (write e.2).length ≤ (writeEntry e).length := by
    rw [writeEntry, List.length_append, List.length_cons]
    omega
  rw [writeEntries_eq_joinWith]
  exact Nat.le_trans hentry (Text.length_le_of_mem_joinWith (List.mem_map_of_mem h))

end Descriptors.Json
