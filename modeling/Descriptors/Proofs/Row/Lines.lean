import Descriptors.Row
import Descriptors.Proofs.Json.RoundTrip

/-!
# Rows are printed without loss

A row is printed as a JSON object of strings (`Row.toJson`), in which every control is escaped, so it stays on its line
(`Row.lineFeed_notMem_toLine`), and which is read back with its keys in order (`Row.read_toLine`). Hence the lines of the
printed rows are taken apart at the line feeds and each gives its row again (`Row.toLines_lossless`), whatever code points
keys and values hold.
-/

namespace Descriptors.Row

/-- A row as a JSON object of strings, its keys in order. -/
def toJson (r : Row) : Json := .object (r.entries.map fun (k, v) => (k, .string v))

/-- Different rows are different objects. -/
theorem toJson_injective : Function.Injective toJson := by
  intro r s h
  have hpair : Function.Injective fun e : Text × Text => ((e.1, Json.string e.2) : Text × Json) := by
    rintro ⟨k, v⟩ ⟨k', v'⟩ h
    obtain ⟨hk, hv⟩ := Prod.mk.inj h
    exact Prod.ext hk (Json.string.inj hv)
  exact OrderedMap.ext (List.map_injective_iff.2 hpair (Json.object.inj h))

/-! ## One row -/

/-- No key of a row comes twice. -/
theorem keysDistinct_toJson (r : Row) : r.toJson.KeysDistinct := by
  have hkeys : Entries.keys (r.entries.map fun (k, v) => (k, Json.string v)) = r.keys := Entries.keys_map Json.string r.entries
  rw [toJson, Json.keysDistinct_object_iff, hkeys]
  refine ⟨r.distinct, fun e he => ?_⟩
  obtain ⟨_, _, rfl⟩ := List.mem_map.1 he
  simp [Json.KeysDistinct]

/-- A row holds no number. -/
theorem exact_toJson (r : Row) : r.toJson.Exact := by
  rw [toJson, Json.Exact, Json.entriesExact_iff]
  intro e he
  obtain ⟨_, _, rfl⟩ := List.mem_map.1 he
  simp [Json.Exact]

/-- A row is nested one deep. -/
theorem nesting_toJson_le (r : Row) : r.toJson.nesting ≤ Json.greatestDepth := by
  have hentries : Json.entriesNesting (r.entries.map fun (k, v) => (k, Json.string v)) ≤ 0 := by
    rw [Json.entriesNesting_le_iff]
    intro e he
    obtain ⟨_, _, rfl⟩ := List.mem_map.1 he
    simp [Json.nesting]
  rw [toJson, Json.nesting]
  exact Nat.le_trans (Nat.succ_le_succ hentries) (by decide)

/-- A printed row is read back with the same keys in the same order. -/
theorem read_toLine (r : Row) : Json.read r.toLine = .ok r.toJson :=
  Json.read_write (keysDistinct_toJson r) (exact_toJson r) (nesting_toJson_le r)

/-- A printed row stays on its line. -/
theorem lineFeed_notMem_toLine (r : Row) : CodePoint.lineFeed ∉ r.toLine := by
  have hentry : ∀ e ∈ r.entries.map fun (k, v) => (k, Json.string v), ∀ x ∈ Json.writeEntry e, CodePoint.space ≤ x := by
    intro e he x hx
    obtain ⟨⟨k, v⟩, _, rfl⟩ := List.mem_map.1 he
    rw [Json.writeEntry, List.mem_append, List.mem_cons] at hx
    rcases hx with hx | rfl | hx
    · exact Json.space_le_of_mem_writeString k x hx
    · decide
    · rw [Json.write] at hx
      exact Json.space_le_of_mem_writeString v x hx
  have hline : ∀ x ∈ r.toLine, CodePoint.space ≤ x := by
    intro x hx
    rw [toLine, Json.write, Json.writeEntries_eq_joinWith] at hx
    simp only [List.cons_append, List.mem_cons, List.mem_append, List.not_mem_nil, or_false] at hx
    rcases hx with rfl | hx | rfl
    · decide
    · rcases Text.mem_of_mem_joinWith hx with hx | ⟨p, hp, hx⟩
      · rw [List.mem_singleton.1 hx]
        decide
      · obtain ⟨e, he, rfl⟩ := List.mem_map.1 hp
        exact hentry e he x hx
    · decide
  exact fun h => absurd (hline _ h) (by decide)

/-- Different rows are printed differently. -/
theorem toLine_injective : Function.Injective toLine := by
  intro r s h
  have hread := read_toLine r
  rw [h, read_toLine s] at hread
  exact (toJson_injective (Except.ok.inj hread)).symm

/-! ## Many rows -/

/-- Printed rows are the printed row of each with its end. -/
theorem toLines_eq_flatMap (rows : List Row) : toLines rows = (rows.map toLine).flatMap (· ++ [CodePoint.lineFeed]) := by
  rw [toLines, List.flatMap_map]

/-- No line holds a line feed of its own. -/
theorem lineFeed_notMem_lines (rows : List Row) : ∀ l ∈ rows.map toLine, CodePoint.lineFeed ∉ l := by
  intro l hl
  obtain ⟨r, _, rfl⟩ := List.mem_map.1 hl
  exact lineFeed_notMem_toLine r

/-- The lines of printed rows are taken apart at the line feeds. -/
theorem splitAt_toLines (rows : List Row) : Text.splitAt CodePoint.lineFeed (toLines rows) = rows.map toLine ++ [[]] := by
  rw [toLines_eq_flatMap, Text.splitAt_flatMap (lineFeed_notMem_lines rows)]

/-- Rows are printed without loss: nothing for no rows; else the text ends with a line feed and holds one for each row. Taken
apart at the line feeds it gives a line for each row, and the lines are read as the rows, with their keys in order. So
different lists of rows are printed differently. -/
theorem toLines_lossless :
    (∀ rows : List Row,
      (toLines rows = [] ↔ rows = []) ∧
      (rows ≠ [] → (toLines rows).getLast? = some CodePoint.lineFeed) ∧
      (toLines rows).count CodePoint.lineFeed = rows.length ∧
      ∃ lines, Text.splitAt CodePoint.lineFeed (toLines rows) = lines ++ [[]] ∧
        lines.map Json.read = rows.map fun r => .ok r.toJson) ∧
    Function.Injective toLines := by
  refine ⟨fun rows => ⟨?_, ?_, ?_, rows.map toLine, splitAt_toLines rows, ?_⟩, ?_⟩
  · rw [toLines, List.flatMap_eq_nil_iff]
    constructor
    · intro h
      refine List.eq_nil_iff_forall_not_mem.2 fun r hr => ?_
      exact absurd (h r hr) (by simp)
    · rintro rfl
      simp
  · intro h
    obtain ⟨rows, r, rfl⟩ := (List.eq_nil_or_concat rows).resolve_left h
    rw [toLines, List.concat_eq_append, List.flatMap_append]
    simp
  · rw [toLines_eq_flatMap, Text.count_flatMap (lineFeed_notMem_lines rows), List.length_map]
  · rw [List.map_map]
    exact List.map_congr_left fun r _ => read_toLine r
  · intro rows rows' h
    have hlines := splitAt_toLines rows
    rw [h, splitAt_toLines rows'] at hlines
    exact List.map_injective_iff.2 toLine_injective (List.append_cancel_right hlines).symm

end Descriptors.Row
