import Descriptors.Proofs.Json.ReadInvariant
import Descriptors.Proofs.Json.Written

/-!
# Scalars and keys at every depth

A property of scalars and one of keys hold of a value when they hold of all its scalars and keys, at every depth (`Json.Each`).
Such are having no float (`Json.FloatFree`) and having no integer that is too long to be read (`Json.Readable`); together they
are what `Json.Exact` says, and every value that is read has the second, with no more nesting than is read
(`Json.withinLimits_of_read`).

Strings and keys may be changed throughout a value (`Json.mapText`). What makes a value fit to be read back stays: exact numbers,
nesting and, where no two texts become one, distinct keys.
-/

namespace Descriptors.Json

variable {v : Json} {t : Text} {items : List Json} {entries : Entries Json} {p : Json → Prop} {q : Text → Prop}
  {f : Text → Text}

mutual

/-- A property of scalars and one of keys hold at every depth. -/
def Each (p : Json → Prop) (q : Text → Prop) : Json → Prop
  | .array items => ItemsEach p q items
  | .object entries => EntriesEach p q entries
  | v => p v

/-- `Each` for each item of a list. -/
def ItemsEach (p : Json → Prop) (q : Text → Prop) : List Json → Prop
  | [] => True
  | v :: items => Each p q v ∧ ItemsEach p q items

/-- `Each` for the value of each pair, and the property of keys for its key. -/
def EntriesEach (p : Json → Prop) (q : Text → Prop) : List (Text × Json) → Prop
  | [] => True
  | (k, v) :: entries => q k ∧ Each p q v ∧ EntriesEach p q entries

end

/-- A scalar has just itself. -/
theorem each_of_isScalar (hv : v.IsScalar) : v.Each p q ↔ p v := by
  cases v <;> simp_all [IsScalar, Each]

/-- An array has what its items have. -/
theorem each_array_iff : (Json.array items).Each p q ↔ ∀ v ∈ items, v.Each p q := by
  rw [Each]
  induction items with
  | nil => simp [ItemsEach]
  | cons v items ih => simp [ItemsEach, ih]

/-- An object has its keys, and what its values have. -/
theorem each_object_iff : (Json.object entries).Each p q ↔ ∀ e ∈ entries, q e.1 ∧ e.2.Each p q := by
  rw [Each]
  induction entries with
  | nil => simp [EntriesEach]
  | cons e entries ih => simp [EntriesEach, ih, and_assoc]

/-! ## Numbers and nesting -/

/-- No number is a float, at any depth. -/
def FloatFree : Json → Prop := Each (fun v => ∀ x, v ≠ .float x) fun _ => True

/-- No integer has more digits than are read, at any depth. -/
def Readable : Json → Prop :=
  Each (fun v => ∀ n, v = .int n → (Decimal.digits n.natAbs).length ≤ greatestDigits) fun _ => True

/-- A value that keeps to the limits of the reader, of digits and of nesting. -/
structure WithinLimits (v : Json) : Prop where
  readable : v.Readable
  nesting : v.nesting ≤ greatestDepth

/-- A value without floats is exact when its integers are not too long. -/
theorem exact_of_floatFree (hkeys : v.KeysDistinct) : v.FloatFree → (v.Exact ↔ v.Readable) := by
  have hall : Inherited fun v => v.FloatFree → (v.Exact ↔ v.Readable) := by
    refine .of_isScalar (fun v hv hfloat => ?_) (fun items ih hfloat => ?_) (fun entries hkeys ih hfloat => ?_)
    · rw [FloatFree, each_of_isScalar hv] at hfloat
      rw [Readable, each_of_isScalar hv]
      cases v <;> simp_all [IsScalar, Exact]
    · rw [FloatFree, each_array_iff] at hfloat
      rw [Readable, each_array_iff, Exact, itemsExact_iff]
      exact forall₂_congr fun v hv => ih v hv (hfloat v hv)
    · rw [FloatFree, each_object_iff] at hfloat
      rw [Readable, each_object_iff, Exact, entriesExact_iff]
      exact forall₂_congr fun e he => (ih e he (hfloat e he).2).trans (and_iff_right trivial).symm
  exact hall.of_keysDistinct v hkeys

/-- Every value that is read keeps to the limits. -/
theorem withinLimits_of_read (h : Json.read t = .ok v) : v.WithinLimits := by
  have hall : InheritedAt fun depth v => v.Readable ∧ v.nesting ≤ depth := {
    null := fun depth => ⟨by simp [Readable, Each], Nat.zero_le _⟩
    bool := fun depth b => ⟨by simp [Readable, Each], Nat.zero_le _⟩
    int := fun depth n hn => ⟨by simpa [Readable, Each] using hn, Nat.zero_le _⟩
    float := fun depth x => ⟨by simp [Readable, Each], Nat.zero_le _⟩
    string := fun depth t => ⟨by simp [Readable, Each], Nat.zero_le _⟩
    array := fun depth items ih => by
      rw [Readable, each_array_iff, nesting_array_le_iff]
      exact ⟨fun v hv => (ih v hv).1, fun v hv => (ih v hv).2⟩
    object := fun depth entries _ ih => by
      rw [Readable, each_object_iff, nesting_object_le_iff]
      exact ⟨fun e he => ⟨trivial, (ih e he).1⟩, fun e he => (ih e he).2⟩ }
  obtain ⟨hreadable, hnesting⟩ := hall.of_read h
  exact ⟨hreadable, hnesting⟩

/-- The values of an object keep to the limits that it keeps to. -/
theorem WithinLimits.of_mem {e : Text × Json} (h : (Json.object entries).WithinLimits) (he : e ∈ entries) :
    e.2.WithinLimits := by
  have hreadable := each_object_iff.1 h.readable e he
  have hnesting : e.2.nesting ≤ greatestDepth - 1 := nesting_object_le_iff.1 h.nesting e he
  exact ⟨hreadable.2, Nat.le_trans hnesting (Nat.sub_le _ _)⟩

/-- The items of an array keep to the limits that it keeps to. -/
theorem WithinLimits.of_item (h : (Json.array items).WithinLimits) (hv : v ∈ items) : v.WithinLimits := by
  have hreadable := each_array_iff.1 h.readable v hv
  have hnesting : v.nesting ≤ greatestDepth - 1 := nesting_array_le_iff.1 h.nesting v hv
  exact ⟨hreadable, Nat.le_trans hnesting (Nat.sub_le _ _)⟩

/-! ## Changing strings and keys -/

mutual

/-- A value with every string and every key changed, at every depth. -/
def mapText (f : Text → Text) : Json → Json
  | .string t => .string (f t)
  | .array items => .array (mapTextItems f items)
  | .object entries => .object (mapTextEntries f entries)
  | v => v

/-- `mapText` for each item of a list. -/
def mapTextItems (f : Text → Text) : List Json → List Json
  | [] => []
  | v :: items => mapText f v :: mapTextItems f items

/-- `mapText` for the value of each pair, and its key changed. -/
def mapTextEntries (f : Text → Text) : List (Text × Json) → List (Text × Json)
  | [] => []
  | (k, v) :: entries => (f k, mapText f v) :: mapTextEntries f entries

end

/-- A pair with its key changed, and every string and key of its value. -/
def mapTextEntry (f : Text → Text) (e : Text × Json) : Text × Json := (f e.1, e.2.mapText f)

/-- An array has its items changed one by one. -/
theorem mapText_array (f : Text → Text) (items : List Json) : mapText f (.array items) = .array (items.map (mapText f)) := by
  have hitems : mapTextItems f items = items.map (mapText f) := by
    induction items with
    | nil => rfl
    | cons v items ih => rw [mapTextItems, ih, List.map_cons]
  rw [mapText, hitems]

/-- An object has its pairs changed one by one. -/
theorem mapText_object (f : Text → Text) (entries : Entries Json) :
    mapText f (.object entries) = .object (entries.map (mapTextEntry f)) := by
  have hentries : mapTextEntries f entries = entries.map (mapTextEntry f) := by
    induction entries with
    | nil => rfl
    | cons e entries ih => rw [mapTextEntries, ih, List.map_cons, mapTextEntry]
  rw [mapText, hentries]

/-- Where no two texts become one, no key comes twice. -/
theorem keysDistinct_mapText (hf : Function.Injective f) (hkeys : v.KeysDistinct) : (v.mapText f).KeysDistinct := by
  have hall : Inherited fun v => (v.mapText f).KeysDistinct := by
    refine .of_isScalar (fun v hv => ?_) (fun items ih => ?_) (fun entries hkeys ih => ?_)
    · cases v <;> simp_all [IsScalar, mapText, KeysDistinct]
    · rw [mapText_array, keysDistinct_array_iff, List.forall_mem_map]
      exact ih
    · have hnodup : (Entries.keys (entries.map (mapTextEntry f))).Nodup := by
        rw [Entries.keys, List.map_map]
        have hcomp : Prod.fst ∘ mapTextEntry f = f ∘ Prod.fst := rfl
        rw [hcomp, ← List.map_map]
        exact hkeys.map hf
      rw [mapText_object, keysDistinct_object_iff, List.forall_mem_map]
      exact ⟨hnodup, ih⟩
  exact hall.of_keysDistinct v hkeys

/-- The numbers stay. -/
theorem exact_mapText_iff (f : Text → Text) (hkeys : v.KeysDistinct) : (v.mapText f).Exact ↔ v.Exact := by
  have hall : Inherited fun v => (v.mapText f).Exact ↔ v.Exact := by
    refine .of_isScalar (fun v hv => ?_) (fun items ih => ?_) (fun entries hkeys ih => ?_)
    · cases v <;> simp_all [IsScalar, mapText, Exact]
    · rw [mapText_array, Exact, Exact, itemsExact_iff, itemsExact_iff, List.forall_mem_map]
      exact forall₂_congr ih
    · rw [mapText_object, Exact, Exact, entriesExact_iff, entriesExact_iff, List.forall_mem_map]
      exact forall₂_congr ih
  exact hall.of_keysDistinct v hkeys

/-- The nesting stays. -/
theorem nesting_mapText_le_iff (f : Text → Text) (hkeys : v.KeysDistinct) :
    ∀ depth, (v.mapText f).nesting ≤ depth ↔ v.nesting ≤ depth := by
  have hall : Inherited fun v => ∀ depth, (v.mapText f).nesting ≤ depth ↔ v.nesting ≤ depth := by
    refine .of_isScalar (fun v hv depth => ?_) (fun items ih depth => ?_) (fun entries hkeys ih depth => ?_)
    · cases v <;> simp_all [IsScalar, mapText, nesting]
    · rw [mapText_array]
      cases depth with
      | zero => simp [nesting]
      | succ depth =>
        rw [nesting_array_le_iff, nesting_array_le_iff, List.forall_mem_map]
        exact forall₂_congr fun v hv => ih v hv depth
    · rw [mapText_object]
      cases depth with
      | zero => simp [nesting]
      | succ depth =>
        rw [nesting_object_le_iff, nesting_object_le_iff, List.forall_mem_map]
        exact forall₂_congr fun e he => ih e he depth
  exact hall.of_keysDistinct v hkeys

/-- A value is left as it is exactly when every string and every key of it is. -/
theorem mapText_eq_self_iff (hq : ∀ t, f t = t ↔ q t) (hkeys : v.KeysDistinct) :
    v.mapText f = v ↔ v.Each (fun w => ∀ t, w = .string t → q t) q := by
  have hall : Inherited fun v => v.mapText f = v ↔ v.Each (fun w => ∀ t, w = .string t → q t) q := by
    refine .of_isScalar (fun v hv => ?_) (fun items ih => ?_) (fun entries hkeys ih => ?_)
    · rw [each_of_isScalar hv]
      cases v <;> simp_all [IsScalar, mapText]
    · have hmap : items.map (mapText f) = items ↔ ∀ v ∈ items, v.mapText f = v := by
        conv_lhs => rw [← List.map_id items, List.map_map]
        exact List.map_inj_left
      rw [mapText_array, Json.array.injEq, each_array_iff, hmap]
      exact forall₂_congr ih
    · have hmap : entries.map (mapTextEntry f) = entries ↔ ∀ e ∈ entries, mapTextEntry f e = e := by
        conv_lhs => rw [← List.map_id entries, List.map_map]
        exact List.map_inj_left
      rw [mapText_object, Json.object.injEq, each_object_iff, hmap]
      refine forall₂_congr fun e he => ?_
      rw [mapTextEntry, Prod.ext_iff, hq, ih e he]
  exact hall.of_keysDistinct v hkeys

end Descriptors.Json
