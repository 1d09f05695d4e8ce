import Descriptors.Proofs.Json.ReadInvariant
import Descriptors.Proofs.Json.RoundTrip
import Descriptors.Proofs.Json.Written
import Mathlib.Data.List.Lex
import Mathlib.Data.List.Perm.Basic
import Mathlib.Data.List.Sort

/-!
# The canonical form

Sorting the keys of values makes those equal that differ in the order of keys alone, and leaves them fit to be read back.
-/

/-! ## Sorting the keys of a value

Keys are compared by code point (`Text.precedesOrEquals_iff`), and pairs under distinct keys have one sorted order
(`Json.sortPairs_congr`). So a value whose keys have been sorted at every depth is sorted (`Json.keysSorted_sortKeys`), and a
value that is sorted is left as it is (`Json.sortKeys_of_keysSorted`). What makes a value fit to be read back stays: distinct
keys, exact numbers and nesting.
-/

namespace Descriptors

/-! ### The order of texts -/

/-- The order of texts is the lexicographic order by code point. -/
theorem Text.precedesOrEquals_iff {s t : Text} : precedesOrEquals s t = true ↔ s ≤ t := by
  induction s generalizing t with
  | nil => exact iff_of_true (by rw [precedesOrEquals]) (not_lt.1 (List.not_lt_nil t))
  | cons c s ih =>
    cases t with
    | nil => exact iff_of_false (by simp [precedesOrEquals]) (not_le.2 (List.nil_lt_cons c s))
    | cons d t =>
      have hcons : c :: s ≤ d :: t ↔ c < d ∨ c = d ∧ s ≤ t := by
        rw [le_iff_lt_or_eq, le_iff_lt_or_eq, List.cons_lt_cons_iff, List.cons.injEq]
        tauto
      rw [precedesOrEquals, hcons, ← ih]
      simp

namespace Json

variable {v : Json} {items : List Json} {entries entries' : Entries Json}

/-! ### Sorting pairs -/

/-- Pairs sorted by key. -/
def sortPairs (entries : Entries Json) : Entries Json := entries.mergeSort fun a b => Text.precedesOrEquals a.1 b.1

/-- Sorting moves pairs only. -/
theorem perm_sortPairs (entries : Entries Json) : (sortPairs entries).Perm entries :=
  List.mergeSort_perm _ _

/-- Sorted pairs stand in the order of their keys. -/
theorem pairwise_sortPairs (entries : Entries Json) : (sortPairs entries).Pairwise fun a b => a.1 ≤ b.1 := by
  have htrans : ∀ a b c : Text × Json, Text.precedesOrEquals a.1 b.1 = true → Text.precedesOrEquals b.1 c.1 = true →
      Text.precedesOrEquals a.1 c.1 = true := by
    intro a b c hab hbc
    rw [Text.precedesOrEquals_iff] at hab hbc ⊢
    exact le_trans hab hbc
  have htotal : ∀ a b : Text × Json, (Text.precedesOrEquals a.1 b.1 || Text.precedesOrEquals b.1 a.1) = true := by
    intro a b
    rw [Bool.or_eq_true, Text.precedesOrEquals_iff, Text.precedesOrEquals_iff]
    exact le_total a.1 b.1
  exact (List.pairwise_mergeSort htrans htotal entries).imp Text.precedesOrEquals_iff.1

/-- Pairs in the order of their keys are left as they are. -/
theorem sortPairs_of_pairwise (h : entries.Pairwise fun a b => a.1 ≤ b.1) : sortPairs entries = entries :=
  List.mergeSort_of_pairwise (h.imp Text.precedesOrEquals_iff.2)

/-- Pairs under distinct keys have one sorted order. -/
theorem sortPairs_congr (hkeys : (Entries.keys entries).Nodup) (h : entries.Perm entries') :
    sortPairs entries = sortPairs entries' := by
  have hperm : (sortPairs entries).Perm (sortPairs entries') :=
    ((perm_sortPairs entries).trans h).trans (perm_sortPairs entries').symm
  refine List.Perm.eq_of_pairwise (fun a b ha hb hab hba => ?_) (pairwise_sortPairs entries) (pairwise_sortPairs entries') hperm
  have hkey : a.1 = b.1 := le_antisymm hab hba
  have ha : a ∈ entries := (perm_sortPairs entries).mem_iff.1 ha
  have hb : b ∈ entries := h.mem_iff.2 ((perm_sortPairs entries').mem_iff.1 hb)
  exact List.inj_on_of_nodup_map hkeys ha hb hkey

/-! ### Values with sorted keys -/

mutual

/-- The keys of every object stand in increasing order by code point, at any depth. -/
def KeysSorted : Json → Prop
  | .array items => ItemsSorted items
  | .object entries => (Entries.keys entries).Pairwise (· < ·) ∧ EntriesSorted entries
  | _ => True

/-- `KeysSorted` for each item of a list. -/
def ItemsSorted : List Json → Prop
  | [] => True
  | v :: items => KeysSorted v ∧ ItemsSorted items

/-- `KeysSorted` for the value of each pair. -/
def EntriesSorted : List (Text × Json) → Prop
  | [] => True
  | (_, v) :: entries => KeysSorted v ∧ EntriesSorted entries

end

/-- The items of a list are sorted when each of them is. -/
theorem itemsSorted_iff : ItemsSorted items ↔ ∀ v ∈ items, v.KeysSorted := by
  induction items with
  | nil => simp [ItemsSorted]
  | cons v items ih => simp [ItemsSorted, ih]

/-- The values of pairs are sorted when each of them is. -/
theorem entriesSorted_iff : EntriesSorted entries ↔ ∀ e ∈ entries, e.2.KeysSorted := by
  induction entries with
  | nil => simp [EntriesSorted]
  | cons e entries ih => simp [EntriesSorted, ih]

/-- In a scalar there is no key. -/
theorem keysDistinct_of_isScalar (hv : v.IsScalar) : v.KeysDistinct := by
  cases v <;> simp_all [IsScalar, KeysDistinct]

/-- In a scalar there is no key. -/
theorem keysSorted_of_isScalar (hv : v.IsScalar) : v.KeysSorted := by
  cases v <;> simp_all [IsScalar, KeysSorted]

/-! ### One level -/

/-- A scalar is left as it is. -/
theorem sortKeys_of_isScalar (hv : v.IsScalar) : v.sortKeys = v := by
  cases v <;> simp_all [IsScalar, sortKeys]

/-- An array has its items sorted one by one. -/
theorem sortKeys_array (items : List Json) : sortKeys (.array items) = .array (items.map sortKeys) := by
  have hitems : sortItems items = items.map sortKeys := by
    induction items with
    | nil => rfl
    | cons v items ih => rw [sortItems, ih, List.map_cons]
  rw [sortKeys, hitems]

/-- A pair with the keys of its value sorted. -/
def sortEntry (e : Text × Json) : Text × Json := (e.1, sortKeys e.2)

/-- An object has its values sorted one by one, and then its pairs. -/
theorem sortKeys_object (entries : Entries Json) :
    sortKeys (.object entries) = .object (sortPairs (entries.map sortEntry)) := by
  have hentries : sortEntries entries = entries.map sortEntry := by
    induction entries with
    | nil => rfl
    | cons e entries ih => rw [sortEntries, ih, List.map_cons, sortEntry]
  rw [sortKeys, hentries, sortPairs]

/-- Sorting the values leaves the keys. -/
theorem keys_map_sortEntry (entries : Entries Json) : Entries.keys (entries.map sortEntry) = Entries.keys entries :=
  Entries.keys_map sortKeys entries

/-- Sorting leaves no key twice where none comes twice. -/
theorem nodup_keys_sorted (h : (Entries.keys entries).Nodup) :
    (Entries.keys (sortPairs (entries.map sortEntry))).Nodup := by
  rw [← keys_map_sortEntry entries] at h
  exact ((perm_sortPairs _).map Prod.fst).nodup_iff.2 h

/-- The values of a sorted object are those of the object, each of them sorted. -/
theorem forall_mem_sorted_iff {P : Json → Prop} :
    (∀ e ∈ sortPairs (entries.map sortEntry), P e.2) ↔ ∀ e ∈ entries, P e.2.sortKeys := by
  constructor
  · intro h e he
    exact h (sortEntry e) ((perm_sortPairs _).mem_iff.2 (List.mem_map_of_mem he))
  · intro h e he
    obtain ⟨e', he', rfl⟩ := List.mem_map.1 ((perm_sortPairs _).mem_iff.1 he)
    exact h e' he'

/-! ### Every depth -/

/-- Sorting leaves no key twice. -/
theorem keysDistinct_sortKeys (hv : v.KeysDistinct) : v.sortKeys.KeysDistinct := by
  have hall : Inherited fun v => v.sortKeys.KeysDistinct := by
    refine .of_isScalar (fun v hv => ?_) (fun items ih => ?_) (fun entries hkeys ih => ?_)
    · rw [sortKeys_of_isScalar hv]
      exact keysDistinct_of_isScalar hv
    · rw [sortKeys_array, keysDistinct_array_iff, List.forall_mem_map]
      exact ih
    · rw [sortKeys_object, keysDistinct_object_iff, forall_mem_sorted_iff]
      exact ⟨nodup_keys_sorted hkeys, ih⟩
  exact hall.of_keysDistinct v hv

/-- The keys of a sorted value are sorted: they stand in order, and none comes twice. -/
theorem keysSorted_sortKeys (hv : v.KeysDistinct) : v.sortKeys.KeysSorted := by
  have hall : Inherited fun v => v.sortKeys.KeysSorted := by
    refine .of_isScalar (fun v hv => ?_) (fun items ih => ?_) (fun entries hkeys ih => ?_)
    · rw [sortKeys_of_isScalar hv]
      exact keysSorted_of_isScalar hv
    · rw [sortKeys_array, KeysSorted, itemsSorted_iff, List.forall_mem_map]
      exact ih
    · rw [sortKeys_object, KeysSorted, entriesSorted_iff, forall_mem_sorted_iff]
      have hordered := List.pairwise_map.2 (pairwise_sortPairs (entries.map sortEntry))
      have hincreasing := (hordered.and (nodup_keys_sorted hkeys)).imp fun h => lt_of_le_of_ne h.1 h.2
      exact ⟨hincreasing, ih⟩
  exact hall.of_keysDistinct v hv

/-- A value whose keys are sorted is left as it is. -/
theorem sortKeys_of_keysSorted (hv : v.KeysDistinct) : v.KeysSorted → v.sortKeys = v := by
  have hall : Inherited fun v => v.KeysSorted → v.sortKeys = v := by
    refine .of_isScalar (fun v hv _ => sortKeys_of_isScalar hv) (fun items ih h => ?_) (fun entries hkeys ih h => ?_)
    · rw [KeysSorted, itemsSorted_iff] at h
      rw [sortKeys_array, List.map_congr_left fun v hv => ih v hv (h v hv), List.map_id']
    · rw [KeysSorted, entriesSorted_iff] at h
      have hvalues : entries.map sortEntry = entries := by
        have hentry : ∀ e ∈ entries, sortEntry e = e := fun e he => Prod.ext rfl (ih e he (h.2 e he))
        rw [List.map_congr_left hentry, List.map_id']
      have hordered := (List.pairwise_map.1 h.1).imp fun h => le_of_lt h
      rw [sortKeys_object, hvalues, sortPairs_of_pairwise hordered]
  exact hall.of_keysDistinct v hv

/-- Sorting leaves the numbers. -/
theorem exact_sortKeys_iff (hv : v.KeysDistinct) : v.sortKeys.Exact ↔ v.Exact := by
  have hall : Inherited fun v => v.sortKeys.Exact ↔ v.Exact := by
    refine .of_isScalar (fun v hv => ?_) (fun items ih => ?_) (fun entries hkeys ih => ?_)
    · rw [sortKeys_of_isScalar hv]
    · rw [sortKeys_array, Exact, Exact, itemsExact_iff, itemsExact_iff, List.forall_mem_map]
      exact forall₂_congr ih
    · rw [sortKeys_object, Exact, Exact, entriesExact_iff, entriesExact_iff, forall_mem_sorted_iff]
      exact forall₂_congr ih
  exact hall.of_keysDistinct v hv

/-- Sorting leaves the nesting. -/
theorem nesting_sortKeys_le_iff (hv : v.KeysDistinct) : ∀ depth, v.sortKeys.nesting ≤ depth ↔ v.nesting ≤ depth := by
  have hall : Inherited fun v => ∀ depth, v.sortKeys.nesting ≤ depth ↔ v.nesting ≤ depth := by
    refine .of_isScalar (fun v hv depth => ?_) (fun items ih depth => ?_) (fun entries hkeys ih depth => ?_)
    · rw [sortKeys_of_isScalar hv]
    · rw [sortKeys_array]
      cases depth with
      | zero => simp [nesting]
      | succ depth =>
        rw [nesting_array_le_iff, nesting_array_le_iff, List.forall_mem_map]
        exact forall₂_congr fun v hv => ih v hv depth
    · rw [sortKeys_object]
      cases depth with
      | zero => simp [nesting]
      | succ depth =>
        rw [nesting_object_le_iff, nesting_object_le_iff, forall_mem_sorted_iff (P := fun v => v.nesting ≤ depth)]
        exact forall₂_congr fun e he => ih e he depth
  exact hall.of_keysDistinct v hv

end Json

end Descriptors

/-! ## Values that are alike

Two values are alike when they are equal up to the order of the keys of their objects, at every depth (`Json.Alike`). This is
said without sorting: an object is like another when the pairs of the other, in some order, are its own pairs up to likeness
of their values. Values are alike exactly when sorting makes them equal (`Json.alike_iff`), so the canonical texts of two
values are equal exactly when the values are alike, and a canonical text is read as its value with the keys sorted
(`Json.writeCanonical_canonical`).
-/

namespace Descriptors.Json

variable {v w : Json} {items items' : List Json} {entries entries' : Entries Json}

mutual

/-- Two values are equal up to the order of keys, at every depth. -/
def Alike : Json → Json → Prop
  | .array items, .array items' => ItemsAlike items items'
  | .object entries, .object entries' => ∃ order, entries'.Perm order ∧ EntriesAlike entries order
  | v, w => v = w

/-- `Alike` for the items of two lists, one by one. -/
def ItemsAlike : List Json → List Json → Prop
  | [], [] => True
  | v :: items, w :: items' => Alike v w ∧ ItemsAlike items items'
  | _, _ => False

/-- `Alike` for the values of pairs, under the same keys in the same order. -/
def EntriesAlike : List (Text × Json) → List (Text × Json) → Prop
  | [], [] => True
  | (k, v) :: entries, (k', w) :: entries' => k = k' ∧ Alike v w ∧ EntriesAlike entries entries'
  | _, _ => False

end

/-! ### Alike values are sorted to one value -/

/-- The values without a repeated key that are like `v` are those that sorting makes equal to it. -/
def AlikeIffSorted (v : Json) : Prop := ∀ w : Json, w.KeysDistinct → (Alike v w ↔ v.sortKeys = w.sortKeys)

/-- Items are alike when sorting makes them equal. -/
theorem itemsAlike_iff (h : ∀ v ∈ items, AlikeIffSorted v) (h' : ∀ w ∈ items', w.KeysDistinct) :
    ItemsAlike items items' ↔ items.map sortKeys = items'.map sortKeys := by
  induction items generalizing items' with
  | nil => cases items' <;> simp [ItemsAlike]
  | cons v items ih =>
    cases items' with
    | nil => simp [ItemsAlike]
    | cons w items' =>
      obtain ⟨hv, h⟩ := List.forall_mem_cons.1 h
      obtain ⟨hw, h'⟩ := List.forall_mem_cons.1 h'
      rw [ItemsAlike, List.map_cons, List.map_cons, List.cons.injEq, hv w hw, ih h h']

/-- Pairs are alike, in the order they have, when sorting the values makes them equal. -/
theorem entriesAlike_iff (h : ∀ e ∈ entries, AlikeIffSorted e.2) (h' : ∀ e ∈ entries', e.2.KeysDistinct) :
    EntriesAlike entries entries' ↔ entries.map sortEntry = entries'.map sortEntry := by
  induction entries generalizing entries' with
  | nil => cases entries' <;> simp [EntriesAlike]
  | cons e entries ih =>
    cases entries' with
    | nil => simp [EntriesAlike]
    | cons e' entries' =>
      obtain ⟨he, h⟩ := List.forall_mem_cons.1 h
      obtain ⟨he', h'⟩ := List.forall_mem_cons.1 h'
      rw [EntriesAlike, List.map_cons, List.map_cons, List.cons.injEq, sortEntry, sortEntry, Prod.mk.injEq, he e'.2 he',
        ih h h', and_assoc]

/-- Some order makes pairs equal once their values are sorted, exactly when sorting the pairs as well does. -/
theorem exists_order_iff (hkeys : (Entries.keys entries').Nodup) :
    (∃ order, entries'.Perm order ∧ entries.map sortEntry = order.map sortEntry) ↔
      sortPairs (entries.map sortEntry) = sortPairs (entries'.map sortEntry) := by
  constructor
  · rintro ⟨order, hperm, hmap⟩
    rw [← keys_map_sortEntry] at hkeys
    rw [hmap, sortPairs_congr hkeys (hperm.map sortEntry)]
  · intro h
    have hperm : (entries.map sortEntry).Perm (entries'.map sortEntry) := by
      have hsorted := (perm_sortPairs (entries.map sortEntry)).symm
      rw [h] at hsorted
      exact hsorted.trans (perm_sortPairs _)
    -- a permutation of an image is the image of a permutation
    obtain ⟨order, hmap, horder⟩ : Relation.Comp (· = List.map sortEntry ·) List.Perm (entries.map sortEntry) entries' := by
      rw [List.eq_map_comp_perm]
      exact hperm
    exact ⟨order, horder.symm, hmap⟩

/-- A scalar is like itself only. -/
theorem alike_iff_of_isScalar (hv : v.IsScalar) : Alike v w ↔ v.sortKeys = w.sortKeys := by
  rw [sortKeys_of_isScalar hv]
  cases v <;> cases w <;> simp_all [IsScalar, Alike, sortKeys]

/-- Values without a repeated key are alike exactly when sorting makes them equal. -/
theorem alike_iff (hv : v.KeysDistinct) (hw : w.KeysDistinct) : Alike v w ↔ v.sortKeys = w.sortKeys := by
  have hall : Inherited AlikeIffSorted := by
    refine .of_isScalar (fun v hv w _ => alike_iff_of_isScalar hv) (fun items ih w hw => ?_) (fun entries _ ih w hw => ?_)
    · cases w with
      | array items' =>
        rw [keysDistinct_array_iff] at hw
        rw [Alike, sortKeys_array, sortKeys_array, Json.array.injEq, itemsAlike_iff ih hw]
      | _ => simp [Alike, sortKeys]
    · cases w with
      | object entries' =>
        rw [keysDistinct_object_iff] at hw
        rw [Alike, sortKeys_object, sortKeys_object, Json.object.injEq, ← exists_order_iff hw.1]
        refine exists_congr fun order => and_congr_right fun hperm => ?_
        exact entriesAlike_iff ih fun e he => hw.2 e (hperm.mem_iff.2 he)
      | _ => simp [Alike, sortKeys]
  exact hall.of_keysDistinct v hv w hw

/-- A value is like itself with its keys sorted. -/
theorem alike_sortKeys (hv : v.KeysDistinct) : Alike v v.sortKeys := by
  have hsorted := keysDistinct_sortKeys hv
  rw [alike_iff hv hsorted, sortKeys_of_keysSorted hsorted (keysSorted_sortKeys hv)]

/-! ### Canonical texts -/

/-- The canonical text of a value is read as the value with its keys sorted, as far as nesting is read. -/
theorem read_writeCanonical (hv : v.KeysDistinct) (hexact : v.Exact) (hdepth : v.nesting ≤ greatestDepth) :
    Json.read (writeCanonical v) = .ok v.sortKeys :=
  read_write (keysDistinct_sortKeys hv) ((exact_sortKeys_iff hv).2 hexact) ((nesting_sortKeys_le_iff hv _).2 hdepth)

/-- Canonical texts are equal exactly when sorting makes the values equal. -/
theorem writeCanonical_inj (hv : v.KeysDistinct) (hw : w.KeysDistinct) (hv' : v.Exact) (hw' : w.Exact) :
    writeCanonical v = writeCanonical w ↔ v.sortKeys = w.sortKeys := by
  constructor
  · exact write_injective (keysDistinct_sortKeys hv) (keysDistinct_sortKeys hw) ((exact_sortKeys_iff hv).2 hv')
      ((exact_sortKeys_iff hw).2 hw')
  · exact congrArg write

/-- The canonical form is canonical: two values without a repeated key, whose numbers are integers, are written alike exactly
when they are equal up to the order of keys at every depth, and what is written is read as the value with the keys of every
object in increasing order by code point. -/
theorem writeCanonical_canonical (hv : v.KeysDistinct) (hw : w.KeysDistinct) (hv' : v.Exact) (hw' : w.Exact) :
    (writeCanonical v = writeCanonical w ↔ Alike v w) ∧
    (v.nesting ≤ greatestDepth → ∃ u, Json.read (writeCanonical v) = .ok u ∧ Alike v u ∧ u.KeysSorted) := by
  constructor
  · rw [writeCanonical_inj hv hw hv' hw', alike_iff hv hw]
  · intro hdepth
    exact ⟨v.sortKeys, read_writeCanonical hv hv' hdepth, alike_sortKeys hv, keysSorted_sortKeys hv⟩

/-- An object in an array in an object, with the keys b, a and y, x. -/
def backward : Json :=
  .object [([0x62], .array [.int (-1), .object [([0x79], .string [0x0A]), ([0x78], .null)]]), ([0x61], .object [])]

/-- The same with the keys a, b and x, y. -/
def forward : Json :=
  .object [([0x61], .object []), ([0x62], .array [.int (-1), .object [([0x78], .null), ([0x79], .string [0x0A])]])]

/-- The order of keys alone is different, in two objects, and the canonical texts are equal. -/
theorem writeCanonical_canonical_backward :
    (backward.KeysDistinct ∧ forward.KeysDistinct ∧ backward.Exact ∧ forward.Exact) ∧ backward.nesting ≤ greatestDepth ∧
      writeCanonical backward = writeCanonical forward ∧
      ∃ u, Json.read (writeCanonical backward) = .ok u ∧ Alike backward u ∧ u.KeysSorted := by
  have hkeys : backward.KeysDistinct ∧ forward.KeysDistinct := by
    simp [backward, forward, KeysDistinct, ItemsDistinct, EntriesDistinct, Entries.keys]
  have hone : (Decimal.digits (Int.natAbs (-1))).length ≤ greatestDigits := by
    rw [Decimal.digits, if_pos (by decide)]
    decide
  have hexact : backward.Exact ∧ forward.Exact := by
    simp only [backward, forward, Exact, ItemsExact, EntriesExact, hone, and_self]
  have hdepth : backward.nesting ≤ greatestDepth := by decide
  have halike : Alike backward forward := by
    refine ⟨_, List.Perm.swap _ _ _, rfl, ⟨rfl, ⟨_, List.Perm.swap _ _ _, rfl, rfl, rfl, rfl, trivial⟩, trivial⟩, ?_⟩
    exact ⟨rfl, ⟨[], List.Perm.refl [], trivial⟩, trivial⟩
  have hmain := writeCanonical_canonical hkeys.1 hkeys.2 hexact.1 hexact.2
  exact ⟨⟨hkeys.1, hkeys.2, hexact⟩, hdepth, hmain.1.2 halike, hmain.2 hdepth⟩

end Descriptors.Json
