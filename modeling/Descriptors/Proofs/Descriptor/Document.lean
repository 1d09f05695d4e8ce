import Descriptors.Descriptor.Document
import Descriptors.Proofs.Json.ReadInvariant
import Descriptors.Proofs.Outcome
import Mathlib.Data.List.Sort

/-!
# What the checks of a document accept

Statements about `Document.asObject`, `Document.asObjectOfObjects`, `Document.asArrayOfObjects` and `Document.read`: for each
check the values it accepts, with the pairs it gives, and the one cause for which it refuses any other value. A check never
refuses a value of the right shape, and its cause lists every place that is wrong.
-/

namespace Descriptors.Document

variable {v : Json} {t k : Text} {entries : Entries Json} {items : List Json} {cause : DescriptorCause}

/-- A value is an object when it has pairs. -/
theorem isObject_iff : isObject v = true ↔ ∃ entries, v = .object entries := by
  cases v <;> simp [isObject, objectEntries?]

/-- An object whose values are objects, by the pairs of each value. -/
def objectOfObjects (group : Entries (Entries Json)) : Json := .object (group.map fun e => (e.1, .object e.2))

/-- The mismatches of the values that are no objects, in order. -/
def strangers (entries : Entries Json) : List Mismatch := (entries.filter fun e => !isObject e.2).map keyMismatch

/-- There are no strangers exactly when all values are objects. -/
theorem strangers_eq_nil_iff : strangers entries = [] ↔ ∀ e ∈ entries, isObject e.2 = true := by
  simp [strangers]

/-! ## Objects -/

theorem asObject_ok_iff : asObject v = .ok entries ↔ v = .object entries := by
  cases v <;> simp [asObject]

theorem asObject_of_not (h : isObject v = false) : asObject v = .error (.misshapen .object [.of .whole .object v]) := by
  cases v with
  | object entries => cases h
  | _ => rfl

theorem asObject_error_iff :
    asObject v = .error cause ↔ isObject v = false ∧ cause = .misshapen .object [.of .whole .object v] := by
  cases hv : isObject v with
  | true =>
    obtain ⟨entries, rfl⟩ := isObject_iff.1 hv
    simp [asObject]
  | false =>
    rw [asObject_of_not hv, Except.error.injEq]
    exact ⟨fun h => ⟨rfl, h.symm⟩, fun h => h.2.symm⟩

/-! ## Objects of objects -/

theorem asObjectOfObjects_of_not (h : isObject v = false) :
    asObjectOfObjects v = .error (.misshapen .objectOfObjects [.of .whole .object v]) := by
  cases v with
  | object entries => cases h
  | _ => rfl

/-- Pairs all of whose values are objects are what their own pairs make. -/
theorem map_filterMap_objectEntries? (h : ∀ e ∈ entries, isObject e.2 = true) :
    (entries.filterMap fun e => (objectEntries? e.2).map fun metadata => (e.1, metadata)).map (fun e => (e.1, Json.object e.2)) =
      entries := by
  induction entries with
  | nil => rfl
  | cons e entries ih =>
    obtain ⟨k, v⟩ := e
    obtain ⟨hv, hrest⟩ := List.forall_mem_cons.1 h
    obtain ⟨metadata, rfl⟩ := isObject_iff.1 hv
    have hpairs : objectEntries? (.object metadata) = some metadata := rfl
    simp only [List.filterMap_cons, hpairs, Option.map_some, List.map_cons, ih hrest]

/-- The check of an object: it is an object of objects, or its strangers are listed. -/
theorem asObjectOfObjects_object (entries : Entries Json) :
    (∃ group, .object entries = objectOfObjects group ∧ asObjectOfObjects (.object entries) = .ok group) ∨
      strangers entries ≠ [] ∧
        asObjectOfObjects (.object entries) = .error (.misshapen .objectOfObjects (strangers entries)) := by
  cases h : entries.filter fun e => !isObject e.2 with
  | nil =>
    have hall : ∀ e ∈ entries, isObject e.2 = true := by simpa using h
    refine Or.inl ⟨_, ?_, by rw [asObjectOfObjects, h]⟩
    rw [objectOfObjects, map_filterMap_objectEntries? hall]
  | cons e others => exact Or.inr ⟨by simp [strangers, h], by rw [asObjectOfObjects, h]; simp [strangers, h]⟩

/-- An object of objects has no strangers. -/
theorem strangers_of_objectOfObjects {group : Entries (Entries Json)} (h : .object entries = objectOfObjects group) :
    strangers entries = [] := by
  obtain rfl := Json.object.inj h
  rw [strangers_eq_nil_iff]
  intro e he
  obtain ⟨m, _, rfl⟩ := List.mem_map.1 he
  exact isObject_iff.2 ⟨_, rfl⟩

/-- The pairs that make an object of objects are determined by it. -/
theorem objectOfObjects_inj {group group' : Entries (Entries Json)} (h : objectOfObjects group = objectOfObjects group') :
    group = group' := by
  have hinj : Function.Injective fun e : Text × Entries Json => (e.1, Json.object e.2) := by
    rintro ⟨k, m⟩ ⟨k', m'⟩ he
    cases he
    rfl
  exact hinj.list_map (Json.object.inj h)

theorem asObjectOfObjects_ok_iff {group : Entries (Entries Json)} :
    asObjectOfObjects v = .ok group ↔ v = objectOfObjects group := by
  cases v with
  | object entries =>
    rcases asObjectOfObjects_object entries with ⟨group', hv, hok⟩ | ⟨hne, herr⟩
    · rw [hok, hv]
      exact ⟨fun h => by rw [Except.ok.inj h], fun h => by rw [objectOfObjects_inj h]⟩
    · rw [herr]
      exact ⟨nofun, fun h => absurd (strangers_of_objectOfObjects h) hne⟩
  | _ => simp [asObjectOfObjects, objectOfObjects]

theorem asObjectOfObjects_error_iff :
    asObjectOfObjects v = .error cause ↔
      isObject v = false ∧ cause = .misshapen .objectOfObjects [.of .whole .object v] ∨
        ∃ entries, v = .object entries ∧ strangers entries ≠ [] ∧ cause = .misshapen .objectOfObjects (strangers entries) := by
  cases hv : isObject v with
  | false =>
    rw [asObjectOfObjects_of_not hv, Except.error.injEq]
    constructor
    · exact fun h => Or.inl ⟨rfl, h.symm⟩
    · rintro (⟨_, h⟩ | ⟨entries, rfl, _⟩)
      · exact h.symm
      · cases hv
  | true =>
    obtain ⟨entries, rfl⟩ := isObject_iff.1 hv
    rcases asObjectOfObjects_object entries with ⟨group, hgroup, hok⟩ | ⟨hne, herr⟩
    · simp [hok, strangers_of_objectOfObjects hgroup]
    · rw [herr, Except.error.injEq]
      constructor
      · exact fun h => Or.inr ⟨entries, rfl, hne, h.symm⟩
      · rintro (⟨h, _⟩ | ⟨entries', he, _, hc⟩)
        · cases h
        · cases he
          exact hc.symm

/-! ## Arrays of objects -/

/-- An array whose items are objects, by the pairs of each item. -/
def arrayOfObjects (list : List (Entries Json)) : Json := .array (list.map .object)

/-- The indices of the items that are no objects, in increasing order. -/
def strangerIndices (items : List Json) : List Nat := (items.zipIdx.filter fun e => !isObject e.1).map Prod.snd

/-- The mismatches of the items at some indices, each of which should be an object. -/
def mismatchesAt (items : List Json) (indices : List Nat) : List Mismatch :=
  indices.map fun i => .of (.index i) .object (items.getD i .null)

/-- A list holds exactly the indices of the items that are no objects, in increasing order. -/
structure ListsStrangers (items : List Json) (indices : List Nat) : Prop where
  increasing : indices.Pairwise (· < ·)
  mem_iff : ∀ i, i ∈ indices ↔ ∃ v, items[i]? = some v ∧ isObject v = false

/-- The check lists exactly the indices of the items that are no objects. -/
theorem listsStrangers_strangerIndices (items : List Json) : ListsStrangers items (strangerIndices items) where
  increasing := by
    have hall : (items.zipIdx.map Prod.snd).Pairwise (· < ·) := by
      rw [List.zipIdx_map_snd]
      exact List.pairwise_lt_range'
    exact hall.sublist (List.filter_sublist.map Prod.snd)
  mem_iff i := by simp [strangerIndices, List.mem_filter, List.mk_mem_zipIdx_iff_getElem?]

/-- The mismatches at these indices are those of the items that are no objects. -/
theorem mismatchesAt_strangerIndices (items : List Json) :
    mismatchesAt items (strangerIndices items) = (items.zipIdx.filter fun e => !isObject e.1).map itemMismatch := by
  rw [mismatchesAt, strangerIndices, List.map_map]
  refine List.map_congr_left fun e he => ?_
  have hget : items[e.2]? = some e.1 := List.mk_mem_zipIdx_iff_getElem?.1 (List.mem_filter.1 he).1
  rw [Function.comp_apply, List.getD_eq_getElem?_getD, hget]
  rfl

/-- Only one list holds exactly the indices of the items that are no objects. -/
theorem ListsStrangers.eq {indices : List Nat} (h : ListsStrangers items indices) : indices = strangerIndices items :=
  have hcheck := listsStrangers_strangerIndices items
  h.increasing.eq_of_mem_iff hcheck.increasing fun i => (h.mem_iff i).trans (hcheck.mem_iff i).symm

theorem strangerIndices_eq_nil_iff : strangerIndices items = [] ↔ ∀ v ∈ items, isObject v = true := by
  constructor
  · intro h v hv
    obtain ⟨i, hi⟩ := List.mem_iff_getElem?.1 hv
    have hnot : i ∉ strangerIndices items := h ▸ List.not_mem_nil
    rw [(listsStrangers_strangerIndices items).mem_iff] at hnot
    rw [← Bool.not_eq_false]
    exact fun hfalse => hnot ⟨v, hi, hfalse⟩
  · intro h
    refine List.eq_nil_iff_forall_not_mem.2 fun i hi => ?_
    obtain ⟨v, hv, hfalse⟩ := ((listsStrangers_strangerIndices items).mem_iff i).1 hi
    rw [h v (List.mem_iff_getElem?.2 ⟨i, hv⟩)] at hfalse
    cases hfalse

/-- Items all of which are objects are what their pairs make. -/
theorem map_filterMap_objectItems (h : ∀ v ∈ items, isObject v = true) :
    (items.filterMap objectEntries?).map Json.object = items := by
  induction items with
  | nil => rfl
  | cons v items ih =>
    obtain ⟨hv, hrest⟩ := List.forall_mem_cons.1 h
    obtain ⟨entries, rfl⟩ := isObject_iff.1 hv
    have hpairs : objectEntries? (.object entries) = some entries := rfl
    rw [List.filterMap_cons, hpairs, List.map_cons, ih hrest]

/-- The check of an array: all items are objects and their pairs are given, or the others are listed by their indices. -/
theorem asArrayOfObjects_array (items : List Json) :
    (strangerIndices items = [] ∧ asArrayOfObjects (.array items) = .ok (items.filterMap objectEntries?)) ∨
      strangerIndices items ≠ [] ∧
        asArrayOfObjects (.array items) = .error (.misshapen .arrayOfObjects (mismatchesAt items (strangerIndices items))) := by
  cases h : items.zipIdx.filter fun e => !isObject e.1 with
  | nil => exact Or.inl ⟨by simp [strangerIndices, h], by rw [asArrayOfObjects, h]⟩
  | cons e others =>
    exact Or.inr ⟨by simp [strangerIndices, h], by rw [asArrayOfObjects, mismatchesAt_strangerIndices, h]⟩

theorem asArrayOfObjects_of_not (h : ∀ items, v ≠ .array items) :
    asArrayOfObjects v = .error (.misshapen .arrayOfObjects [.of .whole .array v]) := by
  cases v with
  | array items => exact absurd rfl (h items)
  | _ => rfl

/-- The pairs that make an array of objects are determined by it. -/
theorem arrayOfObjects_inj {list list' : List (Entries Json)} (h : arrayOfObjects list = arrayOfObjects list') : list = list' := by
  have hinj : Function.Injective Json.object := fun _ _ he => Json.object.inj he
  exact hinj.list_map (Json.array.inj h)

theorem isObject_of_arrayOfObjects {list : List (Entries Json)} (h : .array items = arrayOfObjects list) :
    ∀ v ∈ items, isObject v = true := by
  obtain rfl := Json.array.inj h
  intro v hv
  obtain ⟨entries, _, rfl⟩ := List.mem_map.1 hv
  exact isObject_iff.2 ⟨entries, rfl⟩

theorem asArrayOfObjects_ok_iff {list : List (Entries Json)} :
    asArrayOfObjects v = .ok list ↔ v = arrayOfObjects list := by
  cases v with
  | array items =>
    rcases asArrayOfObjects_array items with ⟨hnil, hok⟩ | ⟨hne, herr⟩
    · have hv : Json.array items = arrayOfObjects (items.filterMap objectEntries?) := by
        rw [arrayOfObjects, map_filterMap_objectItems (strangerIndices_eq_nil_iff.1 hnil)]
      rw [hok, hv]
      exact ⟨fun h => by rw [Except.ok.inj h], fun h => by rw [arrayOfObjects_inj h]⟩
    · rw [herr]
      exact ⟨nofun, fun h => absurd (strangerIndices_eq_nil_iff.2 (isObject_of_arrayOfObjects h)) hne⟩
  | _ => simp [asArrayOfObjects, arrayOfObjects]

theorem asArrayOfObjects_error_iff :
    asArrayOfObjects v = .error cause ↔
      (∀ items, v ≠ .array items) ∧ cause = .misshapen .arrayOfObjects [.of .whole .array v] ∨
        ∃ items, v = .array items ∧ strangerIndices items ≠ [] ∧
          cause = .misshapen .arrayOfObjects (mismatchesAt items (strangerIndices items)) := by
  constructor
  · intro h
    cases v with
    | array items =>
      rcases asArrayOfObjects_array items with ⟨_, hok⟩ | ⟨hne, herr⟩
      · rw [hok] at h
        cases h
      · exact Or.inr ⟨items, rfl, hne, Except.error.inj (h.symm.trans herr)⟩
    | _ => exact Or.inl ⟨nofun, (Except.error.inj h).symm⟩
  · rintro (⟨hv, rfl⟩ | ⟨items, rfl, hne, rfl⟩)
    · exact asArrayOfObjects_of_not hv
    · rcases asArrayOfObjects_array items with ⟨hnil, _⟩ | ⟨_, herr⟩
      · exact absurd hnil hne
      · exact herr

/-! ## The whole document -/

theorem read_ok_iff : read t = .ok entries ↔ Json.read t = .ok (.object entries) := by
  unfold read
  cases Json.read t with
  | ok v => simp [asObject_ok_iff]
  | error fault => simp

theorem read_error_iff :
    read t = .error cause ↔
      (∃ fault, Json.read t = .error fault ∧ cause = .unreadable fault) ∨
        ∃ v, Json.read t = .ok v ∧ isObject v = false ∧ cause = .misshapen .object [.of .whole .object v] := by
  unfold read
  cases Json.read t with
  | ok v => simp [asObject_error_iff]
  | error fault =>
    simp only [Except.error.injEq, exists_eq_left', reduceCtorEq, false_and, exists_false, or_false]
    exact eq_comm

/-- What is made of a document that is read is a result exactly when the text is an object of which it can be made. -/
theorem read_bind_ok_iff {α : Type} {f : Entries Json → Except DescriptorCause α} {a : α} :
    (read t >>= f) = .ok a ↔ ∃ document, Json.read t = .ok (.object document) ∧ f document = .ok a := by
  rw [Outcome.bind_ok_iff]
  exact exists_congr fun document => and_congr_left' read_ok_iff

/-- What is made of a document that is read fails with the reading or with what is made of it. -/
theorem read_bind_error_iff {α : Type} {f : Entries Json → Except DescriptorCause α} :
    (read t >>= f) = .error cause ↔
      read t = .error cause ∨ ∃ document, Json.read t = .ok (.object document) ∧ f document = .error cause := by
  rw [Outcome.bind_error_iff]
  exact or_congr_right (exists_congr fun document => and_congr_left' read_ok_iff)

/-- In a document that is read no top key comes twice, and no key inside a value of it. -/
theorem distinct_of_read (h : Json.read t = .ok (.object entries)) :
    entries.keys.Nodup ∧ ∀ e ∈ entries, e.2.KeysDistinct :=
  Json.keysDistinct_object_iff.1 (Json.keysDistinct_of_read h)

/-- No key comes twice inside the value under a key of a document that is read. -/
theorem keysDistinct_of_get? (h : Json.read t = .ok (.object entries)) (hv : entries.get? k = some v) : v.KeysDistinct :=
  (Json.keysDistinct_of_read h).of_get? hv

end Descriptors.Document
