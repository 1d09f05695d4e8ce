import Descriptors.Proofs.Descriptor.Document
import Descriptors.Proofs.Json.RoundTrip
import Descriptors.Proofs.Row.Cells
import Descriptors.Proofs.Text.CamelCase

/-!
# The rows of the main configuration

Statements about what `MainConfiguration.rows` gives. A main configuration gives rows exactly when its list of properties is
an array of objects, or is not there, and every entry has no value that is too deep for a row and a name other than null
(`MainConfiguration.rows_ok_iff`). The row of an entry is written in three steps, the name, the host type and the logical type, and
what each step leaves decides what the row holds and in which order (`MainConfiguration.IsEntryRow`).
-/

namespace Descriptors

namespace MainConfiguration

variable {t : Text} {document entry : Entries Json} {rows : List Row} {r : Row} {name : Json} {cause : DescriptorCause}

/-! ## When there are rows -/

/-- An entry with a name that is not null. -/
def Named (entry : Entries Json) (name : Json) : Prop := entry.get? Row.nameKey = some name ∧ name ≠ .null

/-- An entry has its name when it is named. -/
theorem nameOf_ok_iff {name : Json} : nameOf entry = .ok name ↔ Named entry name := by
  unfold nameOf Named
  cases entry.get? Row.nameKey with
  | none => simp
  | some v =>
    have hname : some v = some name ∧ name ≠ .null ↔ v = name ∧ v ≠ .null := by
      rw [Option.some.injEq]
      exact and_congr_right fun h => by rw [h]
    rw [hname]
    cases v <;> simp

/-- An entry has no name when it is missing or null. -/
theorem nameOf_error_iff :
    nameOf entry = .error cause ↔
      Row.nameKey ∉ entry.keys ∧ cause = .nameMissing ∨ entry.get? Row.nameKey = some .null ∧ cause = .nameNull := by
  rw [← Entries.get?_eq_none_iff]
  unfold nameOf
  cases entry.get? Row.nameKey with
  | none => simp [eq_comm]
  | some name => cases name <;> simp [eq_comm]

/-- An entry has a row when no value of it is too deep for one and it is named. -/
theorem rowOf_ok_iff :
    rowOf entry = .ok r ↔ Row.tooDeep? entry = none ∧ ∃ name, Named entry name ∧ r = entryRow entry name := by
  simp only [rowOf, Outcome.bind_ok_iff, Outcome.map_ok_iff, Row.ifShown_ok_iff, nameOf_ok_iff, exists_const, and_true,
    eq_comm (a := r)]

/-- An entry has no row when a value of it is too deep for one, or else when its name is missing or null. -/
theorem rowOf_error_iff :
    rowOf entry = .error cause ↔
      (∃ container, Row.tooDeep? entry = some container ∧ cause = .cellTooDeep container) ∨
        Row.tooDeep? entry = none ∧
          (Row.nameKey ∉ entry.keys ∧ cause = .nameMissing ∨ entry.get? Row.nameKey = some .null ∧ cause = .nameNull) := by
  simp only [rowOf, Outcome.bind_error_iff, Outcome.map_error_iff, Row.ifShown_error_iff, Row.ifShown_ok_iff, nameOf_error_iff,
    exists_const, and_true]

/-- A document gives rows when it has no list of properties, or when the list is an array of named objects without a value that is
too deep: one for each. -/
theorem rowsIn_ok_iff :
    rowsIn document = .ok rows ↔
      propertiesKey ∉ document.keys ∧ rows = [] ∨
        ∃ entries, document.get? propertiesKey = some (Document.arrayOfObjects entries) ∧
          List.Forall₂ (fun entry r => Row.tooDeep? entry = none ∧ ∃ name, Named entry name ∧ r = entryRow entry name) entries
            rows := by
  rw [← Entries.get?_eq_none_iff]
  unfold rowsIn
  cases document.get? propertiesKey with
  | none => simp [eq_comm]
  | some v => simp [Outcome.bind_ok_iff, Outcome.mapM_ok_iff, Document.asArrayOfObjects_ok_iff, rowOf_ok_iff]

/-- A main configuration gives rows exactly when the text is an object that does. -/
theorem rows_ok_iff :
    MainConfiguration.rows t = .ok rows ↔ ∃ document, Json.read t = .ok (.object document) ∧ rowsIn document = .ok rows := by
  rw [← Document.read_bind_ok_iff, MainConfiguration.rows]
  cases Document.read t >>= rowsIn <;> simp

/-! ## The row of an entry -/

/-- The keys that the row of an entry with these keys has behind them: that of the host type where it is new, or that of the
logical type where there was none. -/
def addedKeys (keys : List Text) : List Text :=
  if keys.contains Row.typeKey then if keys.contains Row.hostTypeKey then [] else [Row.hostTypeKey] else [Row.typeKey]

/-- The added keys hang on two questions: whether the entry has a type, and whether it has a host type of its own. -/
theorem addedKeys_eq (keys : List Text) :
    addedKeys keys =
      if Row.typeKey ∈ keys then if Row.hostTypeKey ∈ keys then [] else [Row.hostTypeKey] else [Row.typeKey] := by
  simp only [addedKeys, List.contains_iff_mem]

/-- What the row of an entry holds: the name in camel case, the host type and the logical type that it stands for, and every
other value of the entry as it is, in the order of the entry. -/
structure IsEntryRow (entry : Entries Json) (r : Row) : Prop where
  name : ∃ name, Named entry name ∧ r.name? = some name.toCell.camelCase ∧ CodePoint.dash ∉ name.toCell.camelCase
  type : r.get? Row.typeKey = some (LogicalType.ofHostType ((entry.get? Row.typeKey).map Json.toCell)).name
  type_mem : r.get? Row.typeKey ∈
    [LogicalType.boolean, .integer, .number, .string, .object].map fun type => some type.name
  type_of_none : Row.typeKey ∉ entry.keys → r.get? Row.typeKey = some LogicalType.object.name
  hostType : ∀ v, entry.get? Row.typeKey = some v → r.get? Row.hostTypeKey = some v.toCell
  hostType_mem : Row.hostTypeKey ∈ r.keys ↔ Row.typeKey ∈ entry.keys ∨ Row.hostTypeKey ∈ entry.keys
  cells : ∀ key v, entry.get? key = some v → key ≠ Row.nameKey → key ≠ Row.typeKey →
    (key = Row.hostTypeKey → Row.typeKey ∉ entry.keys) → r.get? key = some v.toCell
  keys : r.keys = entry.keys ++ addedKeys entry.keys

/-- No host type stands for an array. -/
theorem ofHostType_ne_array (hostType : Option Text) : LogicalType.ofHostType hostType ≠ .array := by
  have hscalar : ∀ e ∈ LogicalType.scalarHostTypes, e.2 ≠ .array := by decide
  unfold LogicalType.ofHostType
  cases h : hostType.bind fun t => LogicalType.scalarHostTypes.lookup t with
  | none => decide
  | some type =>
    obtain ⟨t, _, hlookup⟩ := Option.bind_eq_some_iff.1 h
    obtain ⟨before, after, heq, _⟩ := List.lookup_eq_some_iff.1 hlookup
    exact hscalar (t, type) (by simp [heq])

/-- The host type goes to its own key, the logical type takes the place of it, and every other key has what it had. -/
theorem get?_withLogicalType (r : Row) (key : Text) :
    (withLogicalType r).get? key =
      if key = Row.typeKey then some (LogicalType.ofHostType (r.get? Row.typeKey)).name
      else if key = Row.hostTypeKey then (r.get? Row.typeKey).or (r.get? key)
      else r.get? key := by
  unfold withLogicalType
  rw [OrderedMap.get?_put]
  cases r.get? Row.typeKey with
  | none => simp
  | some hostType =>
    dsimp only
    rw [OrderedMap.get?_put, Option.some_or]

/-- The keys of a row stay in front when the types are written. -/
theorem keys_withLogicalType (r : Row) : (withLogicalType r).keys = r.keys ++ addedKeys r.keys := by
  have hne : Row.typeKey ≠ Row.hostTypeKey := by decide
  unfold withLogicalType
  rw [OrderedMap.keys_put, addedKeys_eq]
  cases htype : r.get? Row.typeKey with
  | none =>
    rw [OrderedMap.get?_eq_none_iff] at htype
    simp [htype]
  | some hostType =>
    have hmem : Row.typeKey ∈ r.keys := by
      by_contra hnot
      rw [← OrderedMap.get?_eq_none_iff, htype] at hnot
      cases hnot
    rw [if_pos hmem]
    dsimp only
    rw [OrderedMap.keys_put]
    by_cases hhost : Row.hostTypeKey ∈ r.keys
    · simp [hhost, hmem]
    · simp [hhost, hmem]

/-- The cells of an entry without repeated keys are a row as they stand. -/
theorem ofPairs_entryCells (hkeys : entry.keys.Nodup) : (OrderedMap.ofPairs (entryCells entry)).entries = entryCells entry := by
  refine Entries.putAll_nil ?_
  rw [entryCells, Entries.keys_map Json.toCell]
  exact hkeys

/-- The row of an entry before the types are written: every cell under its key, but for the name in camel case. -/
theorem get?_named (hkeys : entry.keys.Nodup) (name : Json) (key : Text) :
    ((OrderedMap.ofPairs (entryCells entry)).put Row.nameKey name.toCell.camelCase).get? key =
      if key = Row.nameKey then some name.toCell.camelCase else (entry.get? key).map Json.toCell := by
  rw [OrderedMap.get?_put, OrderedMap.get?, ofPairs_entryCells hkeys, entryCells, Entries.get?_map Json.toCell]

/-- The name is written in place. -/
theorem keys_named (hkeys : entry.keys.Nodup) (hname : Row.nameKey ∈ entry.keys) (name : Json) :
    ((OrderedMap.ofPairs (entryCells entry)).put Row.nameKey name.toCell.camelCase).keys = entry.keys := by
  have hcells : (OrderedMap.ofPairs (entryCells entry)).keys = entry.keys := by
    rw [OrderedMap.keys, ofPairs_entryCells hkeys, entryCells, Entries.keys_map Json.toCell]
  rw [OrderedMap.keys_put, hcells, if_pos hname]

/-- A value under a key of the row of an entry, in terms of the entry. -/
theorem get?_entryRow (hkeys : entry.keys.Nodup) (name : Json) (key : Text) :
    (entryRow entry name).get? key =
      if key = Row.typeKey then some (LogicalType.ofHostType ((entry.get? Row.typeKey).map Json.toCell)).name
      else if key = Row.hostTypeKey then ((entry.get? Row.typeKey).map Json.toCell).or ((entry.get? key).map Json.toCell)
      else if key = Row.nameKey then some name.toCell.camelCase
      else (entry.get? key).map Json.toCell := by
  have htype : Row.typeKey ≠ Row.nameKey := by decide
  have hhost : Row.hostTypeKey ≠ Row.nameKey := by decide
  rw [entryRow, get?_withLogicalType, get?_named hkeys, get?_named hkeys, if_neg htype]
  split
  · rfl
  · split
    · next h => rw [h, if_neg hhost]
    · rfl

/-- The row of a named entry without repeated keys holds what it should. -/
theorem isEntryRow_entryRow (hkeys : entry.keys.Nodup) (hname : Named entry name) : IsEntryRow entry (entryRow entry name) := by
  have hnameKey : Row.nameKey ∈ entry.keys := by
    by_contra hnot
    rw [← Entries.get?_eq_none_iff, hname.1] at hnot
    cases hnot
  have hrowKeys : (entryRow entry name).keys = entry.keys ++ addedKeys entry.keys := by
    rw [entryRow, keys_withLogicalType, keys_named hkeys hnameKey]
  have htype : (entryRow entry name).get? Row.typeKey =
      some (LogicalType.ofHostType ((entry.get? Row.typeKey).map Json.toCell)).name := by
    rw [get?_entryRow hkeys, if_pos rfl]
  refine ⟨⟨name, hname, ?_, Text.dash_notMem_camelCase _⟩, htype, ?_, fun hnone => ?_, fun v hv => ?_, ?_,
    fun key v hv hkeyName hkeyType hkeyHost => ?_, hrowKeys⟩
  · rw [Row.name?, get?_entryRow hkeys, if_neg (by decide), if_neg (by decide), if_pos rfl]
  · have hnotArray := ofHostType_ne_array ((entry.get? Row.typeKey).map Json.toCell)
    rw [htype]
    revert hnotArray
    cases LogicalType.ofHostType ((entry.get? Row.typeKey).map Json.toCell) <;> simp
  · rw [htype, Entries.get?_eq_none_iff.2 hnone]
    rfl
  · rw [get?_entryRow hkeys, if_neg (by decide), if_pos rfl, hv]
    rfl
  · have hne : Row.hostTypeKey ≠ Row.typeKey := by decide
    rw [hrowKeys, List.mem_append, addedKeys_eq]
    split
    · next htypeKey => split <;> simp [*]
    · next htypeKey => simp [htypeKey, hne]
  · rw [get?_entryRow hkeys, if_neg hkeyType, if_neg hkeyName, hv]
    split
    · next hhost => rw [Entries.get?_eq_none_iff.2 (hkeyHost hhost)]; rfl
    · rfl

/-! ## The rows -/

/-- In a list of objects that is read no entry has a key twice, at any depth. -/
theorem keysDistinct_entry_of_read {entries : List (Entries Json)} (hread : Json.read t = .ok (.object document))
    (hlist : document.get? propertiesKey = some (Document.arrayOfObjects entries)) :
    ∀ entry ∈ entries, (Json.object entry).KeysDistinct := by
  intro entry hentry
  have hdistinct := Document.keysDistinct_of_get? hread hlist
  rw [Document.arrayOfObjects, Json.keysDistinct_array_iff] at hdistinct
  exact hdistinct _ (List.mem_map_of_mem hentry)

/-- In a list of objects that is read no entry has a key twice. -/
theorem nodup_keys_of_read {entries : List (Entries Json)} (hread : Json.read t = .ok (.object document))
    (hlist : document.get? propertiesKey = some (Document.arrayOfObjects entries)) :
    ∀ entry ∈ entries, (Entries.keys entry).Nodup := by
  intro entry hentry
  exact (Json.keysDistinct_object_iff.1 (keysDistinct_entry_of_read hread hlist entry hentry)).1

/-- Where a main configuration gives rows, they are one for each entry of its list of properties, in order, and none without
a list. Each holds its name in camel case without a dash, the logical type of its host type, the host type under a key of its
own, and everything else as the entry has it; its keys are those of the entry, with at most one more at the end. -/
theorem rows_shape (t : Text) (rows : List Row) (h : MainConfiguration.rows t = .ok rows) :
    ∃ (document : Entries Json) (entries : List (Entries Json)), Json.read t = .ok (.object document) ∧
      (propertiesKey ∉ document.keys ∧ entries = [] ∨
        document.get? propertiesKey = some (Document.arrayOfObjects entries)) ∧
      List.Forall₂ IsEntryRow entries rows := by
  obtain ⟨document, hread, hrows⟩ := rows_ok_iff.1 h
  rcases rowsIn_ok_iff.1 hrows with ⟨hnone, rfl⟩ | ⟨entries, hlist, hentries⟩
  · exact ⟨document, [], hread, Or.inl ⟨hnone, rfl⟩, .nil⟩
  · have hall := (List.forall₂_and_left _ _).2 ⟨nodup_keys_of_read hread hlist, hentries⟩
    refine ⟨document, entries, hread, Or.inr hlist, hall.imp ?_⟩
    rintro entry _ ⟨hkeys, _, name, hname, rfl⟩
    exact isEntryRow_entryRow hkeys hname

/-- A main configuration with an entry that brings its own value for the key of the host type, and one without a type. -/
def typed : Text :=
  "\x7b\"properties\":[\x7b\"javaType\":\"x\",\"type\":\"int\",\"name\":\"a-b\"\x7d,\x7b\"name\":[\"-\",\"c\"]\x7d]\x7d"

/-- The entries of `typed`. -/
def typedEntries : List (Entries Json) :=
  [[("javaType", .string "x"), ("type", .string "int"), ("name", .string "a-b")], [("name", .array [.string "-", .string "c"])]]

theorem read_typed : Json.read typed = .ok (.object [(propertiesKey, Document.arrayOfObjects typedEntries)]) := by
  have hwrite : typed = Json.write (.object [(propertiesKey, Document.arrayOfObjects typedEntries)]) := by decide
  rw [hwrite]
  refine Json.read_write ?_ ?_ (by decide)
  · simp [typedEntries, Document.arrayOfObjects, Json.KeysDistinct, Json.ItemsDistinct, Json.EntriesDistinct, Entries.keys]
    decide
  · simp [typedEntries, Document.arrayOfObjects, Json.Exact, Json.ItemsExact, Json.EntriesExact]

/-- In `typed` the host type of the first entry takes the place of the entry's own value for its key, and the second entry,
whose name is an array, has the type of an object behind it. -/
theorem rows_shape_typed :
    ∃ rows, MainConfiguration.rows typed = .ok rows ∧
      rows.map (·.entries) =
        [[(Text.ofString "javaType", Text.ofString "int"), (Text.ofString "type", Text.ofString "integer"),
            (Text.ofString "name", Text.ofString "aB")],
          [(Text.ofString "name", Text.ofString ",c"), (Text.ofString "type", Text.ofString "object")]] ∧
      ∃ (document : Entries Json) (entries : List (Entries Json)), Json.read typed = .ok (.object document) ∧
        (propertiesKey ∉ document.keys ∧ entries = [] ∨
          document.get? propertiesKey = some (Document.arrayOfObjects entries)) ∧
        List.Forall₂ IsEntryRow entries rows := by
  have hrows : MainConfiguration.rows typed =
      .ok [entryRow typedEntries[0] (.string "a-b"), entryRow typedEntries[1] (.array [.string "-", .string "c"])] :=
    rows_ok_iff.2 ⟨_, read_typed, rfl⟩
  exact ⟨_, hrows, by decide +kernel, rows_shape typed _ hrows⟩

end MainConfiguration

end Descriptors
