import Descriptors.Proofs.Descriptor.Document
import Descriptors.Proofs.Row.Cells
import Mathlib.Data.List.Permutation

/-!
# The rows of a group

Statements about `Group.rows` in its two forms. The pairs of a document that is read have distinct keys, so a row of attributes
is one pair of the group with its escaped cell, and the row of a property is its name followed by the cells of its metadata
(`Group.IsPropertyRow`). The metadata are written after the name: a `name` among them takes the place of the property key, and
the rows are named by the keys exactly when none of them does so with another text (`Group.property_names_iff`). Values that are
nested too deep for a row leave a group without rows.

Where a group gives rows in the form of properties it gives as many in the form of attributes, in the same order
(`Group.forms_agree`).
-/

namespace Descriptors

/-! ## The cells of a metadata map -/

namespace Row

variable {metadata : Entries Json}

/-- The cells of a metadata map stand under its keys. -/
theorem keys_metadataCells (metadata : Entries Json) : (metadataCells metadata).keys = metadata.keys :=
  Entries.keys_map (fun v : Json => v.toCell.escapeControls) metadata

/-- Cells repeat a key only where the metadata do. -/
theorem nodup_metadataCells (h : metadata.keys.Nodup) : (metadataCells metadata).keys.Nodup := by
  rw [keys_metadataCells]
  exact h

/-- The cell under a key is that of the value under it. -/
theorem get?_metadataCells (key : Text) (metadata : Entries Json) :
    (metadataCells metadata).get? key = (metadata.get? key).map fun v => v.toCell.escapeControls :=
  Entries.get?_map (fun v : Json => v.toCell.escapeControls) key metadata

/-- The row of a metadata map without repeated keys is its cells as they stand. -/
theorem ofMetadata_entries (h : metadata.keys.Nodup) : (ofMetadata metadata).entries = metadataCells metadata :=
  Entries.putAll_nil (nodup_metadataCells h)

/-- The row of a metadata map without repeated keys has under each key the escaped cell of the value under it. -/
theorem get?_ofMetadata (key : Text) (h : metadata.keys.Nodup) :
    (ofMetadata metadata).get? key = (metadata.get? key).map fun v => v.toCell.escapeControls := by
  rw [OrderedMap.get?, ofMetadata_entries h, get?_metadataCells]

end Row

namespace Group

variable {group name key t : Text} {form : GroupForm} {metadata document : Entries Json} {rows : List Row}

/-! ## The row of a property -/

/-- What the row of a property holds: its name in front, and the escaped cell of every value of the metadata under its key, in
the order of the metadata. The property key is the name where the metadata have none. -/
structure IsPropertyRow (name : Text) (metadata : Entries Json) (r : Row) : Prop where
  keys : r.keys = Row.nameKey :: metadata.keys.filter (· ≠ Row.nameKey)
  cells : ∀ key v, metadata.get? key = some v → r.get? key = some v.toCell.escapeControls
  name : Row.nameKey ∉ metadata.keys → r.name? = some name

/-- The pairs of the row of a property: the name, and then the cells of the metadata written over it. -/
theorem propertyRow_entries (name : Text) (h : metadata.keys.Nodup) :
    (propertyRow name metadata).entries = Entries.putAll [(Row.nameKey, name)] (Row.metadataCells metadata) := by
  rw [← Row.ofMetadata_entries h]
  rfl

/-- The cell under a key of the row of a property: that of the metadata, else the property key under `name`. -/
theorem get?_propertyRow (name key : Text) (h : metadata.keys.Nodup) :
    (propertyRow name metadata).get? key =
      ((metadata.get? key).map fun v => v.toCell.escapeControls).or (if key = Row.nameKey then some name else none) := by
  rw [OrderedMap.get?, propertyRow_entries name h, Entries.get?_putAll, Entries.get?_reverse key (Row.nodup_metadataCells h),
    Row.get?_metadataCells, Entries.get?_cons]
  rfl

theorem isPropertyRow_propertyRow (name : Text) (h : metadata.keys.Nodup) :
    IsPropertyRow name metadata (propertyRow name metadata) where
  keys := by
    rw [OrderedMap.keys, propertyRow_entries name h, Entries.keys_putAll (Row.nodup_metadataCells h),
      Row.keys_metadataCells]
    simp [Entries.keys]
  cells key v hv := by rw [get?_propertyRow name key h, hv, Option.map_some, Option.some_or]
  name hnone := by
    rw [Row.name?, get?_propertyRow name _ h, Entries.get?_eq_none_iff.2 hnone, Option.map_none, Option.none_or, if_pos rfl]

/-- The name in the row of a property: the name among the metadata, else the property key. -/
def shownName (name : Text) (metadata : Entries Json) : Text :=
  ((metadata.get? Row.nameKey).map fun v => v.toCell.escapeControls).getD name

theorem name?_propertyRow (name : Text) (h : metadata.keys.Nodup) :
    (propertyRow name metadata).name? = some (shownName name metadata) := by
  rw [Row.name?, get?_propertyRow name _ h, if_pos rfl, shownName]
  cases metadata.get? Row.nameKey <;> rfl

/-! ## The rows of the attributes -/

/-- The rows of the attributes are the pairs of the group one by one, in order. -/
theorem attributeRows_entries (h : metadata.keys.Nodup) :
    (attributeRows metadata).map (·.entries) = metadata.map fun e => [(e.1, e.2.toCell.escapeControls)] := by
  rw [attributeRows, Row.ofMetadata_entries h, Row.metadataCells, List.map_map, List.map_map]
  rfl

/-! ## Both forms -/

/-- A group gives rows exactly when the text is an object and the group of it does. -/
theorem rows_ok_iff :
    Group.rows group form t = .ok rows ↔
      ∃ document, Json.read t = .ok (.object document) ∧ rowsIn group form document = .ok rows := by
  rw [← Document.read_bind_ok_iff, Group.rows]
  cases Document.read t >>= rowsIn group form <;> simp

/-- What is too deep for a row in the first of some properties that has no row. -/
def tooDeep? (properties : Entries (Entries Json)) : Option Json.Container := properties.findSome? fun e => Row.tooDeep? e.2

/-- Nothing is too deep in some properties exactly when no value of their metadata takes too many calls. -/
theorem tooDeep?_eq_none_iff {properties : Entries (Entries Json)} :
    tooDeep? properties = none ↔ ∀ e ∈ properties, ∀ p ∈ e.2, p.2.cellDepth ≤ Json.greatestDepth := by
  simp only [tooDeep?, List.findSome?_eq_none_iff, Row.tooDeep?_eq_none_iff, Json.tooDeep?_eq_none_iff]

/-- The rows of some properties: one for each, or the first value that is too deep. -/
theorem mapM_ifShown (properties : Entries (Entries Json)) :
    (properties.mapM fun e => Row.ifShown e.2 (propertyRow e.1 e.2)) =
      match tooDeep? properties with
      | none => .ok (properties.map fun e => propertyRow e.1 e.2)
      | some container => .error (.cellTooDeep container) := by
  induction properties with
  | nil => rfl
  | cons e properties ih =>
    rw [List.mapM_cons, ih, tooDeep?, tooDeep?, List.findSome?_cons, Row.ifShown]
    cases Row.tooDeep? e.2 with
    | some container => rfl
    | none => cases List.findSome? (fun e => Row.tooDeep? e.2) properties <;> rfl

/-- In the form of properties a group that is there gives rows exactly when it is an object of objects without a value that is too
deep: one row for each. -/
theorem rowsOf_properties_ok_iff {v : Json} :
    rowsOf .properties v = .ok rows ↔
      ∃ properties, v = Document.objectOfObjects properties ∧ tooDeep? properties = none ∧
        rows = properties.map fun e => propertyRow e.1 e.2 := by
  rw [rowsOf, Outcome.bind_ok_iff]
  refine exists_congr fun properties => and_congr Document.asObjectOfObjects_ok_iff ?_
  change properties.mapM (fun e => Row.ifShown e.2 (propertyRow e.1 e.2)) = _ ↔ _
  rw [mapM_ifShown]
  cases tooDeep? properties <;> simp [eq_comm]

/-- In the form of attributes a group that is there gives rows exactly when it is an object without a value that is too deep. -/
theorem rowsOf_attributes_ok_iff {v : Json} :
    rowsOf .attributes v = .ok rows ↔
      ∃ metadata, v = .object metadata ∧ Row.tooDeep? metadata = none ∧ rows = attributeRows metadata := by
  rw [rowsOf, Outcome.bind_ok_iff]
  refine exists_congr fun metadata => and_congr Document.asObject_ok_iff ?_
  rw [Row.ifShown_ok_iff, eq_comm (a := attributeRows metadata)]

/-- In an object of objects that is read no property comes twice, and no key of its metadata. -/
theorem distinct_of_objectOfObjects {properties : Entries (Entries Json)}
    (h : (Document.objectOfObjects properties).KeysDistinct) :
    properties.keys.Nodup ∧ ∀ e ∈ properties, (Entries.keys e.2).Nodup := by
  rw [Document.objectOfObjects, Json.keysDistinct_object_iff, Entries.keys_map] at h
  obtain ⟨hkeys, hmetadata⟩ := h
  refine ⟨hkeys, fun e he => ?_⟩
  exact (Json.keysDistinct_object_iff.1 (hmetadata _ (List.mem_map_of_mem he))).1

/-- The group of a document, empty where the document has none. -/
def valueIn (group : Text) (document : Entries Json) : Json := (document.get? group).getD (.object [])

/-- A group that is not there gives the rows of an empty one. -/
theorem rowsIn_eq (group : Text) (form : GroupForm) (document : Entries Json) :
    rowsIn group form document = rowsOf form (valueIn group document) := by
  unfold rowsIn valueIn
  cases document.get? group with
  | none => cases form <;> rfl
  | some v => rfl

/-- The group of a document that is read has distinct keys at every depth. -/
theorem keysDistinct_valueIn (group : Text) (h : Json.read t = .ok (.object document)) :
    (valueIn group document).KeysDistinct := by
  unfold valueIn
  cases hv : document.get? group with
  | none => simp [Json.KeysDistinct, Entries.keys, Json.EntriesDistinct]
  | some v => exact Document.keysDistinct_of_get? h hv

/-- The group of a document that is read is within the limits of the reader. -/
theorem withinLimits_valueIn (group : Text) (h : Json.read t = .ok (.object document)) : (valueIn group document).WithinLimits := by
  unfold valueIn
  cases hv : document.get? group with
  | none => exact ⟨by simp [Json.Readable, Json.Each, Json.EntriesEach], by decide⟩
  | some v =>
    have hmem := (Entries.get?_eq_some_iff (Document.distinct_of_read h).1).1 hv
    exact (Json.withinLimits_of_read h).of_mem hmem

/-- No object among the values of a group that is read is too deep for a row. -/
theorem tooDeep?_objects {properties : Entries (Entries Json)} (hread : Json.read t = .ok (.object document))
    (hvalue : valueIn group document = Document.objectOfObjects properties) :
    Row.tooDeep? (properties.map fun e => (e.1, Json.object e.2)) = none := by
  have hlimits := withinLimits_valueIn group hread
  rw [hvalue, Document.objectOfObjects] at hlimits
  rw [Row.tooDeep?_eq_none_iff, List.forall_mem_map]
  exact fun e he => (hlimits.of_mem (List.mem_map_of_mem he)).tooDeep?_object

/-- In a group of a document that is read no property comes twice, and no key of its metadata. -/
theorem distinct_of_valueIn {properties : Entries (Entries Json)} (hread : Json.read t = .ok (.object document))
    (hvalue : valueIn group document = Document.objectOfObjects properties) :
    properties.keys.Nodup ∧ ∀ e ∈ properties, (Entries.keys e.2).Nodup := by
  have h := keysDistinct_valueIn group hread
  rw [hvalue] at h
  exact distinct_of_objectOfObjects h

/-- A group that gives rows in the form of properties is an object of objects, one row for each, without repeated keys. -/
theorem rows_properties (h : Group.rows group .properties t = .ok rows) :
    ∃ document properties, Json.read t = .ok (.object document) ∧
      valueIn group document = Document.objectOfObjects properties ∧
      rows = properties.map (fun e => propertyRow e.1 e.2) ∧
      properties.keys.Nodup ∧ ∀ e ∈ properties, (Entries.keys e.2).Nodup := by
  obtain ⟨document, hread, hrows⟩ := rows_ok_iff.1 h
  rw [rowsIn_eq, rowsOf_properties_ok_iff] at hrows
  obtain ⟨properties, hvalue, _, hrows⟩ := hrows
  exact ⟨document, properties, hread, hvalue, hrows, distinct_of_valueIn hread hvalue⟩

/-- A group that gives rows in the form of attributes is an object without repeated keys, and the rows are its pairs one by one. -/
theorem rows_attributes (h : Group.rows group .attributes t = .ok rows) :
    ∃ document metadata, Json.read t = .ok (.object document) ∧ valueIn group document = .object metadata ∧
      rows = attributeRows metadata ∧ (Entries.keys metadata).Nodup := by
  obtain ⟨document, hread, hrows⟩ := rows_ok_iff.1 h
  rw [rowsIn_eq, rowsOf_attributes_ok_iff] at hrows
  obtain ⟨metadata, hvalue, _, rfl⟩ := hrows
  have hdistinct := keysDistinct_valueIn group hread
  rw [hvalue, Json.KeysDistinct] at hdistinct
  exact ⟨document, metadata, hread, hvalue, rfl, hdistinct.1⟩

/-- A group of a document that is read gives what its value under the group's key gives. -/
theorem rows_of_read (hread : Json.read t = .ok (.object document)) :
    Group.rows group form t =
      match rowsIn group form document with
      | .ok rows => .ok rows
      | .error cause => .error ⟨.group group, cause⟩ := by
  rw [Group.rows, Document.read_ok_iff.2 hread]
  rfl

/-- An object of objects that is read gives rows exactly when nothing in it is too deep for a row. -/
theorem rows_ok_iff_of_read {properties : Entries (Entries Json)} (hread : Json.read t = .ok (.object document))
    (hvalue : valueIn group document = Document.objectOfObjects properties) :
    Group.rows group .properties t = .ok rows ↔
      tooDeep? properties = none ∧ rows = properties.map fun e => propertyRow e.1 e.2 := by
  have hin : Group.rows group .properties t = .ok rows ↔
      rowsOf .properties (Document.objectOfObjects properties) = .ok rows := by
    rw [rows_of_read hread, rowsIn_eq, hvalue]
    cases rowsOf .properties (Document.objectOfObjects properties) <;> simp
  rw [hin, rowsOf_properties_ok_iff]
  constructor
  · rintro ⟨properties', h, hshown, rfl⟩
    obtain rfl := Document.objectOfObjects_inj h
    exact ⟨hshown, rfl⟩
  · exact fun ⟨hshown, hrows⟩ => ⟨properties, rfl, hshown, hrows⟩

/-! ## Names and property keys -/

/-- A group of properties gives rows exactly when no value of its metadata is too deep for a row. The rows are one for each property,
in order, and each is named by the name among its metadata, else by its key. So the names are the property keys, each once, exactly
when no metadata have a name whose cell is not the key. -/
theorem property_names_iff (group t : Text) (document : Entries Json) (properties : Entries (Entries Json))
    (hread : Json.read t = .ok (.object document))
    (hgroup : document.get? group = some (Document.objectOfObjects properties)) :
    ((∃ rows, Group.rows group .properties t = .ok rows) ↔
      ∀ e ∈ properties, ∀ p ∈ e.2, p.2.cellDepth ≤ Json.greatestDepth) ∧
    ∀ rows, Group.rows group .properties t = .ok rows →
      rows.length = properties.length ∧
      rows.map (·.name?) = properties.map (fun e => some (shownName e.1 e.2)) ∧
      (rows.map (·.name?) = properties.map (fun e => some e.1) ↔
        ∀ e ∈ properties, ∀ v, Entries.get? Row.nameKey e.2 = some v → v.toCell.escapeControls = e.1) ∧
      (rows.map (·.name?) = properties.map (fun e => some e.1) → (rows.map (·.name?)).Nodup) := by
  have hvalue : valueIn group document = Document.objectOfObjects properties := by rw [valueIn, hgroup, Option.getD_some]
  have hrows : ∀ rows, Group.rows group .properties t = .ok rows ↔
      tooDeep? properties = none ∧ rows = properties.map fun e => propertyRow e.1 e.2 :=
    fun rows => rows_ok_iff_of_read hread hvalue
  obtain ⟨hkeys, hmetadata⟩ := distinct_of_valueIn hread hvalue
  have hnames : (properties.map fun e => propertyRow e.1 e.2).map (·.name?) =
      properties.map fun e => some (shownName e.1 e.2) := by
    rw [List.map_map]
    exact List.map_congr_left fun e he => name?_propertyRow e.1 (hmetadata e he)
  refine ⟨?_, fun rows h => ?_⟩
  · rw [← tooDeep?_eq_none_iff]
    exact ⟨fun ⟨rows, h⟩ => ((hrows rows).1 h).1, fun h => ⟨_, (hrows _).2 ⟨h, rfl⟩⟩⟩
  obtain ⟨_, rfl⟩ := (hrows rows).1 h
  refine ⟨List.length_map _, hnames, ?_, fun h => ?_⟩
  · rw [hnames, List.map_inj_left]
    refine forall₂_congr fun e _ => ?_
    rw [Option.some.injEq, shownName]
    cases Entries.get? Row.nameKey e.2 <;> simp
  · rw [h]
    have hsome : properties.map (fun e => some e.1) = properties.keys.map some := by rw [Entries.keys, List.map_map]; rfl
    rw [hsome]
    exact hkeys.map fun _ _ => Option.some.inj

/-- A descriptor whose first property is given the name of the second one. -/
def clashing : Text := "\x7b\"properties\":\x7b\"a\":\x7b\"name\":\"b\"\x7d,\"b\":\x7b\"type\":\"x\"\x7d\x7d\x7d"

/-- The group of `clashing`. -/
def clashingGroup : Entries (Entries Json) := [("a", [("name", .string "b")]), ("b", [("type", .string "x")])]

set_option maxRecDepth 20000 in
theorem read_clashing : Json.read clashing = .ok (.object [(properties, Document.objectOfObjects clashingGroup)]) := by
  cbv

theorem rows_clashing :
    Group.rows properties .properties clashing = .ok (clashingGroup.map fun e => propertyRow e.1 e.2) :=
  rows_ok_iff.2 ⟨_, read_clashing, rfl⟩

/-- Both rows of `clashing` are named by the second property key. -/
theorem property_names_clashing :
    Json.read clashing = .ok (.object [(properties, Document.objectOfObjects clashingGroup)]) ∧
      Entries.get? properties [(properties, Document.objectOfObjects clashingGroup)] =
        some (Document.objectOfObjects clashingGroup) ∧
      ∃ rows, Group.rows properties .properties clashing = .ok rows ∧ rows.length = 2 ∧
        rows.map (·.name?) = [some (Text.ofString "b"), some (Text.ofString "b")] := by
  obtain ⟨hlength, hnames, _⟩ := (property_names_iff properties clashing _ clashingGroup read_clashing rfl).2 _ rows_clashing
  exact ⟨read_clashing, rfl, _, rows_clashing, hlength, hnames⟩

/-- The names of the rows need not be the property keys: two rows of `clashing` have the same name. -/
theorem property_names_false :
    ¬ ∀ (group t : Text) (document : Entries Json) (properties : Entries (Entries Json)) (rows : List Row),
      Json.read t = .ok (.object document) → document.get? group = some (Document.objectOfObjects properties) →
        Group.rows group .properties t = .ok rows → rows.map (·.name?) = properties.map (fun e => some e.1) := by
  intro h
  have hnames := h properties clashing _ clashingGroup _ read_clashing rfl rows_clashing
  revert hnames
  decide +kernel

/-! ## The two forms of one group -/

/-- The two forms agree. Where a group gives rows in the form of properties, it gives as many in the form of attributes. The group
is then an object of objects, or is not there: each attribute row is one pair of it with its escaped cell, and the row of
properties at the same place holds the name and the cells of the metadata. No key comes twice in the attribute rows, and one
after the other they are the row of the group taken as metadata. -/
theorem forms_agree (group t : Text) (rows : List Row) (h : Group.rows group .properties t = .ok rows) :
    ∃ attributes document properties, Group.rows group .attributes t = .ok attributes ∧ attributes.length = rows.length ∧
      Json.read t = .ok (.object document) ∧ valueIn group document = Document.objectOfObjects properties ∧
      attributes.map (·.entries) = properties.map (fun e => [(e.1, (Json.object e.2).toCell.escapeControls)]) ∧
      List.Forall₂ (fun e r => IsPropertyRow e.1 e.2 r) properties rows ∧
      (attributes.flatMap (·.keys)).Nodup ∧
      attributes.flatMap (·.entries) = (Row.ofMetadata (properties.map fun e => (e.1, .object e.2))).entries := by
  obtain ⟨document, properties, hread, hvalue, rfl, hkeys, hmetadata⟩ := rows_properties h
  have hobjects : (Entries.keys (properties.map fun e => (e.1, Json.object e.2))).Nodup := by
    rw [Entries.keys_map]
    exact hkeys
  have hentries := attributeRows_entries hobjects
  rw [List.map_map] at hentries
  have hflat : (attributeRows (properties.map fun e => (e.1, Json.object e.2))).flatMap (·.entries) =
      (Row.ofMetadata (properties.map fun e => (e.1, Json.object e.2))).entries := by
    rw [List.flatMap_def, hentries, Row.ofMetadata_entries hobjects, Row.metadataCells, List.map_map, ← List.flatMap_def,
      List.map_eq_flatMap]
    rfl
  have hflatKeys : (attributeRows (properties.map fun e => (e.1, Json.object e.2))).flatMap (·.keys) =
      (Row.ofMetadata (properties.map fun e => (e.1, Json.object e.2))).keys := by
    rw [OrderedMap.keys, Entries.keys, ← hflat, List.map_flatMap]
    rfl
  refine ⟨attributeRows (properties.map fun e => (e.1, .object e.2)), document, properties, ?_, ?_, hread, hvalue, hentries, ?_, ?_,
    hflat⟩
  · rw [rows_ok_iff]
    refine ⟨document, hread, ?_⟩
    rw [rowsIn_eq, hvalue, rowsOf_attributes_ok_iff]
    exact ⟨_, rfl, tooDeep?_objects hread hvalue, rfl⟩
  · have hlength := congrArg List.length hentries
    simpa only [List.length_map] using hlength
  · rw [List.forall₂_map_right_iff, List.forall₂_same]
    exact fun e he => isPropertyRow_propertyRow e.1 (hmetadata e he)
  · rw [hflatKeys]
    exact (Row.ofMetadata _).distinct

/-- The two forms of the group of `clashing`. -/
theorem forms_agree_clashing :
    ∃ rows attributes, Group.rows properties .properties clashing = .ok rows ∧
      Group.rows properties .attributes clashing = .ok attributes ∧ attributes.length = rows.length ∧
      (attributes.flatMap (·.keys)).Nodup := by
  obtain ⟨attributes, _, _, hattributes, hlength, _, _, _, _, hnodup, _⟩ := forms_agree properties clashing _ rows_clashing
  exact ⟨_, attributes, rows_clashing, hattributes, hlength, hnodup⟩

end Group

end Descriptors
