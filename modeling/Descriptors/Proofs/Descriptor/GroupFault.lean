import Descriptors.Proofs.Descriptor.GroupRows

/-!
# When a group has no rows

`Group.Fails` names the phases in which `Group.rows` can fail, each with the one cause that it reports: the reader, the document,
the group, in the form of properties the values of the group, and last the values that are to be shown. The rows are given or one of
these causes is (`Group.rows_error_iff`), and nothing of a document but the value under the group's key counts
(`Group.rows_congr`).
-/

namespace Descriptors

/-- The shape that is asked of a group. -/
def GroupForm.shape : GroupForm → Shape
  | .properties => .objectOfObjects
  | .attributes => .object

namespace Group

variable {group t : Text} {form : GroupForm} {v : Json} {document entries : Entries Json} {rows : List Row}
  {cause : DescriptorCause} {fault : DescriptorFault}

/-- The causes for which a group of a text has no rows. -/
inductive Fails (group : Text) (form : GroupForm) (t : Text) : DescriptorCause → Prop where
  /-- The text is not read, for a complaint of the grammar, an integer that is too long or nesting that is too deep. -/
  | unreadable {fault : Json.Fault Position} : Json.read t = .error fault → Fails group form t (.unreadable fault)
  /-- The document is no object. -/
  | documentMisshapen {v : Json} : Json.read t = .ok v → Document.isObject v = false →
      Fails group form t (.misshapen .object [.of .whole .object v])
  /-- The group is there and is no object. -/
  | groupMisshapen {document : Entries Json} {v : Json} : Json.read t = .ok (.object document) →
      document.get? group = some v → Document.isObject v = false →
      Fails group form t (.misshapen form.shape [.of .whole .object v])
  /-- In the form of properties some values of the group are no objects: they are listed in the order of the document, each under
  its key as it is shown. -/
  | valuesMisshapen {document entries : Entries Json} : Json.read t = .ok (.object document) →
      document.get? group = some (.object entries) → form = .properties →
      (entries.filter fun e => !Document.isObject e.2) ≠ [] →
      Fails group form t (.misshapen .objectOfObjects
        ((entries.filter fun e => !Document.isObject e.2).map fun e => .of (.key (PartPlace.shownKey e.1)) .object e.2))
  /-- In the form of properties some value of the metadata is too deep for a row. -/
  | propertyTooDeep {document : Entries Json} {properties : Entries (Entries Json)} {container : Json.Container} :
      Json.read t = .ok (.object document) → document.get? group = some (Document.objectOfObjects properties) →
      form = .properties → tooDeep? properties = some container → Fails group form t (.cellTooDeep container)
  /-- In the form of attributes some value of the group is too deep for a row. -/
  | attributeTooDeep {document entries : Entries Json} {container : Json.Container} : Json.read t = .ok (.object document) →
      document.get? group = some (.object entries) → form = .attributes → Row.tooDeep? entries = some container →
      Fails group form t (.cellTooDeep container)

/-! ## One group -/

/-- In the form of attributes a group that is there fails exactly when it is no object or a value of it is too deep. -/
theorem rowsOf_attributes_error_iff :
    rowsOf .attributes v = .error cause ↔
      Document.isObject v = false ∧ cause = .misshapen .object [.of .whole .object v] ∨
        ∃ entries container, v = .object entries ∧ Row.tooDeep? entries = some container ∧ cause = .cellTooDeep container := by
  simp only [rowsOf, Outcome.bind_error_iff, Document.asObject_error_iff, Document.asObject_ok_iff, Row.ifShown_error_iff,
    exists_and_left]

/-- In the form of properties a group that is there fails exactly when it is no object, has strangers or has metadata with a value
that is too deep. -/
theorem rowsOf_properties_error_iff :
    rowsOf .properties v = .error cause ↔
      (Document.isObject v = false ∧ cause = .misshapen .objectOfObjects [.of .whole .object v] ∨
        ∃ entries, v = .object entries ∧ Document.strangers entries ≠ [] ∧
          cause = .misshapen .objectOfObjects (Document.strangers entries)) ∨
        ∃ properties container, v = Document.objectOfObjects properties ∧ tooDeep? properties = some container ∧
          cause = .cellTooDeep container := by
  rw [rowsOf, Outcome.bind_error_iff, Document.asObjectOfObjects_error_iff]
  refine or_congr_right (exists_congr fun properties => ?_)
  change _ ∧ properties.mapM (fun e => Row.ifShown e.2 (propertyRow e.1 e.2)) = _ ↔ _
  rw [Document.asObjectOfObjects_ok_iff, mapM_ifShown, exists_and_left]
  refine and_congr_right fun _ => ?_
  cases tooDeep? properties <;> simp [eq_comm]

/-- A group that is not there never fails. -/
theorem rowsIn_error_iff :
    rowsIn group form document = .error cause ↔ ∃ v, document.get? group = some v ∧ rowsOf form v = .error cause := by
  unfold rowsIn
  cases document.get? group <;> simp

/-! ## The whole text -/

/-- A failure names its group, and its cause is that of the document or of the group. -/
theorem rows_error_iff_cause :
    Group.rows group form t = .error fault ↔
      fault.part = .group group ∧
        (Document.read t = .error fault.cause ∨
          ∃ document, Json.read t = .ok (.object document) ∧ rowsIn group form document = .error fault.cause) := by
  obtain ⟨part, cause⟩ := fault
  rw [← Document.read_bind_error_iff, Group.rows]
  cases Document.read t >>= rowsIn group form <;> simp [eq_comm]

/-- A group fails in one phase, with the cause of that phase. -/
theorem rows_error_iff (group : Text) (form : GroupForm) (t : Text) (fault : DescriptorFault) :
    Group.rows group form t = .error fault ↔ fault.part = .group group ∧ Fails group form t fault.cause := by
  rw [rows_error_iff_cause]
  refine and_congr_right fun _ => ?_
  constructor
  · rintro (h | ⟨document, hread, h⟩)
    · rcases Document.read_error_iff.1 h with ⟨f, hread, hc⟩ | ⟨v, hread, hv, hc⟩
      · exact hc ▸ .unreadable hread
      · exact hc ▸ .documentMisshapen hread hv
    · obtain ⟨v, hgroup, h⟩ := rowsIn_error_iff.1 h
      cases form with
      | attributes =>
        rcases rowsOf_attributes_error_iff.1 h with ⟨hv, hc⟩ | ⟨entries, container, rfl, hdeep, hc⟩
        · exact hc ▸ .groupMisshapen hread hgroup hv
        · exact hc ▸ .attributeTooDeep hread hgroup rfl hdeep
      | properties =>
        rcases rowsOf_properties_error_iff.1 h with (⟨hv, hc⟩ | ⟨entries, rfl, hne, hc⟩) | ⟨properties, container, rfl, hdeep, hc⟩
        · exact hc ▸ .groupMisshapen hread hgroup hv
        · exact hc ▸ .valuesMisshapen hread hgroup rfl fun hnil => hne (by rw [Document.strangers, hnil, List.map_nil])
        · exact hc ▸ .propertyTooDeep hread hgroup rfl hdeep
  · intro h
    generalize fault.cause = cause at h
    have hgroup : ∀ {document : Entries Json} {v : Json}, Json.read t = .ok (.object document) → document.get? group = some v →
        rowsOf form v = .error cause → Document.read t = .error cause ∨
          ∃ document, Json.read t = .ok (.object document) ∧ rowsIn group form document = .error cause :=
      fun hread hvalue herror => Or.inr ⟨_, hread, rowsIn_error_iff.2 ⟨_, hvalue, herror⟩⟩
    cases h with
    | unreadable hread => exact Or.inl (Document.read_error_iff.2 (Or.inl ⟨_, hread, rfl⟩))
    | documentMisshapen hread hv => exact Or.inl (Document.read_error_iff.2 (Or.inr ⟨_, hread, hv, rfl⟩))
    | groupMisshapen hread hvalue hv =>
      cases form with
      | attributes => exact hgroup hread hvalue (rowsOf_attributes_error_iff.2 (Or.inl ⟨hv, rfl⟩))
      | properties => exact hgroup hread hvalue (rowsOf_properties_error_iff.2 (Or.inl (Or.inl ⟨hv, rfl⟩)))
    | valuesMisshapen hread hvalue hform hne =>
      subst hform
      refine hgroup hread hvalue (rowsOf_properties_error_iff.2 (Or.inl (Or.inr ⟨_, rfl, ?_, rfl⟩)))
      rw [Document.strangers, ne_eq, List.map_eq_nil_iff]
      exact hne
    | propertyTooDeep hread hvalue hform hdeep =>
      subst hform
      exact hgroup hread hvalue (rowsOf_properties_error_iff.2 (Or.inr ⟨_, _, rfl, hdeep, rfl⟩))
    | attributeTooDeep hread hvalue hform hdeep =>
      subst hform
      exact hgroup hread hvalue (rowsOf_attributes_error_iff.2 (Or.inr ⟨_, _, rfl, hdeep, rfl⟩))

/-- Nothing of a document but the value under the group's key counts. -/
theorem rows_congr {t' : Text} {document' : Entries Json} (hread : Json.read t = .ok (.object document))
    (hread' : Json.read t' = .ok (.object document')) (h : document.get? group = document'.get? group) :
    Group.rows group form t = Group.rows group form t' := by
  rw [rows_of_read hread, rows_of_read hread', rowsIn, rowsIn, h]

/-- A group that is there and gives rows gives one for each of its pairs. -/
theorem length_rows (h : Group.rows group form t = .ok rows) (hread : Json.read t = .ok (.object document))
    (hgroup : document.get? group = some (.object entries)) : rows.length = entries.length := by
  have hdistinct := Json.keysDistinct_object_iff.1 (Document.keysDistinct_of_get? hread hgroup)
  obtain ⟨document', hread', hrows⟩ := rows_ok_iff.1 h
  obtain rfl : document = document' := Json.object.inj (Except.ok.inj (hread.symm.trans hread'))
  rw [rowsIn, hgroup] at hrows
  cases form with
  | properties =>
    obtain ⟨properties, hvalue, _, rfl⟩ := rowsOf_properties_ok_iff.1 hrows
    rw [Json.object.inj hvalue, List.length_map, List.length_map]
  | attributes =>
    obtain ⟨metadata, hvalue, _, rfl⟩ := rowsOf_attributes_ok_iff.1 hrows
    obtain rfl := Json.object.inj hvalue
    rw [attributeRows, Row.ofMetadata_entries hdistinct.1, Row.metadataCells, List.length_map, List.length_map]

/-- A group that is not there gives no rows and no fault. -/
theorem rows_of_notMem (hread : Json.read t = .ok (.object document)) (h : group ∉ document.keys) :
    Group.rows group form t = .ok [] := by
  rw [rows_of_read hread, rowsIn, Entries.get?_eq_none_iff.2 h]

/-- A group that is there has a value that is to be shown in a row and takes more calls than levels are read. -/
def HoldsTooDeep (form : GroupForm) (v : Json) : Prop :=
  match form with
  | .properties => ∃ properties, v = Document.objectOfObjects properties ∧
      ∃ e ∈ properties, ∃ p ∈ e.2, Json.greatestDepth < p.2.cellDepth
  | .attributes => ∃ entries, v = .object entries ∧ ∃ e ∈ entries, Json.greatestDepth < e.2.cellDepth

/-- Some value of metadata is too deep exactly when one takes too many calls. -/
theorem exists_tooDeep?_iff {properties : Entries (Entries Json)} :
    (∃ container, tooDeep? properties = some container) ↔ ∃ e ∈ properties, ∃ p ∈ e.2, Json.greatestDepth < p.2.cellDepth := by
  rw [← Option.ne_none_iff_exists', ne_eq, tooDeep?_eq_none_iff]
  simp

/-- Some phase fails exactly when the text is not read, the document or the group is misshapen, or a value is too deep. -/
theorem exists_fails_iff :
    (∃ cause, Fails group form t cause) ↔
      (∃ fault, Json.read t = .error fault) ∨
      (∃ v, Json.read t = .ok v ∧ Document.isObject v = false) ∨
      (∃ (document : Entries Json) (v : Json), Json.read t = .ok (.object document) ∧ document.get? group = some v ∧
        Document.isObject v = false) ∨
      (form = .properties ∧ ∃ document entries : Entries Json, Json.read t = .ok (.object document) ∧
        document.get? group = some (.object entries) ∧ ∃ e ∈ entries, Document.isObject e.2 = false) ∨
      ∃ (document : Entries Json) (v : Json), Json.read t = .ok (.object document) ∧ document.get? group = some v ∧
        HoldsTooDeep form v := by
  constructor
  · rintro ⟨cause, h⟩
    cases h with
    | unreadable hread => exact Or.inl ⟨_, hread⟩
    | documentMisshapen hread hv => exact Or.inr (Or.inl ⟨_, hread, hv⟩)
    | groupMisshapen hread hgroup hv => exact Or.inr (Or.inr (Or.inl ⟨_, _, hread, hgroup, hv⟩))
    | valuesMisshapen hread hgroup hform hne =>
      obtain ⟨e, he⟩ := List.exists_mem_of_ne_nil _ hne
      obtain ⟨he, hv⟩ := List.mem_filter.1 he
      exact Or.inr (Or.inr (Or.inr (Or.inl ⟨hform, _, _, hread, hgroup, e, he, by simpa using hv⟩)))
    | propertyTooDeep hread hgroup hform hdeep =>
      subst hform
      exact Or.inr (Or.inr (Or.inr (Or.inr ⟨_, _, hread, hgroup, _, rfl, exists_tooDeep?_iff.1 ⟨_, hdeep⟩⟩)))
    | attributeTooDeep hread hgroup hform hdeep =>
      subst hform
      exact Or.inr (Or.inr (Or.inr (Or.inr ⟨_, _, hread, hgroup, _, rfl, Row.exists_tooDeep?_iff.1 ⟨_, hdeep⟩⟩)))
  · rintro (⟨fault, hread⟩ | ⟨v, hread, hv⟩ | ⟨document, v, hread, hgroup, hv⟩ |
      ⟨hform, document, entries, hread, hgroup, e, he, hv⟩ | ⟨document, v, hread, hgroup, hdeep⟩)
    · exact ⟨_, .unreadable hread⟩
    · exact ⟨_, .documentMisshapen hread hv⟩
    · exact ⟨_, .groupMisshapen hread hgroup hv⟩
    · exact ⟨_, .valuesMisshapen hread hgroup hform (List.ne_nil_of_mem (List.mem_filter.2 ⟨he, by simp [hv]⟩))⟩
    · cases form with
      | properties =>
        obtain ⟨properties, rfl, hdeep⟩ := hdeep
        obtain ⟨container, hdeep⟩ := exists_tooDeep?_iff.2 hdeep
        exact ⟨_, .propertyTooDeep hread hgroup rfl hdeep⟩
      | attributes =>
        obtain ⟨entries, rfl, hdeep⟩ := hdeep
        obtain ⟨container, hdeep⟩ := Row.exists_tooDeep?_iff.2 hdeep
        exact ⟨_, .attributeTooDeep hread hgroup rfl hdeep⟩

/-- Grouped parsing fails exactly on a malformed document, a malformed group or a value in the group that is too deep for a row, and
nothing else in the document counts. The outcome is rows, one for each pair of the group and none where there is no such group, or a
fault that names the group and has the cause of the phase that failed; and two documents with the same value under the group's key,
or both without one, have the same outcome. Only arrays are too deep, and only those that are nested deeper than a third of what is
read. -/
theorem rows_fail_exactly (group : Text) (form : GroupForm) (t : Text) :
    (∀ fault, Group.rows group form t = .error fault ↔ fault.part = .group group ∧ Fails group form t fault.cause) ∧
    ((∃ fault, Group.rows group form t = .error fault) ↔
      (∃ fault, Json.read t = .error fault) ∨
      (∃ v, Json.read t = .ok v ∧ Document.isObject v = false) ∨
      (∃ (document : Entries Json) (v : Json), Json.read t = .ok (.object document) ∧ document.get? group = some v ∧
        Document.isObject v = false) ∨
      (form = .properties ∧ ∃ document entries : Entries Json, Json.read t = .ok (.object document) ∧
        document.get? group = some (.object entries) ∧ ∃ e ∈ entries, Document.isObject e.2 = false) ∨
      ∃ (document : Entries Json) (v : Json), Json.read t = .ok (.object document) ∧ document.get? group = some v ∧
        HoldsTooDeep form v) ∧
    (∀ v : Json, v.nesting ≤ Json.greatestDepth → Json.greatestDepth < v.cellDepth →
      (∃ items, v = .array items) ∧ Json.greatestDepth < Json.callsPerArray * v.nesting) ∧
    (∀ document : Entries Json, Json.read t = .ok (.object document) → group ∉ document.keys → Group.rows group form t = .ok []) ∧
    (∀ (rows : List Row) (document entries : Entries Json), Group.rows group form t = .ok rows →
      Json.read t = .ok (.object document) → document.get? group = some (.object entries) → rows.length = entries.length) ∧
    ∀ (t' : Text) (document document' : Entries Json), Json.read t = .ok (.object document) →
      Json.read t' = .ok (.object document') → document.get? group = document'.get? group →
      Group.rows group form t = Group.rows group form t' := by
  refine ⟨rows_error_iff group form t, ?_, fun _ hread h => Json.eq_array_of_lt_cellDepth hread h,
    fun _ hread h => rows_of_notMem hread h, fun _ _ _ h hread hgroup => length_rows h hread hgroup,
    fun _ _ _ hread hread' h => rows_congr hread hread' h⟩
  rw [← exists_fails_iff]
  constructor
  · rintro ⟨fault, h⟩
    exact ⟨fault.cause, ((rows_error_iff group form t fault).1 h).2⟩
  · rintro ⟨cause, h⟩
    exact ⟨⟨.group group, cause⟩, (rows_error_iff group form t _).2 ⟨rfl, h⟩⟩

/-- A group with a text in place of metadata, under a key that is a surrogate. -/
def surrogateKey : Text := "\x7b\"g\":\x7b\"\\ud800\":\"x\"\x7d\x7d"

set_option maxRecDepth 20000 in
theorem read_surrogateKey : Json.read surrogateKey = .ok (.object [("g", .object [([0xD800], .string "x")])]) := by
  cbv

/-- The places that are listed are not always the keys: the key of `surrogateKey` is shown as three replacement characters. -/
theorem rows_fail_exactly_false :
    ¬ ∀ (group t : Text) (document entries : Entries Json), Json.read t = .ok (.object document) →
      document.get? group = some (.object entries) → (∃ e ∈ entries, Document.isObject e.2 = false) →
        ∃ mismatches : List Mismatch,
          Group.rows group .properties t = .error ⟨.group group, .misshapen .objectOfObjects mismatches⟩ ∧
          mismatches.map (·.place) = (entries.filter fun e => !Document.isObject e.2).map fun e => PartPlace.key e.1 := by
  intro h
  obtain ⟨mismatches, hrows, hplaces⟩ := h "g" surrogateKey _ _ read_surrogateKey rfl ⟨_, List.mem_singleton_self _, rfl⟩
  have hne : List.filter (fun e => !Document.isObject e.2) [(([0xD800] : Text), Json.string "x")] ≠ [] := List.cons_ne_nil _ _
  have hshown : Group.rows "g" .properties surrogateKey =
      .error ⟨.group "g", .misshapen .objectOfObjects [.of (.key [0xFFFD, 0xFFFD, 0xFFFD]) .object (.string "x")]⟩ :=
    (rows_error_iff _ _ _ _).2 ⟨rfl, .valuesMisshapen read_surrogateKey rfl rfl hne⟩
  rw [hshown] at hrows
  cases hrows
  exact absurd hplaces (by decide)

end Group

end Descriptors
