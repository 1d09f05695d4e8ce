import Descriptors.Proofs.Descriptor.MainRows

/-!
# When the main configuration has no rows

`MainConfiguration.Fails` names the phases in which `MainConfiguration.rows` can fail, each with the one cause that it
reports: the reader, the document, the list of properties, the items of the list, and then entry by entry the depth of its values
and the name. Each phase is reached only where all before it have passed, so that the shape of every item counts before the name of
any. The rows are given, one for each entry, or one of these causes is (`MainConfiguration.rows_all_or_nothing`).
-/

namespace Descriptors.MainConfiguration

variable {t : Text} {document entry : Entries Json} {rows : List Row} {cause : DescriptorCause} {fault : DescriptorFault}

/-- An entry that has a row: no value of it is too deep for one, and it has a usable name. -/
def HasRow (entry : Entries Json) : Prop := Row.tooDeep? entry = none ∧ ∃ name, Named entry name

/-- The causes for which a main configuration has no rows. -/
inductive Fails (t : Text) : DescriptorCause → Prop where
  /-- The text is not read. -/
  | unreadable {fault : Json.Fault Position} : Json.read t = .error fault → Fails t (.unreadable fault)
  /-- The document is no object. -/
  | documentMisshapen {v : Json} : Json.read t = .ok v → Document.isObject v = false →
      Fails t (.misshapen .object [.of .whole .object v])
  /-- The list of properties is there and is no array. -/
  | listMisshapen {document : Entries Json} {v : Json} : Json.read t = .ok (.object document) →
      document.get? propertiesKey = some v → (∀ items, v ≠ .array items) →
      Fails t (.misshapen .arrayOfObjects [.of .whole .array v])
  /-- Some items of the list are no objects: exactly their indices are listed, in increasing order. -/
  | itemsMisshapen {document : Entries Json} {items : List Json} {indices : List Nat} : Json.read t = .ok (.object document) →
      document.get? propertiesKey = some (.array items) → Document.ListsStrangers items indices → indices ≠ [] →
      Fails t (.misshapen .arrayOfObjects (indices.map fun i => .of (.index i) .object (items.getD i .null)))
  /-- All items are objects, and a value of the first one without a row is too deep for one. -/
  | cellTooDeep {document entry : Entries Json} {passed rest : List (Entries Json)} {container : Json.Container} :
      Json.read t = .ok (.object document) →
      document.get? propertiesKey = some (Document.arrayOfObjects (passed ++ entry :: rest)) →
      (∀ e ∈ passed, HasRow e) → Row.tooDeep? entry = some container → Fails t (.cellTooDeep container)
  /-- All items are objects, and the first one without a row has no name at all. -/
  | nameMissing {document entry : Entries Json} {passed rest : List (Entries Json)} : Json.read t = .ok (.object document) →
      document.get? propertiesKey = some (Document.arrayOfObjects (passed ++ entry :: rest)) →
      (∀ e ∈ passed, HasRow e) → Row.tooDeep? entry = none → Row.nameKey ∉ entry.keys → Fails t .nameMissing
  /-- All items are objects, and the first one without a row has the name null. -/
  | nameNull {document entry : Entries Json} {passed rest : List (Entries Json)} : Json.read t = .ok (.object document) →
      document.get? propertiesKey = some (Document.arrayOfObjects (passed ++ entry :: rest)) →
      (∀ e ∈ passed, HasRow e) → Row.tooDeep? entry = none → entry.get? Row.nameKey = some .null → Fails t .nameNull

/-! ## The list of properties -/

/-- An entry has a row exactly when nothing of it is too deep and it is named. -/
theorem exists_rowOf_iff : (∃ r, rowOf entry = .ok r) ↔ HasRow entry := by
  simp only [rowOf_ok_iff]
  exact ⟨fun ⟨_, hshown, name, hname, _⟩ => ⟨hshown, name, hname⟩, fun ⟨hshown, name, hname⟩ => ⟨_, hshown, name, hname, rfl⟩⟩

/-- A list of entries has no rows exactly when one has no row, and the first such entry gives the cause. -/
theorem mapM_rowOf_error_iff {entries : List (Entries Json)} :
    entries.mapM rowOf = .error cause ↔
      ∃ passed entry rest, entries = passed ++ entry :: rest ∧ (∀ e ∈ passed, HasRow e) ∧
        ((∃ container, Row.tooDeep? entry = some container ∧ cause = .cellTooDeep container) ∨
          Row.tooDeep? entry = none ∧
            (Row.nameKey ∉ entry.keys ∧ cause = .nameMissing ∨ entry.get? Row.nameKey = some .null ∧ cause = .nameNull)) := by
  simp only [Outcome.mapM_error_iff, exists_rowOf_iff, rowOf_error_iff]

/-- A document fails when its list of properties is no array of objects or, if it is one, when an entry of it has no row. -/
theorem rowsIn_error_iff :
    rowsIn document = .error cause ↔
      ∃ v, document.get? propertiesKey = some v ∧
        (Document.asArrayOfObjects v = .error cause ∨
          ∃ entries, v = Document.arrayOfObjects entries ∧ entries.mapM rowOf = .error cause) := by
  unfold rowsIn
  cases document.get? propertiesKey with
  | none => simp
  | some v => simp [Outcome.bind_error_iff, Document.asArrayOfObjects_ok_iff]

/-! ## The whole text -/

/-- A failure names the main configuration, and its cause is that of the document or of the list in it. -/
theorem rows_error_iff_cause :
    MainConfiguration.rows t = .error fault ↔
      fault.part = .mainConfiguration ∧
        (Document.read t = .error fault.cause ∨
          ∃ document, Json.read t = .ok (.object document) ∧ rowsIn document = .error fault.cause) := by
  obtain ⟨part, cause⟩ := fault
  rw [← Document.read_bind_error_iff, MainConfiguration.rows]
  cases Document.read t >>= rowsIn <;> simp [eq_comm]

/-- A main configuration fails in the first phase that does, with the cause of that phase. -/
theorem rows_error_iff (t : Text) (fault : DescriptorFault) :
    MainConfiguration.rows t = .error fault ↔ fault.part = .mainConfiguration ∧ Fails t fault.cause := by
  rw [rows_error_iff_cause]
  refine and_congr_right fun _ => ?_
  constructor
  · rintro (h | ⟨document, hread, h⟩)
    · rcases Document.read_error_iff.1 h with ⟨f, hread, hc⟩ | ⟨v, hread, hv, hc⟩
      · exact hc ▸ .unreadable hread
      · exact hc ▸ .documentMisshapen hread hv
    · obtain ⟨v, hlist, h | ⟨entries, rfl, h⟩⟩ := rowsIn_error_iff.1 h
      · rcases Document.asArrayOfObjects_error_iff.1 h with ⟨hv, hc⟩ | ⟨items, rfl, hne, hc⟩
        · exact hc ▸ .listMisshapen hread hlist hv
        · exact hc ▸ .itemsMisshapen hread hlist (Document.listsStrangers_strangerIndices items) hne
      · obtain ⟨passed, entry, rest, rfl, hpassed, ⟨container, hdeep, hc⟩ | ⟨hshown, ⟨hname, hc⟩ | ⟨hname, hc⟩⟩⟩ :=
          mapM_rowOf_error_iff.1 h
        · exact hc ▸ .cellTooDeep hread hlist hpassed hdeep
        · exact hc ▸ .nameMissing hread hlist hpassed hshown hname
        · exact hc ▸ .nameNull hread hlist hpassed hshown hname
  · intro h
    generalize fault.cause = cause at h
    cases h with
    | unreadable hread => exact Or.inl (Document.read_error_iff.2 (Or.inl ⟨_, hread, rfl⟩))
    | documentMisshapen hread hv => exact Or.inl (Document.read_error_iff.2 (Or.inr ⟨_, hread, hv, rfl⟩))
    | listMisshapen hread hlist hv =>
      have hcheck := Document.asArrayOfObjects_error_iff.2 (Or.inl ⟨hv, rfl⟩)
      exact Or.inr ⟨_, hread, rowsIn_error_iff.2 ⟨_, hlist, Or.inl hcheck⟩⟩
    | itemsMisshapen hread hlist hindices hne =>
      obtain rfl := hindices.eq
      have hcheck := Document.asArrayOfObjects_error_iff.2 (Or.inr ⟨_, rfl, hne, rfl⟩)
      exact Or.inr ⟨_, hread, rowsIn_error_iff.2 ⟨_, hlist, Or.inl hcheck⟩⟩
    | cellTooDeep hread hlist hpassed hdeep =>
      refine Or.inr ⟨_, hread, rowsIn_error_iff.2 ⟨_, hlist, Or.inr ⟨_, rfl, ?_⟩⟩⟩
      exact mapM_rowOf_error_iff.2 ⟨_, _, _, rfl, hpassed, Or.inl ⟨_, hdeep, rfl⟩⟩
    | nameMissing hread hlist hpassed hshown hname =>
      refine Or.inr ⟨_, hread, rowsIn_error_iff.2 ⟨_, hlist, Or.inr ⟨_, rfl, ?_⟩⟩⟩
      exact mapM_rowOf_error_iff.2 ⟨_, _, _, rfl, hpassed, Or.inr ⟨hshown, Or.inl ⟨hname, rfl⟩⟩⟩
    | nameNull hread hlist hpassed hshown hname =>
      refine Or.inr ⟨_, hread, rowsIn_error_iff.2 ⟨_, hlist, Or.inr ⟨_, rfl, ?_⟩⟩⟩
      exact mapM_rowOf_error_iff.2 ⟨_, _, _, rfl, hpassed, Or.inr ⟨hshown, Or.inr ⟨hname, rfl⟩⟩⟩

/-- There are rows exactly when no phase fails. -/
theorem exists_rows_iff (t : Text) : (∃ rows, MainConfiguration.rows t = .ok rows) ↔ ∀ cause, ¬ Fails t cause := by
  constructor
  · rintro ⟨rows, hrows⟩ cause hfails
    have herror := (rows_error_iff t ⟨.mainConfiguration, cause⟩).2 ⟨rfl, hfails⟩
    rw [hrows] at herror
    cases herror
  · intro hnone
    cases h : MainConfiguration.rows t with
    | ok rows => exact ⟨rows, rfl⟩
    | error fault => exact absurd ((rows_error_iff t fault).1 h).2 (hnone fault.cause)

/-- A main configuration that is read gives what its document gives. -/
theorem rows_of_read (hread : Json.read t = .ok (.object document)) :
    MainConfiguration.rows t =
      match rowsIn document with
      | .ok rows => .ok rows
      | .error cause => .error ⟨.mainConfiguration, cause⟩ := by
  rw [MainConfiguration.rows, Document.read_ok_iff.2 hread]
  rfl

/-- Nothing of a document but its list of properties counts. -/
theorem rows_congr {t' : Text} {document' : Entries Json} (hread : Json.read t = .ok (.object document))
    (hread' : Json.read t' = .ok (.object document')) (h : document.get? propertiesKey = document'.get? propertiesKey) :
    MainConfiguration.rows t = MainConfiguration.rows t' := by
  rw [rows_of_read hread, rows_of_read hread', rowsIn, rowsIn, h]

/-- An item that is no object counts before any missing name: the list of the indices of such items is the cause. -/
theorem rows_of_stranger {items : List Json} (hread : Json.read t = .ok (.object document))
    (hlist : document.get? propertiesKey = some (.array items)) (hstranger : ∃ v ∈ items, Document.isObject v = false) :
    ∃ indices : List Nat, Document.ListsStrangers items indices ∧
      MainConfiguration.rows t =
        .error ⟨.mainConfiguration,
          .misshapen .arrayOfObjects (indices.map fun i => .of (.index i) .object (items.getD i .null))⟩ := by
  have hne : Document.strangerIndices items ≠ [] := by
    intro hnil
    obtain ⟨v, hmem, hv⟩ := hstranger
    rw [Document.strangerIndices_eq_nil_iff.1 hnil v hmem] at hv
    cases hv
  have hindices := Document.listsStrangers_strangerIndices items
  exact ⟨_, hindices, (rows_error_iff t _).2 ⟨rfl, .itemsMisshapen hread hlist hindices hne⟩⟩

/-- The rows of a main configuration are given all or none. A failure has the cause of the first phase that fails, so that an
item that is no object counts before every missing name; where no phase fails there are rows, one for each entry in order, or
none where there is no list of properties. Nothing of the document but the list of properties counts. No value is too deep for a row
that is nested no deeper than a third of what is read. -/
theorem rows_all_or_nothing (t : Text) :
    (∀ fault, MainConfiguration.rows t = .error fault ↔ fault.part = .mainConfiguration ∧ Fails t fault.cause) ∧
    ((∃ rows, MainConfiguration.rows t = .ok rows) ↔ ∀ cause, ¬ Fails t cause) ∧
    (∀ rows, MainConfiguration.rows t = .ok rows ↔ ∃ document : Entries Json, Json.read t = .ok (.object document) ∧
      (propertiesKey ∉ document.keys ∧ rows = [] ∨
        ∃ entries, document.get? propertiesKey = some (Document.arrayOfObjects entries) ∧
          List.Forall₂ (fun entry r => Row.tooDeep? entry = none ∧ ∃ name, Named entry name ∧ r = entryRow entry name) entries
            rows)) ∧
    (∀ (document : Entries Json) (items : List Json), Json.read t = .ok (.object document) →
      document.get? propertiesKey = some (.array items) → (∃ v ∈ items, Document.isObject v = false) →
      ∃ indices : List Nat, Document.ListsStrangers items indices ∧
        MainConfiguration.rows t =
          .error ⟨.mainConfiguration,
            .misshapen .arrayOfObjects (indices.map fun i => .of (.index i) .object (items.getD i .null))⟩) ∧
    (∀ entry : Entries Json, (∀ e ∈ entry, Json.callsPerArray * e.2.nesting ≤ Json.greatestDepth) → Row.tooDeep? entry = none) ∧
    ∀ (t' : Text) (document document' : Entries Json), Json.read t = .ok (.object document) →
      Json.read t' = .ok (.object document') → document.get? propertiesKey = document'.get? propertiesKey →
      MainConfiguration.rows t = MainConfiguration.rows t' := by
  refine ⟨rows_error_iff t, exists_rows_iff t, fun rows => ?_, fun _ _ hread hlist h => rows_of_stranger hread hlist h,
    fun _ h => Row.tooDeep?_eq_none_iff.2 fun e he => Json.tooDeep?_of_nesting (h e he),
    fun _ _ _ hread hread' h => rows_congr hread hread' h⟩
  rw [rows_ok_iff]
  exact exists_congr fun document => and_congr_right fun _ => rowsIn_ok_iff

/-- A main configuration whose first entry has no name and whose third item is no object. -/
def mixed : Text := "\x7b\"properties\":[\x7b\x7d,\x7b\"name\":\"a\"\x7d,\"b\"]\x7d"

/-- The items of the list in `mixed`. -/
def mixedItems : List Json := [.object [], .object [("name", .string "a")], .string "b"]

theorem read_mixed : Json.read mixed = .ok (.object [(propertiesKey, .array mixedItems)]) := by
  have hwrite : mixed = Json.write (.object [(propertiesKey, .array mixedItems)]) := by decide
  rw [hwrite]
  refine Json.read_write ?_ ?_ (by decide)
  · simp [mixedItems, Json.KeysDistinct, Json.ItemsDistinct, Json.EntriesDistinct, Entries.keys]
  · simp [mixedItems, Json.Exact, Json.ItemsExact, Json.EntriesExact]

/-- The third item of `mixed` is the cause of its failure, not the missing name before it. -/
theorem rows_all_or_nothing_mixed :
    Json.read mixed = .ok (.object [(propertiesKey, .array mixedItems)]) ∧
      MainConfiguration.rows mixed =
        .error ⟨.mainConfiguration, .misshapen .arrayOfObjects [.of (.index 2) .object (.string "b")]⟩ := by
  have hindices : Document.ListsStrangers mixedItems [2] := Document.listsStrangers_strangerIndices mixedItems
  exact ⟨read_mixed, ((rows_all_or_nothing mixed).1 _).2 ⟨rfl, .itemsMisshapen read_mixed rfl hindices (by decide)⟩⟩

end Descriptors.MainConfiguration
