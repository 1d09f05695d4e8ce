import Descriptors.Catalog
import Descriptors.Proofs.Descriptor.GroupRows
import Descriptors.Proofs.Json.RoundTrip
import Descriptors.Proofs.Outcome
import Descriptors.Table.Summary

/-!
# What is loaded from a catalog

Rows are loaded from the text of a descriptor, and the summary of a component from its rows.
-/

/-! ## Loads and their logs

What is loaded is made of the text that the catalog answers with, or is nothing where it has none (`Catalog.loadFrom`). The log
beside it does not change the outcome.
-/

namespace Descriptors

variable {ε α β : Type}

/-- A step that follows a result ends as it does alone. -/
theorem Logged.outcome_andThen (x : Logged ε α) (f : α → Logged ε β) :
    (x.andThen f).outcome = x.outcome >>= fun a => (f a).outcome := by
  rw [andThen]
  cases x.outcome <;> rfl

/-- The rows of a group are logged beside their outcome. -/
theorem Group.load_outcome (group : Text) (form : GroupForm) (t : Text) : (load group form t).outcome = rows group form t := by
  rw [load]
  cases rows group form t <;> rfl

/-- The rows of a main configuration are logged beside their outcome. -/
theorem MainConfiguration.load_outcome (t : Text) : (load t).outcome = rows t := by
  rw [load]
  cases rows t <;> rfl

/-! ### Kinds by their names -/

/-- A kind is found by its name, and by no other text. -/
theorem Kind.ofName?_eq_some_iff {t : Text} {k : Kind} : ofName? t = some k ↔ t = k.name := by
  have hname : ∀ k : Kind, ofName? k.name = some k := by
    intro k
    cases k <;> decide
  constructor
  · intro h
    have hfound := List.find?_some h
    exact (beq_iff_eq.1 hfound).symm
  · rintro rfl
    exact hname k

/-- No kind is found where none has the name. -/
theorem Kind.ofName?_eq_none_iff {t : Text} : ofName? t = none ↔ ∀ k : Kind, t ≠ k.name := by
  rw [Option.eq_none_iff_forall_ne_some]
  exact forall_congr' fun k => not_congr ofName?_eq_some_iff

/-- What is asked about a kind by its name is asked about the kind. -/
theorem Catalog.forKind_name (k : Kind) (ask : Kind → Logged LoadFault α) : forKind k.name ask = ask k := by
  rw [forKind, Kind.ofName?_eq_some_iff.2 rfl]

/-- What is asked about a kind that there is not fails before anything is asked or logged. -/
theorem Catalog.forKind_of_unknown {t : Text} (h : ∀ k : Kind, t ≠ k.name) (ask : Kind → Logged LoadFault α) :
    forKind t ask = .error (.unknownKind (Kind.unknownMessage t)) := by
  rw [forKind, Kind.ofName?_eq_none_iff.2 h]

namespace TextCatalog

variable {artifacts : Entries (Entries Text)} {mainConfiguration : Option Text} {c : TextCatalog} {message : Text}

/-- Texts that are given by names of kinds make a catalog exactly when they are the texts of the catalog by these names. -/
theorem ofNamed_ok_iff : ofNamed artifacts mainConfiguration = .ok c ↔
    artifacts = c.artifacts.map (fun e => (e.1.name, e.2)) ∧ mainConfiguration = c.mainConfiguration := by
  have hkind : ∀ {e : Text × Entries Text} {e' : Kind × Entries Text}, kindOfNamed e = .ok e' ↔ e = (e'.1.name, e'.2) := by
    rintro ⟨t, entries⟩ ⟨k, entries'⟩
    rw [kindOfNamed, Prod.mk.injEq, ← Kind.ofName?_eq_some_iff]
    cases Kind.ofName? t <;> simp
  obtain ⟨artifacts', mainConfiguration'⟩ := c
  have hall : artifacts.mapM kindOfNamed = .ok artifacts' ↔ artifacts = artifacts'.map fun e => (e.1.name, e.2) := by
    rw [Outcome.mapM_ok_iff, ← List.forall₂_eq_eq_eq, List.forall₂_map_right_iff]
    simp only [hkind]
  simp only [ofNamed, Outcome.map_ok_iff, TextCatalog.mk.injEq, ← hall]
  constructor
  · rintro ⟨_, h, rfl, rfl⟩
    exact ⟨h, rfl⟩
  · rintro ⟨h, rfl⟩
    exact ⟨_, h, rfl, rfl⟩

/-- Texts make no catalog exactly when they are given by a name that no kind has. The first such name is told. -/
theorem ofNamed_error_iff : ofNamed artifacts mainConfiguration = .error message ↔
    ∃ passed e rest, artifacts = passed ++ e :: rest ∧ (∀ p ∈ passed, ∃ k : Kind, p.1 = k.name) ∧
      (∀ k : Kind, e.1 ≠ k.name) ∧ message = Kind.unknownMessage e.1 := by
  have hknown : ∀ e : Text × Entries Text, (∃ e', kindOfNamed e = .ok e') ↔ ∃ k : Kind, e.1 = k.name := by
    intro e
    simp only [← Kind.ofName?_eq_some_iff, kindOfNamed]
    cases Kind.ofName? e.1 <;> simp
  have hunknown : ∀ e : Text × Entries Text, kindOfNamed e = .error message ↔
      (∀ k : Kind, e.1 ≠ k.name) ∧ message = Kind.unknownMessage e.1 := by
    intro e
    rw [← Kind.ofName?_eq_none_iff, kindOfNamed]
    cases Kind.ofName? e.1 <;> simp [eq_comm]
  simp only [ofNamed, Outcome.map_error_iff, Outcome.mapM_error_iff, hknown, hunknown]

end TextCatalog

namespace Catalog

variable {c : Catalog} {k : Kind} {name : Text} {answer : Option Text}

/-- What is taken from the text that a catalog answers with, and what is given where it has none. -/
def loadFrom (absent : α) (take : Text → Except DescriptorFault α) : Option Text → Except LoadFault α
  | none => .ok absent
  | some t => (take t).mapError .descriptor

theorem loadRows_outcome (h : (c.text k name).outcome = .ok answer) (group : Text) (form : GroupForm) :
    (c.loadRows k name group form).outcome = loadFrom [] (Group.rows group form) answer := by
  rw [loadRows, Logged.outcome_andThen, Logged.mapError, h]
  cases answer with
  | none => rfl
  | some t => exact congrArg (Except.mapError LoadFault.descriptor) (Group.load_outcome group form t)

theorem loadMainRows_outcome (h : c.mainText.outcome = .ok answer) :
    c.loadMainRows.outcome = loadFrom [] MainConfiguration.rows answer := by
  rw [loadMainRows, Logged.outcome_andThen, Logged.mapError, h]
  cases answer with
  | none => rfl
  | some t => exact congrArg (Except.mapError LoadFault.descriptor) (MainConfiguration.load_outcome t)

theorem loadComponent_outcome (h : (c.text .component name).outcome = .ok answer) :
    (c.loadComponent name).outcome =
      loadFrom none (fun t => (Group.rows Group.component .attributes t).map (some ∘ Table.describeComponent)) answer := by
  rw [loadComponent, Logged.outcome_andThen, Logged.mapError, h]
  cases answer with
  | none => rfl
  | some t =>
    change (((Group.load Group.component .attributes t).mapError LoadFault.descriptor).andThen _).outcome = _
    rw [Logged.outcome_andThen, Logged.mapError, Group.load_outcome, loadFrom]
    cases Group.rows Group.component .attributes t <;> rfl

end Catalog

end Descriptors

/-! ## The summary of a component

The attributes of a component and its flags come from two scans of the rows: the attributes are written row by row and pair by
pair, each key once, and a flag is what the first row says that has its key. Both read of every key the first value
(`Table.get?_attributes`), so the flags are what the attributes say (`Table.gathers_describeComponent`). From the rows of a metadata
map the attributes are that map again (`Table.attributes_attributeRows`).
-/

namespace Descriptors.Table

variable {rows : Table}

/-- What a summary of a component gathers from the rows: every key that a row has, in the order in which the keys first come, with
its value in the first row that has it; and the flags are the attributes of their keys. -/
structure Gathers (rows : Table) (s : ComponentSummary) : Prop where
  keys : s.attributes.keys = (rows.flatMap (·.keys)).eraseDups
  firstValue : ∀ key, s.attributes.get? key = rows.findSome? (·.get? key)
  lenientProperties : s.lenientProperties = true ↔ s.attributes.get? Row.lenientPropertiesKey = some (Text.ofString "true")
  consumerOnly : s.consumerOnly = true ↔ s.attributes.get? Row.consumerOnlyKey = some (Text.ofString "true")
  producerOnly : s.producerOnly = true ↔ s.attributes.get? Row.producerOnlyKey = some (Text.ofString "true")

/-- The attributes are the pairs of all rows, written one after the other where their keys are new. -/
theorem attributes_eq_putNewAll (rows : Table) : rows.attributes = OrderedMap.empty.putNewAll (rows.flatMap (·.entries)) := by
  rw [OrderedMap.putNewAll, List.foldl_flatMap]
  rfl

/-- The keys of the attributes are those of the rows, each once, in the order in which they first come. -/
theorem keys_attributes (rows : Table) : rows.attributes.keys = (rows.flatMap (·.keys)).eraseDups := by
  have hkeys : Entries.keys (rows.flatMap (·.entries)) = rows.flatMap (·.keys) := List.map_flatMap
  have hempty : (OrderedMap.empty : OrderedMap Text).keys = [] := rfl
  rw [attributes_eq_putNewAll, OrderedMap.keys_putNewAll, hkeys, hempty, List.nil_append]
  simp

/-- An attribute is the value in the first row that has the key. -/
theorem get?_attributes (rows : Table) (key : Text) : rows.attributes.get? key = rows.findSome? (·.get? key) := by
  rw [attributes_eq_putNewAll, OrderedMap.get?_putNewAll, Entries.get?_flatMap]
  rfl

/-- A flag is set where the attribute of its key says yes. -/
theorem hasFlag_iff (rows : Table) (key : Text) :
    rows.hasFlag key = true ↔ rows.attributes.get? key = some (Text.ofString "true") := by
  rw [hasFlag, isYes, beq_iff_eq, get?_attributes]

/-- The summary of a component gathers what the rows say. -/
theorem gathers_describeComponent (rows : Table) : rows.Gathers rows.describeComponent where
  keys := keys_attributes rows
  firstValue := get?_attributes rows
  lenientProperties := hasFlag_iff rows _
  consumerOnly := hasFlag_iff rows _
  producerOnly := hasFlag_iff rows _

/-- The rows of a metadata map are its pairs one by one, and the attributes put them together again. -/
theorem attributes_attributeRows (metadata : Entries Json) :
    attributes (Group.attributeRows metadata) = Row.ofMetadata metadata := by
  have hflat : (Group.attributeRows metadata).flatMap (·.entries) = (Row.ofMetadata metadata).entries := by
    rw [Group.attributeRows, List.flatMap_map]
    exact List.flatMap_singleton' _
  rw [attributes_eq_putNewAll, hflat]
  exact OrderedMap.ext (OrderedMap.entries_putNewAll (Row.ofMetadata metadata).distinct)

end Descriptors.Table

/-! ## Components from a catalog

The summary of a component gathers what the rows of its group say, and these rows are the pairs of the group one by one. So its
attributes are the group of the document again, each value with its escaped cell (`Catalog.component_attributes`).
-/

namespace Descriptors.Catalog

/-- The summary of a component agrees with its group. From any rows the attributes and the flags are gathered from the first values
under the keys. From a text that a catalog has for a component, and whose group of the component gives rows, the summary is
loaded, and its attributes are the group of the document, each value with its escaped cell and in the order of the document, and
none where the document has no such group. -/
theorem component_attributes :
    (∀ rows : Table, rows.Gathers rows.describeComponent) ∧
    ∀ (c : Catalog) (name t : Text) (rows : Table), (c.text .component name).outcome = .ok (some t) →
      Group.rows Group.component .attributes t = .ok rows →
      ∃ document metadata summary, Json.read t = .ok (.object document) ∧
        (Group.component ∉ Entries.keys document ∧ metadata = [] ∨
          Entries.get? Group.component document = some (.object metadata)) ∧
        (c.loadComponent name).outcome = .ok (some summary) ∧ rows.Gathers summary ∧
        summary.attributes = Row.ofMetadata metadata ∧
        summary.attributes.entries = metadata.map fun e => (e.1, e.2.toCell.escapeControls) := by
  refine ⟨Table.gathers_describeComponent, fun c name t rows htext hrows => ?_⟩
  obtain ⟨document, metadata, hread, hvalue, rfl, hdistinct⟩ := Group.rows_attributes hrows
  have hload := loadComponent_outcome htext
  rw [loadFrom, hrows] at hload
  have hgroup : Group.component ∉ Entries.keys document ∧ metadata = [] ∨
      Entries.get? Group.component document = some (.object metadata) := by
    rw [Group.valueIn] at hvalue
    cases hget : Entries.get? Group.component document with
    | none =>
      rw [hget] at hvalue
      cases hvalue
      exact Or.inl ⟨Entries.get?_eq_none_iff.1 hget, rfl⟩
    | some v =>
      rw [hget] at hvalue
      exact Or.inr (congrArg some hvalue)
  have hattributes := Table.attributes_attributeRows metadata
  refine ⟨document, metadata, _, hread, hgroup, hload, Table.gathers_describeComponent _, hattributes, ?_⟩
  change (Table.attributes _).entries = _
  rw [hattributes, Row.ofMetadata_entries hdistinct]
  rfl

/-- A component that says no more of itself than that it produces only, and two words with a comma between them. -/
def producing : Text := "\x7b\"component\":\x7b\"producerOnly\":true,\"enum\":[\"a\",\"b\"]\x7d\x7d"

/-- The group of `producing`. -/
def producingGroup : Entries Json := [("producerOnly", .bool true), ("enum", .array [.string "a", .string "b"])]

theorem read_producing : Json.read producing = .ok (.object [(Group.component, .object producingGroup)]) := by
  have hwrite : producing = Json.write (.object [(Group.component, .object producingGroup)]) := by decide
  rw [hwrite]
  refine Json.read_write ?_ ?_ (by decide)
  · simp [producingGroup, Json.KeysDistinct, Json.ItemsDistinct, Json.EntriesDistinct, Entries.keys]
    decide
  · simp [producingGroup, Json.Exact, Json.ItemsExact, Json.EntriesExact]

/-- The catalog of texts in which the component `p` is `producing`. -/
def producingCatalog : Catalog := .texts ⟨[(.component, [("p", producing)])], none⟩

/-- The summary of `producing` has both of its attributes, and the flag. -/
theorem component_attributes_producing :
    (producingCatalog.text .component "p").outcome = .ok (some producing) ∧
      Group.rows Group.component .attributes producing = .ok (Group.attributeRows producingGroup) ∧
      ∃ summary, (producingCatalog.loadComponent "p").outcome = .ok (some summary) ∧ summary.producerOnly = true ∧
        summary.attributes.entries =
          [(Text.ofString "producerOnly", Text.ofString "true"), (Text.ofString "enum", Text.ofString "a,b")] := by
  have htext : (producingCatalog.text .component "p").outcome = .ok (some producing) := by decide
  have hrows : Group.rows Group.component .attributes producing = .ok (Group.attributeRows producingGroup) :=
    Group.rows_ok_iff.2 ⟨_, read_producing, rfl⟩
  obtain ⟨document, metadata, summary, hread, hgroup, hload, hgathers, hattributes, _⟩ :=
    component_attributes.2 producingCatalog "p" producing _ htext hrows
  cases read_producing.symm.trans hread
  obtain rfl : producingGroup = metadata := by
    rcases hgroup with ⟨hnone, _⟩ | hgroup
    · exact absurd (by decide) hnone
    · exact Json.object.inj (Option.some.inj hgroup)
  refine ⟨htext, hrows, summary, hload, hgathers.producerOnly.2 ?_, ?_⟩
  · rw [hattributes]
    decide
  · rw [hattributes]
    decide

end Descriptors.Catalog
