import Descriptors.Table.Summary

/-!
# Properties and names of options

A name, in whatever way it leads to a property, leads to one row, and all that is told about the property is read from it.
-/

/-! ## A property and its row

Statements about `Table.property?` and the lookups that read the row it finds. Names are matched by their small form, so what is
found for a name depends on that form alone (`Table.property?_congr`), and the name in the row that is found leads back to the
same row (`Table.property?_rowName`). What the lookups answer for a name (`Table.answers`) is what that one row says
(`Row.summary`).
-/

namespace Descriptors

/-- A row has a name in small letters when it has a name whose small form is that. -/
theorem Row.isNamed_iff (r : Row) (small : Text) :
    r.isNamed small = true ↔ ∃ name, r.name? = some name ∧ name.lower = small := by
  unfold Row.isNamed
  cases r.name? <;> simp

/-- The summary that one row gives of its property under a name. -/
def Row.summary (r : Row) (name : Text) : PropertySummary where
  name := name
  type := r.get? Row.typeKey
  hostType := r.get? Row.hostTypeKey
  kind := r.get? Row.kindKey
  defaultValue := r.get? Row.defaultValueKey
  enum := enumValues (r.get? Row.enumKey)
  ownPrefix := r.get? Row.prefixKey
  required := isYes (r.get? Row.requiredKey)
  deprecated := isYes (r.get? Row.deprecatedKey)
  multiValue := isYes (r.get? Row.multiValueKey)
  consumerOnly := (r.get? Row.labelKey).any (Text.isInside "consumer")
  producerOnly := (r.get? Row.labelKey).any (Text.isInside "producer")
  description := r.get? Row.descriptionKey
  label := r.get? Row.labelKey

namespace Table

/-- What the lookups of a table answer for one name, gathered as a summary. -/
def answers (rows : Table) (name : Text) : PropertySummary where
  name := name
  type := rows.attribute? name Row.typeKey
  hostType := rows.hostType? name
  kind := rows.kind? name
  defaultValue := rows.defaultValue? name
  enum := enumValues (rows.enum? name)
  ownPrefix := rows.ownPrefix? name
  required := rows.isRequired name
  deprecated := rows.isDeprecated name
  multiValue := rows.isMultiValue name
  consumerOnly := rows.isConsumerOnly name
  producerOnly := rows.isProducerOnly name
  description := rows.attribute? name Row.descriptionKey
  label := rows.attribute? name Row.labelKey

variable {rows : Table} {n name : Text} {r : Row}

/-! ### The row that is found -/

/-- Names with the same small form find the same row. -/
theorem property?_congr (rows : Table) {m n : Text} (h : m.lower = n.lower) : rows.property? m = rows.property? n := by
  simp only [property?, h]

/-- The row found for a name is a row of the table, and its own name has the same small form. -/
theorem property?_found (h : rows.property? n = some r) :
    r ∈ rows ∧ ∃ name, r.name? = some name ∧ name.lower = n.lower := by
  simp only [property?] at h
  have hnamed := List.find?_some h
  exact ⟨List.mem_of_find?_eq_some h, (Row.isNamed_iff r _).1 hnamed⟩

/-- The name in the row that is found leads back to that row. -/
theorem property?_rowName (h : rows.property? n = some r) (hn : r.name? = some name) : rows.property? name = some r := by
  obtain ⟨_, name', hn', hlower⟩ := property?_found h
  obtain rfl : name = name' := Option.some.inj (hn.symm.trans hn')
  rw [property?_congr rows hlower, h]

/-- The name of any row of the table finds a row, that one or one before it. -/
theorem isSome_property?_of_mem (hr : r ∈ rows) (hn : r.name? = some name) : (rows.property? name).isSome := by
  simp only [property?, List.find?_isSome]
  exact ⟨r, hr, (Row.isNamed_iff r _).2 ⟨name, hn, rfl⟩⟩

/-- The first row counts. -/
theorem property?_cons (r : Row) (rows : Table) (n : Text) :
    property? (r :: rows) n = if r.isNamed n.lower then some r else rows.property? n := by
  rw [property?, List.find?_cons]
  cases r.isNamed n.lower <;> rfl

/-- A property is looked for in the rows in front, then in those behind. -/
theorem property?_append (rows later : Table) (n : Text) :
    (rows ++ later).property? n = (rows.property? n).or (later.property? n) := List.find?_append

/-- Rows behind do not change which row is found where one is found before them. -/
theorem property?_append_of_isSome (h : (rows.property? n).isSome) (later : Table) :
    (rows ++ later).property? n = rows.property? n := by
  obtain ⟨r, hr⟩ := Option.isSome_iff_exists.1 h
  rw [property?_append, hr, Option.some_or]

/-! ### What the lookups read -/

/-- A lookup of an attribute reads the row that is found. -/
theorem attribute?_of_property? (h : rows.property? n = some r) (key : Text) : rows.attribute? n key = r.get? key := by
  rw [attribute?, h, Option.bind_some]

/-- The label is searched in the row that is found. -/
theorem hasLabel_of_property? (h : rows.property? n = some r) (word : Text) :
    rows.hasLabel n word = (r.get? Row.labelKey).any word.isInside := by
  rw [hasLabel, attribute?_of_property? h]
  cases r.get? Row.labelKey <;> rfl

/-- All lookups for a name read one row. -/
theorem answers_of_property? (h : rows.property? n = some r) : rows.answers n = r.summary n := by
  simp only [answers, Row.summary, hostType?, kind?, defaultValue?, enum?, ownPrefix?, isRequired, isDeprecated, isMultiValue,
    isConsumerOnly, isProducerOnly, attribute?_of_property? h, hasLabel_of_property? h]

end Table

end Descriptors

/-! ## Resolved names

Every way in which `Table.resolve?` ends gives a name that `Table.property?` finds, and such a name stands for itself
(`resolve?_of_property?`). So the row that a summary is read from is always there, and the name in a summary describes the
same property again.
-/

namespace Descriptors.Table

variable {rows : Table} {n name resolved : Text} {r : Row}

/-- A name that finds a row stands for itself. -/
theorem resolve?_of_property? (h : (rows.property? n).isSome) : rows.resolve? n = some n := by
  rw [resolve?, if_pos h]

/-- A name that is no property, nor stripped to one, is resolved by an own prefix. -/
theorem resolve?_of_not (h : rows.property? n = none) (hstripped : rows.property? (rows.stripPrefixes n) = none) :
    rows.resolve? n = rows.nameByPrefix? (rows.stripPrefixes n) := by
  simp only [resolve?, h, hstripped, Option.isSome_none, Bool.false_eq_true, if_false]

/-- A name that is stripped to a property stands for it unless it is one. -/
theorem resolve?_of_stripped (h : rows.property? n = none) (hstripped : (rows.property? (rows.stripPrefixes n)).isSome) :
    rows.resolve? n = some (rows.stripPrefixes n) := by
  simp only [resolve?, h, hstripped, Option.isSome_none, Bool.false_eq_true, if_false, if_true]

/-- A name that is given for an own prefix is the name of a row of the table. -/
theorem nameByPrefix?_mem (h : rows.nameByPrefix? n = some name) : ∃ r ∈ rows, r.name? = some name := by
  obtain ⟨r, hr, hn⟩ := Option.bind_eq_some_iff.1 h
  exact ⟨r, List.mem_of_find?_eq_some hr, hn⟩

/-- A resolved name finds a row, whether it is the name as given, a stripped name or the name of a row with an own prefix. -/
theorem isSome_property?_of_resolve? (h : rows.resolve? n = some resolved) : (rows.property? resolved).isSome := by
  unfold resolve? at h
  split at h
  · next given =>
    cases h
    exact given
  · dsimp only at h
    split at h
    · next stripped =>
      cases h
      exact stripped
    · obtain ⟨r, hr, hn⟩ := nameByPrefix?_mem h
      exact isSome_property?_of_mem hr hn

/-- Resolution is idempotent. -/
theorem resolve?_resolved (h : rows.resolve? n = some resolved) : rows.resolve? resolved = some resolved :=
  resolve?_of_property? (isSome_property?_of_resolve? h)

/-- The row of a resolved name is there and has a name. -/
theorem row_of_resolve? (h : rows.resolve? n = some resolved) :
    ∃ r name, rows.property? resolved = some r ∧ r.name? = some name := by
  obtain ⟨r, hr⟩ := Option.isSome_iff_exists.1 (isSome_property?_of_resolve? h)
  obtain ⟨_, name, hn, _⟩ := property?_found hr
  exact ⟨r, name, hr, hn⟩

/-! ### Summaries of resolved names -/

/-- An option name is described as the name that it stands for. -/
theorem describe?_eq_bind (rows : Table) (n : Text) : rows.describe? n = (rows.resolve? n).bind rows.describe? := by
  cases h : rows.resolve? n with
  | none => simp only [describe?, h, Option.bind_eq_bind, Option.bind_none]
  | some resolved => simp only [describe?, h, resolve?_resolved h, Option.bind_eq_bind, Option.bind_some]

/-- The summary of a name that finds a row is what that row says, under its own name. -/
theorem describe?_of_property? (h : rows.property? n = some r) (hn : r.name? = some name) :
    rows.describe? n = some (r.summary name) := by
  have hres : rows.resolve? n = some n := resolve?_of_property? (by rw [h, Option.isSome_some])
  have hans := answers_of_property? h
  simp only [answers, Row.summary, PropertySummary.mk.injEq] at hans
  simp only [describe?, hres, h, hn, hans, Row.summary, Option.bind_eq_bind, Option.bind_some, Option.pure_def]

/-- Tables that find the same row for two names describe them alike. -/
theorem describe?_congr {rows' : Table} {n' : Text} (h : rows.property? n = some r) (h' : rows'.property? n' = some r) :
    rows.describe? n = rows'.describe? n' := by
  obtain ⟨_, name, hname, _⟩ := property?_found h
  rw [describe?_of_property? h hname, describe?_of_property? h' hname]

/-- A resolved name is described by what its row says. -/
theorem describe?_of_resolve? (hres : rows.resolve? n = some resolved) (hrow : rows.property? resolved = some r) :
    ∃ name, r.name? = some name ∧ rows.describe? n = some (r.summary name) := by
  obtain ⟨_, name, hname, _⟩ := property?_found hrow
  exact ⟨name, hname, by rw [describe?_eq_bind, hres, Option.bind_some, describe?_of_property? hrow hname]⟩

/-- A name has no summary exactly when it is not resolved. -/
theorem describe?_eq_none_iff : rows.describe? n = none ↔ rows.resolve? n = none := by
  cases h : rows.resolve? n with
  | none => simp [describe?_eq_bind rows n, h]
  | some resolved =>
    obtain ⟨r, _, hr, _⟩ := row_of_resolve? h
    obtain ⟨_, _, hdescribe⟩ := describe?_of_resolve? h hr
    simp [hdescribe]

/-- Resolution lands on a property, and summaries are sound. A resolved name finds a row and stands for itself; a name has a
summary exactly when it is resolved, since the row of a resolved name is there and has a name; and a summary is the summary of
the name in it, which gathers what the lookups answer for that name, all read from one row. -/
theorem resolution_sound (rows : Table) (n : Text) :
    (∀ resolved, rows.resolve? n = some resolved →
      (rows.property? resolved).isSome ∧ rows.resolve? resolved = some resolved) ∧
    ((rows.describe? n = none ↔ rows.resolve? n = none) ∧
      ∀ resolved, rows.resolve? n = some resolved →
        ∃ r name, rows.property? resolved = some r ∧ r.name? = some name) ∧
    ∀ info, rows.describe? n = some info →
      rows.describe? info.name = some info ∧ info = rows.answers info.name ∧
        ∃ r, rows.property? info.name = some r ∧ r.name? = some info.name ∧ info = r.summary info.name := by
  refine ⟨fun resolved h => ⟨isSome_property?_of_resolve? h, resolve?_resolved h⟩,
    ⟨describe?_eq_none_iff, fun resolved h => row_of_resolve? h⟩, fun info h => ?_⟩
  rw [describe?_eq_bind] at h
  obtain ⟨resolved, hres, h⟩ := Option.bind_eq_some_iff.1 h
  obtain ⟨r, name, hr, hn⟩ := row_of_resolve? hres
  rw [describe?_of_property? hr hn] at h
  cases h
  have hname : rows.property? name = some r := property?_rowName hr hn
  exact ⟨describe?_of_property? hname hn, (answers_of_property? hname).symm, r, hname, hn, rfl⟩

end Descriptors.Table
