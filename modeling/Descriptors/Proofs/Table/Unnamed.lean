import Descriptors.Proofs.Table.StripLimit
import Descriptors.Proofs.Table.Summary

/-!
# Rows without a name

What a table answers beside what its rows with names answer alone (`Table.named`). Looking up a property, the names, the
summaries of all names and stripping pass over the rows without a name. The search by own prefix does not: it ends at the first
row whose own prefix a name starts with, and where that row has no name it hides the rows after it (`Table.HidesOwner`). So
these rows count for the resolution of a name exactly when the name is neither a property nor stripped to one, and its owner is
hidden (`Table.named_queries`).
-/

namespace Descriptors

/-- Whether a name starts with the own prefix of a row. -/
def Row.owns (name : Text) (r : Row) : Bool := (r.get? Row.prefixKey).any (·.isPrefixOf name)

namespace Table

variable {rows : Table} {n : Text} {r : Row}

/-- The rows that have a name. -/
def named (rows : Table) : Table := rows.filter (·.name?.isSome)

/-! ## Queries that pass over rows without a name -/

/-- Removing the rows without a name does not change which row is found first, where only rows with names are looked for. -/
theorem find?_named {p : Row → Bool} (h : ∀ r, p r = true → r.name?.isSome) (rows : Table) :
    rows.named.find? p = rows.find? p := by
  rw [named, List.find?_filter]
  refine List.find?_congr fun r _ => ?_
  rw [Bool.eq_iff_iff, decide_eq_true_iff]
  exact and_iff_right_of_imp (h r)

/-- A property is looked for among the rows with names. -/
theorem property?_named (rows : Table) (n : Text) : rows.named.property? n = rows.property? n := by
  refine find?_named (fun r hr => ?_) rows
  obtain ⟨name, hname, _⟩ := (Row.isNamed_iff r _).1 hr
  rw [hname, Option.isSome_some]

/-- A row with exactly a name is looked for among the rows with names. -/
theorem row?_named (rows : Table) (n : Text) : rows.named.row? n = rows.row? n := by
  refine find?_named (fun r hr => ?_) rows
  rw [beq_iff_eq.1 hr, Option.isSome_some]

/-- The attributes of a property are those it has among the rows with names. -/
theorem attribute?_named (rows : Table) (n key : Text) : rows.named.attribute? n key = rows.attribute? n key := by
  rw [attribute?, property?_named, attribute?]

/-- Every lookup for a name answers as it does among the rows with names. -/
theorem answers_named (rows : Table) (n : Text) : rows.named.answers n = rows.answers n := by
  simp only [answers, hostType?, kind?, defaultValue?, enum?, ownPrefix?, isRequired, isDeprecated, isMultiValue,
    isConsumerOnly, isProducerOnly, hasLabel, attribute?_named]

/-- The names of a table are those of its rows with names. -/
theorem names_named (rows : Table) : rows.named.names = rows.names := by
  have hnames : rows.named.filterMap Row.name? = rows.filterMap Row.name? := by
    rw [named, List.filterMap_filter]
    refine List.filterMap_congr fun r _ => ?_
    cases r.name? <;> rfl
  rw [names_eq, names_eq, hnames]

/-- A scan passes over the rows without a name. -/
theorem stripOnce?_named (rows : Table) (n : Text) : rows.named.stripOnce? n = rows.stripOnce? n := by
  rw [named]
  induction rows with
  | nil => rfl
  | cons r rows ih =>
    cases hname : r.name? with
    | none =>
      rw [List.filter_cons_of_neg (by simp [hname]), ih, stripOnce?, hname]
    | some rowName =>
      rw [List.filter_cons_of_pos (by simp [hname]), stripOnce?, stripOnce?, hname, ih]

/-- Prefixes are taken off a name as among the rows with names. -/
theorem stripPrefixes_named (rows : Table) (n : Text) : rows.named.stripPrefixes n = rows.stripPrefixes n :=
  stripPrefixes_congr (fun m => by rw [afterScan, stripOnce?_named, afterScan]) n

/-- The summaries of all names are those of the rows with names. -/
theorem describeAll_named (rows : Table) : rows.named.describeAll = rows.describeAll := by
  rw [describeAll, describeAll, names_named]
  refine List.filterMap_congr fun n hn => ?_
  obtain ⟨r, hr⟩ := property?_of_mem_names hn
  exact describe?_congr ((property?_named rows n).trans hr) hr

/-! ## The search by own prefix -/

/-- The first row whose own prefix a name starts with has no name, though some such row has one. -/
def HidesOwner (rows : Table) (n : Text) : Prop :=
  ∃ r, rows.find? (·.owns n) = some r ∧ r.name? = none ∧ ∃ r' ∈ rows, r'.name?.isSome ∧ r'.owns n

/-- The name by an own prefix is the name of the first row whose own prefix applies. -/
theorem nameByPrefix?_eq (rows : Table) (n : Text) : rows.nameByPrefix? n = (rows.find? (·.owns n)).bind (·.name?) := rfl

/-- A hidden owner is found among the rows with names, and not in the table. -/
theorem nameByPrefix?_of_hidesOwner (h : rows.HidesOwner n) :
    rows.nameByPrefix? n = none ∧ (rows.named.nameByPrefix? n).isSome := by
  obtain ⟨r, hr, hname, r', hr', hname', howns⟩ := h
  constructor
  · rw [nameByPrefix?_eq, hr, Option.bind_some, hname]
  · have hfound : (rows.named.find? (·.owns n)).isSome := by
      rw [List.find?_isSome]
      exact ⟨r', List.mem_filter.2 ⟨hr', hname'⟩, howns⟩
    obtain ⟨r'', hr''⟩ := Option.isSome_iff_exists.1 hfound
    rw [nameByPrefix?_eq, hr'', Option.bind_some]
    exact (List.mem_filter.1 (List.mem_of_find?_eq_some hr'')).2

/-- Where no owner is hidden, a name by an own prefix is the one among the rows with names. -/
theorem nameByPrefix?_named_of_not (h : ¬ rows.HidesOwner n) : rows.named.nameByPrefix? n = rows.nameByPrefix? n := by
  have hfilter : rows.named.find? (·.owns n) = rows.find? fun r => r.name?.isSome && r.owns n := by
    rw [named, List.find?_filter]
    exact List.find?_congr fun r _ => by rw [Bool.eq_iff_iff, decide_eq_true_iff, Bool.and_eq_true]
  rw [nameByPrefix?_eq, nameByPrefix?_eq, hfilter]
  cases hfirst : rows.find? (·.owns n) with
  | none =>
    have hnone : (rows.find? fun r => r.name?.isSome && r.owns n) = none := by
      rw [List.find?_eq_none] at hfirst ⊢
      exact fun r hr howns => hfirst r hr (Bool.and_eq_true _ _ ▸ howns).2
    rw [hnone]
  | some r =>
    cases hname : r.name? with
    | some name =>
      -- the first row has a name, so it is the first one with a name as well
      obtain ⟨howns, before, after, hsplit, hbefore⟩ := List.find?_eq_some_iff_append.1 hfirst
      have hsame : (rows.find? fun r => r.name?.isSome && r.owns n) = some r := by
        refine List.find?_eq_some_iff_append.2 ⟨by rw [hname, howns]; rfl, before, after, hsplit, fun r' hr' => ?_⟩
        rw [Bool.not_and, hbefore r' hr', Bool.or_true]
      rw [hsame]
    | none =>
      have hnone : (rows.find? fun r => r.name?.isSome && r.owns n) = none := by
        refine List.find?_eq_none.2 fun r' hr' howns => h ⟨r, hfirst, hname, r', hr', ?_⟩
        exact Bool.and_eq_true _ _ ▸ howns
      rw [hnone, Option.bind_some, hname, Option.bind_none]

/-- Rows without a name count for the search by own prefix exactly when they hide an owner. -/
theorem nameByPrefix?_named_iff : rows.named.nameByPrefix? n = rows.nameByPrefix? n ↔ ¬ rows.HidesOwner n := by
  refine ⟨fun heq h => ?_, nameByPrefix?_named_of_not⟩
  obtain ⟨hnone, hsome⟩ := nameByPrefix?_of_hidesOwner h
  rw [heq, hnone] at hsome
  cases hsome

/-! ## Resolution -/

/-- Rows without a name count for the resolution of a name exactly when it is neither a property nor stripped to one and its owner
is hidden. -/
theorem resolve?_named_iff : rows.named.resolve? n = rows.resolve? n ↔
    (rows.property? n).isSome ∨ (rows.property? (rows.stripPrefixes n)).isSome ∨ ¬ rows.HidesOwner (rows.stripPrefixes n) := by
  have hproperty := property?_named rows n
  have hstrip := stripPrefixes_named rows n
  have hstripped := property?_named rows (rows.stripPrefixes n)
  cases hn : rows.property? n with
  | some r =>
    rw [resolve?_of_property? (by rw [hproperty, hn]; rfl), resolve?_of_property? (by rw [hn]; rfl)]
    simp
  | none =>
    cases hs : rows.property? (rows.stripPrefixes n) with
    | some r =>
      rw [resolve?_of_stripped (hproperty.trans hn) (by rw [hstrip, hstripped, hs]; rfl),
        resolve?_of_stripped hn (by rw [hs]; rfl), hstrip]
      simp
    | none =>
      rw [resolve?_of_not (hproperty.trans hn) (by rw [hstrip, hstripped, hs]), resolve?_of_not hn hs, hstrip,
        nameByPrefix?_named_iff]
      simp

/-- Rows without a name count for the summary of a name exactly when they count for its resolution. -/
theorem describe?_named_iff : rows.named.describe? n = rows.describe? n ↔
    (rows.property? n).isSome ∨ (rows.property? (rows.stripPrefixes n)).isSome ∨ ¬ rows.HidesOwner (rows.stripPrefixes n) := by
  constructor
  · intro heq
    refine or_iff_not_imp_left.2 fun hn => or_iff_not_imp_left.2 fun hs hhidden => ?_
    rw [Option.not_isSome_iff_eq_none] at hn hs
    obtain ⟨hnone, hsome⟩ := nameByPrefix?_of_hidesOwner hhidden
    have hresolve : rows.resolve? n = none := (resolve?_of_not hn hs).trans hnone
    rw [describe?_eq_none_iff.2 hresolve, describe?_eq_none_iff,
      resolve?_of_not ((property?_named rows n).trans hn) (by rw [stripPrefixes_named, property?_named, hs]),
      stripPrefixes_named] at heq
    rw [heq] at hsome
    cases hsome
  · intro h
    rw [describe?_eq_bind rows.named, describe?_eq_bind rows, resolve?_named_iff.2 h]
    cases hresolve : rows.resolve? n with
    | none => rfl
    | some resolved =>
      obtain ⟨r, _, hr, _⟩ := row_of_resolve? hresolve
      exact describe?_congr ((property?_named rows resolved).trans hr) hr

/-- Rows without a name take no part in the queries by name but one. What is found for a name, every lookup of one property, the
names, stripping and the summaries of all names are the same without them. The search by own prefix is the same exactly when
they do not hide an owner, that is, when the first row whose own prefix the name starts with has a name or none of these rows
has one; where they hide one it finds nothing. So a name is resolved and described alike exactly when it is a property, or is
stripped to one, or no owner of the stripped name is hidden. -/
theorem named_queries (rows : Table) (n : Text) :
    (rows.named.property? n = rows.property? n ∧ rows.named.row? n = rows.row? n ∧
      (∀ key, rows.named.attribute? n key = rows.attribute? n key) ∧
      (∀ type, rows.named.hasType n type = rows.hasType n type) ∧
      (∀ word, rows.named.hasLabel n word = rows.hasLabel n word) ∧ rows.named.answers n = rows.answers n ∧
      rows.named.names = rows.names ∧ rows.named.stripPrefixes n = rows.stripPrefixes n ∧
      rows.named.describeAll = rows.describeAll) ∧
    (rows.named.nameByPrefix? n = rows.nameByPrefix? n ↔ ¬ rows.HidesOwner n) ∧
    (rows.HidesOwner n → rows.nameByPrefix? n = none ∧ (rows.named.nameByPrefix? n).isSome) ∧
    (rows.named.resolve? n = rows.resolve? n ↔ (rows.property? n).isSome ∨ (rows.property? (rows.stripPrefixes n)).isSome ∨
      ¬ rows.HidesOwner (rows.stripPrefixes n)) ∧
    (rows.named.describe? n = rows.describe? n ↔ (rows.property? n).isSome ∨ (rows.property? (rows.stripPrefixes n)).isSome ∨
      ¬ rows.HidesOwner (rows.stripPrefixes n)) := by
  refine ⟨⟨property?_named rows n, row?_named rows n, attribute?_named rows n, fun type => ?_, fun word => ?_,
    answers_named rows n, names_named rows, stripPrefixes_named rows n, describeAll_named rows⟩, nameByPrefix?_named_iff,
    nameByPrefix?_of_hidesOwner, resolve?_named_iff, describe?_named_iff⟩
  · rw [hasType, attribute?_named, hasType]
  · rw [hasLabel, attribute?_named, hasLabel]

/-- Rows without a name are not always passed over: one whose own prefix is that of a property hides the property. -/
theorem unnamed_rows_false : ¬ ∀ (rows : Table) (n : Text), rows.named.nameByPrefix? n = rows.nameByPrefix? n ∧
    rows.named.resolve? n = rows.resolve? n ∧ rows.named.describe? n = rows.describe? n := by
  intro h
  have hhidden := (h [OrderedMap.ofPairs [(Row.prefixKey, "header.")],
    OrderedMap.ofPairs [(Row.nameKey, "header"), (Row.prefixKey, "header.")]] "header.x").2.1
  revert hhidden
  decide

end Table

end Descriptors
