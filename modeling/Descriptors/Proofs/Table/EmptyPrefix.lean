import Descriptors.Proofs.Table.Unnamed
import Mathlib.Data.List.TakeWhile

/-!
# Empty prefixes

What a table answers beside what it answers without its empty prefixes (`Table.withoutEmptyPrefixes`). Every name starts with
the empty text, so a scan that comes to a row with a name and an empty optional prefix takes nothing off, and as the name has
come back stripping ends. Such a row is the end of the table for scans (`Table.reached`): the names that a name passes through
are the first of those that it passes through without the empty prefixes. Where no scan is ended so, and the search by own prefix
comes to a full prefix before it comes to an empty one, empty prefixes make no difference (`Table.emptyPrefixes_inert`).
-/

namespace Descriptors

/-! ## One row -/

namespace Row

/-- Whether a pair of a row is an empty prefix, an own or an optional one. -/
def isEmptyPrefix (e : Text × Text) : Bool := (e.1 == prefixKey || e.1 == optionalPrefixKey) && e.2 == []

/-- A row without its empty prefixes. -/
def withoutEmptyPrefixes (r : Row) : Row where
  entries := r.entries.filter fun e => !isEmptyPrefix e
  distinct := r.distinct.sublist (List.filter_sublist.map Prod.fst)

/-- A row has a name and an empty optional prefix. -/
def endsScans (r : Row) : Bool := r.name?.isSome && r.get? optionalPrefixKey == some []

variable {r : Row} {key p n : Text}

theorem get?_withoutEmptyPrefixes (r : Row) (key : Text) :
    r.withoutEmptyPrefixes.get? key = (r.get? key).filter fun v => !isEmptyPrefix (key, v) :=
  Entries.get?_filter _ key r.distinct

/-- An empty prefix is no name. -/
theorem name?_withoutEmptyPrefixes (r : Row) : r.withoutEmptyPrefixes.name? = r.name? := by
  have hkey : ∀ v, isEmptyPrefix (nameKey, v) = false := fun v => by
    rw [isEmptyPrefix, (by decide : (nameKey == prefixKey || nameKey == optionalPrefixKey) = false), Bool.false_and]
  rw [name?, get?_withoutEmptyPrefixes]
  cases hname : r.get? nameKey with
  | none => rw [name?, hname, Option.filter_none]
  | some name => rw [name?, hname, Option.filter_some, if_pos (by rw [hkey]; rfl)]

/-- A prefix, an own or an optional one, is left where it is not empty. -/
theorem get?_withoutEmptyPrefixes_eq_some_iff (hkey : key = prefixKey ∨ key = optionalPrefixKey) :
    r.withoutEmptyPrefixes.get? key = some p ↔ r.get? key = some p ∧ p ≠ [] := by
  have hpair : (key == prefixKey || key == optionalPrefixKey) = true := by simpa using hkey
  rw [get?_withoutEmptyPrefixes, Option.filter_eq_some_iff, isEmptyPrefix, hpair]
  simp

/-- A name starts with the own prefix of a row without its empty prefixes when it starts with a full own prefix of the row. -/
theorem owns_withoutEmptyPrefixes_iff :
    r.withoutEmptyPrefixes.owns n ↔ ∃ p, r.get? prefixKey = some p ∧ p ≠ [] ∧ p <+: n := by
  simp only [owns, Option.any_eq_true, List.isPrefixOf_iff_prefix, get?_withoutEmptyPrefixes_eq_some_iff (Or.inl rfl),
    and_assoc]

end Row

namespace Table

variable {rows : Table} {n rest : Text} {r : Row}

/-- A table without its empty prefixes, own and optional ones. -/
def withoutEmptyPrefixes (rows : Table) : Table := rows.map Row.withoutEmptyPrefixes

/-- The rows before the first one that has a name and an empty optional prefix. -/
def reached (rows : Table) : Table := rows.takeWhile fun r => !r.endsScans

/-! ## Scans -/

/-- What a scan leaves of a name, row by row. -/
theorem afterScan_cons (r : Row) (rows : Table) (n : Text) :
    afterScan (r :: rows) n =
      match r.name?, (r.get? Row.optionalPrefixKey).bind (·.isPrefixOf? n) with
      | none, _ => afterScan rows n
      | some _, some rest => rest
      | some rowName, none => if rowName.lower = n.lower then n else afterScan rows n := by
  rw [afterScan, stripOnce?]
  cases r.name? with
  | none => rfl
  | some rowName =>
    cases (r.get? Row.optionalPrefixKey).bind (·.isPrefixOf? n) with
    | some rest => rfl
    | none =>
      dsimp only
      split <;> rfl

/-- The optional prefix of a row that ends no scans applies as it does without the empty prefixes. -/
theorem optionalPrefix_withoutEmptyPrefixes (h : r.get? Row.optionalPrefixKey ≠ some []) :
    r.withoutEmptyPrefixes.get? Row.optionalPrefixKey = r.get? Row.optionalPrefixKey := by
  refine Option.ext fun p => ?_
  rw [Row.get?_withoutEmptyPrefixes_eq_some_iff (Or.inr rfl)]
  exact and_iff_left_of_imp fun hp hempty => h (hempty ▸ hp)

/-- A scan leaves of a name what it leaves in the rows that are reached, without their empty prefixes. -/
theorem afterScan_reached (rows : Table) (n : Text) :
    rows.afterScan n = rows.reached.withoutEmptyPrefixes.afterScan n := by
  rw [reached, withoutEmptyPrefixes]
  induction rows with
  | nil => rfl
  | cons r rows ih =>
    cases hends : r.endsScans with
    | true =>
      -- the empty prefix leaves the name as it is, and so does a table without rows
      rw [Row.endsScans, Bool.and_eq_true, beq_iff_eq] at hends
      obtain ⟨hnamed, hempty⟩ := hends
      obtain ⟨rowName, hname⟩ := Option.isSome_iff_exists.1 hnamed
      rw [List.takeWhile_cons_of_neg (by simp [Row.endsScans, hname, hempty]), List.map_nil, afterScan_cons, hname, hempty]
      rfl
    | false =>
      rw [List.takeWhile_cons_of_pos (by rw [hends]; rfl), List.map_cons, afterScan_cons, afterScan_cons,
        Row.name?_withoutEmptyPrefixes, ih]
      cases hname : r.name? with
      | none => rfl
      | some rowName =>
        have hfull : r.get? Row.optionalPrefixKey ≠ some [] := fun hempty => by
          rw [Row.endsScans, hname, hempty] at hends
          cases hends
        rw [optionalPrefix_withoutEmptyPrefixes hfull]

/-- Prefixes are taken off a name as in the rows that are reached, without their empty prefixes. -/
theorem stripPrefixes_reached (rows : Table) (n : Text) :
    rows.stripPrefixes n = rows.reached.withoutEmptyPrefixes.stripPrefixes n :=
  stripPrefixes_congr (afterScan_reached rows) n

/-- A table is the rows that are reached and the rows behind them. -/
theorem exists_withoutEmptyPrefixes_eq_append (rows : Table) :
    ∃ later, rows.withoutEmptyPrefixes = rows.reached.withoutEmptyPrefixes ++ later := by
  refine ⟨(rows.dropWhile fun r => !r.endsScans).map Row.withoutEmptyPrefixes, ?_⟩
  rw [withoutEmptyPrefixes, withoutEmptyPrefixes, reached, ← List.map_append, List.takeWhile_append_dropWhile]

/-- A name passes through the first of the names that it passes through without the empty prefixes. -/
theorem successiveNames_prefix (rows : Table) (n : Text) :
    rows.successiveNames n <+: rows.withoutEmptyPrefixes.successiveNames n := by
  obtain ⟨later, hlater⟩ := exists_withoutEmptyPrefixes_eq_append rows
  rw [successiveNames_congr (afterScan_reached rows), hlater]
  exact namesFrom_prefix_append _ later greatestStrips n

/-- Where no row ends scans, all rows are reached. -/
theorem reached_eq_self (h : ∀ r ∈ rows, r.name?.isSome → r.get? Row.optionalPrefixKey ≠ some []) : rows.reached = rows := by
  rw [reached, List.takeWhile_eq_self_iff]
  intro r hr
  rw [Bool.not_eq_true', Row.endsScans, Bool.and_eq_false_imp]
  exact fun hname => beq_eq_false_iff_ne.2 (h r hr hname)

/-! ## Properties and own prefixes -/

/-- A property is found by its name as without the empty prefixes. -/
theorem property?_withoutEmptyPrefixes (rows : Table) (n : Text) :
    rows.withoutEmptyPrefixes.property? n = (rows.property? n).map Row.withoutEmptyPrefixes := by
  have hnamed : ((·.isNamed n.lower) ∘ Row.withoutEmptyPrefixes) = fun r : Row => r.isNamed n.lower := by
    funext r
    rw [Function.comp_apply, Row.isNamed, Row.name?_withoutEmptyPrefixes, Row.isNamed]
  rw [property?, withoutEmptyPrefixes, List.find?_map, hnamed, property?]

/-- Every row with an empty own prefix stands behind one with a full own prefix that a name starts with. -/
def FullOwnerFirst (rows : Table) (n : Text) : Prop :=
  ∀ before r after, rows = before ++ r :: after → r.get? Row.prefixKey = some [] →
    ∃ r' ∈ before, ∃ p, r'.get? Row.prefixKey = some p ∧ p ≠ [] ∧ p <+: n

/-- A full own prefix comes first that stands behind rows without an empty one. -/
theorem FullOwnerFirst.of_append {p : Text} (front later : Table) (hfront : ∀ r' ∈ front, r'.get? Row.prefixKey ≠ some [])
    (hp : r.get? Row.prefixKey = some p) (hfull : p ≠ []) (hn : p <+: n) : FullOwnerFirst (front ++ r :: later) n := by
  have hnot : r.get? Row.prefixKey ≠ some [] := fun hempty => hfull (Option.some.inj (hp.symm.trans hempty))
  intro before r' after hsplit hempty
  refine ⟨r, ?_, p, hp, hfull, hn⟩
  obtain ⟨between, rfl, hbehind⟩ | ⟨between, rfl, hbehind⟩ := List.append_eq_append_iff.1 hsplit
  · cases between with
    | nil =>
      obtain ⟨rfl, -⟩ := List.cons.inj hbehind
      exact absurd hempty hnot
    | cons first between =>
      obtain ⟨rfl, -⟩ := List.cons.inj hbehind
      exact List.mem_append_right _ List.mem_cons_self
  · -- a row with an empty prefix is neither `r` nor in front of it
    cases between with
    | nil =>
      obtain ⟨rfl, -⟩ := List.cons.inj hbehind
      exact absurd hempty hnot
    | cons first between =>
      obtain ⟨rfl, -⟩ := List.cons.inj hbehind
      exact absurd hempty (hfront r' (List.mem_append_right _ List.mem_cons_self))

/-- Where a full own prefix comes first, the search by own prefix ends as without the empty prefixes. -/
theorem nameByPrefix?_withoutEmptyPrefixes (h : rows.FullOwnerFirst n) :
    rows.withoutEmptyPrefixes.nameByPrefix? n = rows.nameByPrefix? n := by
  have howner : ∀ r : Row, r.withoutEmptyPrefixes.owns n → r.owns n := by
    intro r hr
    obtain ⟨p, hp, _, hn⟩ := Row.owns_withoutEmptyPrefixes_iff.1 hr
    rw [Row.owns, hp, Option.any_some, List.isPrefixOf_iff_prefix]
    exact hn
  have hfirst : rows.find? (·.withoutEmptyPrefixes.owns n) = rows.find? (·.owns n) := by
    cases hfound : rows.find? (·.owns n) with
    | none =>
      rw [List.find?_eq_none] at hfound ⊢
      exact fun r hr hn => hfound r hr (howner r hn)
    | some r =>
      obtain ⟨hr, before, after, hsplit, hbefore⟩ := List.find?_eq_some_iff_append.1 hfound
      refine List.find?_eq_some_iff_append.2 ⟨?_, before, after, hsplit, fun r' hr' => ?_⟩
      · rw [Row.owns, Option.any_eq_true] at hr
        obtain ⟨p, hp, hn⟩ := hr
        refine Row.owns_withoutEmptyPrefixes_iff.2 ⟨p, hp, ?_, List.isPrefixOf_iff_prefix.1 hn⟩
        -- a full own prefix that comes first would have been found
        rintro rfl
        obtain ⟨r', hr', hfull⟩ := h before r after hsplit hp
        have hnot := hbefore r' hr'
        rw [howner r' (Row.owns_withoutEmptyPrefixes_iff.2 hfull)] at hnot
        cases hnot
      · have hnot := hbefore r' hr'
        rw [Bool.not_eq_true'] at hnot ⊢
        exact Bool.eq_false_iff.2 fun hn => by rw [howner r' hn] at hnot; cases hnot
  rw [nameByPrefix?_eq, nameByPrefix?_eq, withoutEmptyPrefixes, List.find?_map, ← hfirst]
  change ((rows.find? (·.withoutEmptyPrefixes.owns n)).map Row.withoutEmptyPrefixes).bind _ = _
  cases rows.find? (·.withoutEmptyPrefixes.owns n) with
  | none => rfl
  | some r => exact Row.name?_withoutEmptyPrefixes r

/-! ## Resolution -/

/-- Empty prefixes are inert as far as no scan and no search by own prefix comes to them. A name is stripped as in the rows before
the first one with a name and an empty optional prefix, and there without the empty prefixes; so it passes through the first of
the names that it passes through without the empty prefixes, and is stripped alike where no row with a name has an empty
optional prefix. A property is resolved alike. Another name that is stripped alike is resolved alike, and has a summary exactly
when it has one without the empty prefixes, where the stripped name is a property or starts with a full own prefix that comes
before every empty one. -/
theorem emptyPrefixes_inert (rows : Table) (n : Text) :
    rows.stripPrefixes n = rows.reached.withoutEmptyPrefixes.stripPrefixes n ∧
    rows.successiveNames n <+: rows.withoutEmptyPrefixes.successiveNames n ∧
    ((∀ r ∈ rows, r.name?.isSome → r.get? Row.optionalPrefixKey ≠ some []) →
      rows.withoutEmptyPrefixes.stripPrefixes n = rows.stripPrefixes n) ∧
    ((rows.property? n).isSome ∨
        rows.withoutEmptyPrefixes.stripPrefixes n = rows.stripPrefixes n ∧
          ((rows.property? (rows.stripPrefixes n)).isSome ∨ rows.FullOwnerFirst (rows.stripPrefixes n)) →
      rows.withoutEmptyPrefixes.resolve? n = rows.resolve? n ∧
      (rows.withoutEmptyPrefixes.describe? n = none ↔ rows.describe? n = none)) := by
  refine ⟨stripPrefixes_reached rows n, successiveNames_prefix rows n, fun h => ?_, fun h => ?_⟩
  · rw [stripPrefixes_reached rows, reached_eq_self h]
  · have hproperty : ∀ m, (rows.withoutEmptyPrefixes.property? m).isSome = (rows.property? m).isSome := fun m => by
      rw [property?_withoutEmptyPrefixes, Option.isSome_map]
    have hresolve : rows.withoutEmptyPrefixes.resolve? n = rows.resolve? n := by
      rcases h with h | ⟨hstrip, h⟩
      · rw [resolve?_of_property? h, resolve?_of_property? ((hproperty n).trans h)]
      · have hown : (rows.property? (rows.stripPrefixes n)).isSome = true ∨
            rows.withoutEmptyPrefixes.nameByPrefix? (rows.stripPrefixes n) = rows.nameByPrefix? (rows.stripPrefixes n) :=
          h.imp id nameByPrefix?_withoutEmptyPrefixes
        rw [resolve?, resolve?, hstrip]
        simp only [hproperty]
        rcases hown with hfound | hown
        · rw [if_pos hfound, if_pos hfound]
        · rw [hown]
    exact ⟨hresolve, by rw [describe?_eq_none_iff, describe?_eq_none_iff, hresolve]⟩

/-- A full own prefix in front of an empty one, and an empty optional prefix of a row without a name. -/
def fullFirst : Table :=
  [OrderedMap.ofPairs [(Row.optionalPrefixKey, [])],
    OrderedMap.ofPairs [(Row.nameKey, "header"), (Row.prefixKey, "header."), (Row.optionalPrefixKey, "camel.")],
    OrderedMap.ofPairs [(Row.nameKey, "rest"), (Row.prefixKey, [])]]

/-- The empty prefixes of `fullFirst` are inert for a header. -/
theorem emptyPrefixes_inert_fullFirst :
    (∀ r ∈ fullFirst, r.name?.isSome → r.get? Row.optionalPrefixKey ≠ some []) ∧ fullFirst.FullOwnerFirst "header.x" ∧
    fullFirst.stripPrefixes "camel.header.x" = "header.x" ∧
    fullFirst.withoutEmptyPrefixes.stripPrefixes "camel.header.x" = "header.x" ∧
    fullFirst.withoutEmptyPrefixes.resolve? "camel.header.x" = fullFirst.resolve? "camel.header.x" ∧
    (fullFirst.withoutEmptyPrefixes.describe? "camel.header.x" = none ↔ fullFirst.describe? "camel.header.x" = none) := by
  have hfull : ∀ r ∈ fullFirst, r.name?.isSome → r.get? Row.optionalPrefixKey ≠ some [] := by decide
  have hstripped : fullFirst.stripPrefixes "camel.header.x" = "header.x" := by decide
  have howner : fullFirst.FullOwnerFirst "header.x" :=
    .of_append (p := "header.") (fullFirst.take 1) (fullFirst.drop 2) (by decide) (by decide) (by decide) (by decide)
  have hinert := emptyPrefixes_inert fullFirst "camel.header.x"
  have halike := hinert.2.2.1 hfull
  exact ⟨hfull, howner, hstripped, halike.trans hstripped, hinert.2.2.2 (Or.inr ⟨halike, Or.inr (hstripped ▸ howner)⟩)⟩

/-- Empty prefixes are not always inert: an empty optional prefix of one row ends the scan before the optional prefix of the row
behind it. -/
theorem emptyPrefixes_false : ¬ ∀ (rows : Table) (n : Text), rows.withoutEmptyPrefixes.stripPrefixes n = rows.stripPrefixes n ∧
    rows.withoutEmptyPrefixes.resolve? n = rows.resolve? n ∧
    (rows.withoutEmptyPrefixes.describe? n = none ↔ rows.describe? n = none) := by
  intro h
  have hends := (h [OrderedMap.ofPairs [(Row.nameKey, "delay"), (Row.optionalPrefixKey, [])],
    OrderedMap.ofPairs [(Row.nameKey, "timeout"), (Row.optionalPrefixKey, "camel.")]] "camel.timeout").1
  revert hends
  decide

end Table

end Descriptors
