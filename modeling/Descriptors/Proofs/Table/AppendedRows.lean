import Descriptors.Proofs.Table.Stripping

/-!
# Appended rows

Rows that are added behind a table may bring optional prefixes that fit the names which a name passes through, and names that
it has. Where the table strips a name to one of its properties, none of this matters for stripping: each scan but the last one
takes a prefix off before it comes to the new rows, and the last one ends at the property or at an empty prefix, if the limit of
strips does not end stripping before it (`Table.stripFrom_append`). Resolution looks a name up before it is stripped, so there the
new rows must not have the name itself (`Table.stripped_append`).
-/

namespace Descriptors.Table

variable {rows later : Table} {n : Text} {r : Row}

/-! ## Stripping -/

/-- Where the loop ends at a property, it goes through the same names with rows behind. -/
theorem stripFrom_append (later : Table) (strips : Nat) : ∀ seen n, (rows.property? (stripFrom rows strips seen n)).isSome →
    stripFrom (rows ++ later) strips seen n = stripFrom rows strips seen n := by
  induction strips with
  | zero => exact fun seen n _ => rfl
  | succ strips ih =>
    intro seen n hfound
    rw [stripFrom] at hfound
    rw [stripFrom, stripFrom]
    cases hstrip : rows.stripOnce? n with
    | none =>
      -- the last scan: the name is a property, so it ends before the rows behind
      rw [hstrip] at hfound
      rw [stripOnce?_append_of_property? hfound, hstrip]
    | some rest =>
      rw [hstrip] at hfound
      rw [stripOnce?_append hstrip]
      dsimp only at hfound ⊢
      split
      · rfl
      · next hnew =>
        rw [if_neg hnew] at hfound
        exact ih (rest :: seen) rest hfound

/-- A name that is stripped to a property is stripped alike with rows behind. -/
theorem stripPrefixes_append (h : (rows.property? (rows.stripPrefixes n)).isSome) (later : Table) :
    (rows ++ later).stripPrefixes n = rows.stripPrefixes n :=
  stripFrom_append later greatestStrips [n] n h

/-! ## Resolution -/

/-- A name that is stripped to a property is resolved alike with rows behind, unless only those have the name itself. -/
theorem resolve?_append (h : (rows.property? (rows.stripPrefixes n)).isSome)
    (hlater : (rows.property? n).isSome ∨ later.property? n = none) : (rows ++ later).resolve? n = rows.resolve? n := by
  cases hn : rows.property? n with
  | some r =>
    have hfound : (rows.property? n).isSome := by rw [hn, Option.isSome_some]
    have hfound' : ((rows ++ later).property? n).isSome := by rwa [property?_append_of_isSome hfound]
    rw [resolve?_of_property? hfound, resolve?_of_property? hfound']
  | none =>
    have hnone : (rows ++ later).property? n = none := by
      rw [property?_append, hn, Option.none_or]
      exact hlater.resolve_left (by simp [hn])
    have hstrip := stripPrefixes_append h later
    have hstripped : ((rows ++ later).property? ((rows ++ later).stripPrefixes n)).isSome := by
      rwa [hstrip, property?_append_of_isSome h]
    rw [resolve?_of_stripped hn h, resolve?_of_stripped hnone hstripped, hstrip]

/-- Names that are resolved alike with rows behind are described alike. -/
theorem describe?_append (h : (rows ++ later).resolve? n = rows.resolve? n) :
    (rows ++ later).describe? n = rows.describe? n := by
  rw [describe?_eq_bind, describe?_eq_bind rows, h]
  cases hresolved : rows.resolve? n with
  | none => rfl
  | some resolved =>
    have hfound := isSome_property?_of_resolve? hresolved
    obtain ⟨r, hr⟩ := Option.isSome_iff_exists.1 hfound
    exact describe?_congr ((property?_append_of_isSome hfound later).trans hr) hr

/-- A row behind takes over a name that the rows in front only strip to a property: its summary is that of another property. -/
theorem describe?_append_ne (h : (rows.property? (rows.stripPrefixes n)).isSome) (hn : rows.property? n = none)
    (hlater : later.property? n = some r) : (rows ++ later).describe? n ≠ rows.describe? n := by
  obtain ⟨r', hr'⟩ := Option.isSome_iff_exists.1 h
  obtain ⟨_, name, hname, hlower⟩ := property?_found hlater
  obtain ⟨_, name', hname', hlower'⟩ := property?_found hr'
  have hbehind : (rows ++ later).property? n = some r := by rw [property?_append, hn, Option.none_or, hlater]
  have hfront : rows.describe? n = some (r'.summary name') := by
    rw [describe?_eq_bind, resolve?_of_stripped hn h, Option.bind_some, describe?_of_property? hr' hname']
  rw [describe?_of_property? hbehind hname, hfront]
  intro heq
  -- one name would be a small form of both the name and what it is stripped to, and the name a property before
  have hnames : name = name' := congrArg PropertySummary.name (Option.some.inj heq)
  have hsame : n.lower = (rows.stripPrefixes n).lower := by rw [← hlower, hnames, hlower']
  rw [property?_congr rows hsame, hr'] at hn
  cases hn

/-- Rows that are appended cannot disturb a strip that ends at a property: the name is stripped to the same one. It is resolved and
described as before exactly when it was a property before, in any letter case, or none of the new rows has it. -/
theorem stripped_append (rows later : Table) (n : Text) (h : (rows.property? (rows.stripPrefixes n)).isSome) :
    (rows ++ later).stripPrefixes n = rows.stripPrefixes n ∧
    ((rows ++ later).resolve? n = rows.resolve? n ↔ (rows.property? n).isSome ∨ later.property? n = none) ∧
    ((rows ++ later).describe? n = rows.describe? n ↔ (rows.property? n).isSome ∨ later.property? n = none) := by
  have htaken : (rows ++ later).describe? n = rows.describe? n → (rows.property? n).isSome ∨ later.property? n = none := by
    intro hsame
    cases hn : rows.property? n with
    | some r => exact Or.inl rfl
    | none =>
      cases hlater : later.property? n with
      | none => exact Or.inr rfl
      | some r => exact absurd hsame (describe?_append_ne h hn hlater)
  refine ⟨stripPrefixes_append h later, ⟨fun hresolve => ?_, resolve?_append h⟩, htaken, fun hlater => ?_⟩
  · exact htaken (describe?_append hresolve)
  · exact describe?_append (resolve?_append h hlater)

/-- A table with one optional prefix. -/
def prefixed : Table := [OrderedMap.ofPairs [(Row.nameKey, "timeout"), (Row.optionalPrefixKey, "camel.")]]

/-- A row whose optional prefix is the front of the property of `prefixed`. -/
def fitting : Table := [OrderedMap.ofPairs [(Row.nameKey, "out"), (Row.optionalPrefixKey, "time")]]

/-- The property that an option of `prefixed` is stripped to is not stripped further by the row of `fitting`. -/
theorem stripped_append_fitting :
    (prefixed.property? (prefixed.stripPrefixes "camel.Timeout")).isSome ∧ fitting.property? "camel.Timeout" = none ∧
    (prefixed ++ fitting).stripPrefixes "camel.Timeout" = prefixed.stripPrefixes "camel.Timeout" ∧
    (prefixed ++ fitting).resolve? "camel.Timeout" = prefixed.resolve? "camel.Timeout" ∧
    (prefixed ++ fitting).describe? "camel.Timeout" = prefixed.describe? "camel.Timeout" := by
  have hstripped : (prefixed.property? (prefixed.stripPrefixes "camel.Timeout")).isSome := by decide
  have hnone : fitting.property? "camel.Timeout" = none := by decide
  obtain ⟨hstrip, hresolve, hdescribe⟩ := stripped_append prefixed fitting "camel.Timeout" hstripped
  exact ⟨hstripped, hnone, hstrip, hresolve.2 (Or.inr hnone), hdescribe.2 (Or.inr hnone)⟩

end Descriptors.Table
