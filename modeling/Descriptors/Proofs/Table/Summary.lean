import Descriptors.Proofs.Descriptor.GroupRows
import Descriptors.Proofs.OrderedMap
import Descriptors.Proofs.Table.Resolution
import Descriptors.Proofs.Text.ControlEscape
import Mathlib.Data.List.Find
import Mathlib.Data.List.Forall2

/-!
# Summaries of properties

A summary is given for each name of a table, and lists the values that the property may have.
-/

/-! ## The summaries of all names

The names of a table are told apart by their spelling (`Table.names_eq`), and a property is found by its name in any letter
case. So `Table.describeAll` gives one summary for each name, but that of the first row that has the name in any letter case:
its names are those of the table exactly when no two of them have the same small form (`Table.describeAll_names_iff`). Where
two have, the summary of the earlier one comes twice and the other one has none (`Table.describeAll_names_false`).
-/

namespace Descriptors.Table

variable {rows : Table} {n name : Text} {r : Row} {α β : Type}

/-! ### The names of a table -/

/-- The names of a table are those of its rows, each once, in the order of their first rows. -/
theorem names_eq (rows : Table) : rows.names = (rows.filterMap Row.name?).eraseDups := by
  have hkeys : Entries.keys (rows.filterMap fun r => r.name?.map fun name => (name, ())) = rows.filterMap Row.name? := by
    rw [Entries.keys, List.map_filterMap]
    congr 1
    funext r
    cases r.name? <;> rfl
  have hput := Entries.keys_putAll_eraseDups (rows.filterMap fun r => r.name?.map fun name => (name, ())) []
  rw [hkeys] at hput
  simpa [names, OrderedMap.ofPairs, OrderedMap.keys, OrderedMap.putAll, OrderedMap.empty, Entries.keys] using hput

/-- A name of a table is the name of one of its rows. -/
theorem mem_names_iff : n ∈ rows.names ↔ ∃ r ∈ rows, r.name? = some n := by
  rw [names_eq, List.mem_eraseDups, List.mem_filterMap]

/-- Each name of a table finds a row. -/
theorem property?_of_mem_names (hn : n ∈ rows.names) : ∃ r, rows.property? n = some r := by
  obtain ⟨r, hr, hname⟩ := mem_names_iff.1 hn
  exact Option.isSome_iff_exists.1 (isSome_property?_of_mem hr hname)

/-- The name in the row that is found is a name of the table. -/
theorem mem_names_of_property? (h : rows.property? n = some r) (hname : r.name? = some name) : name ∈ rows.names :=
  mem_names_iff.2 ⟨r, (property?_found h).1, hname⟩

/-- Where no two names have the same small form, the row found for a name in any letter case is the first row with exactly that
name. -/
theorem property?_eq_row? (hdistinct : ∀ m ∈ rows.names, ∀ n ∈ rows.names, m.lower = n.lower → m = n) (hn : n ∈ rows.names) :
    rows.property? n = rows.row? n := by
  refine List.find?_congr fun r hr => ?_
  rw [Bool.eq_iff_iff, Row.isNamed_iff, beq_iff_eq]
  constructor
  · rintro ⟨m, hm, hlower⟩
    rw [hm, hdistinct m (mem_names_iff.2 ⟨r, hr, hm⟩) n hn hlower]
  · exact fun hname => ⟨n, hname, rfl⟩

/-! ### One summary for each name -/

/-- What a list gives one by one, where each item gives something. -/
theorem forall₂_filterMap {R : α → β → Prop} {f : α → Option β} {xs : List α} (h : ∀ x ∈ xs, ∃ y, f x = some y ∧ R x y) :
    List.Forall₂ R xs (xs.filterMap f) := by
  induction xs with
  | nil => exact List.Forall₂.nil
  | cons x xs ih =>
    obtain ⟨y, hy, hxy⟩ := h x List.mem_cons_self
    rw [List.filterMap_cons_some hy]
    exact List.Forall₂.cons hxy (ih fun x' hx' => h x' (List.mem_cons_of_mem x hx'))

/-- What a list gives one by one leads back to the list exactly when each single one leads back. -/
theorem map_filterMap_eq_iff {f : α → Option β} {g : β → α} {xs : List α} (h : ∀ x ∈ xs, (f x).isSome) :
    (xs.filterMap f).map g = xs ↔ ∀ x ∈ xs, ∀ y, f x = some y → g y = x := by
  induction xs with
  | nil => simp
  | cons x xs ih =>
    obtain ⟨y, hy⟩ := Option.isSome_iff_exists.1 (h x List.mem_cons_self)
    rw [List.filterMap_cons_some hy, List.map_cons, List.cons.injEq, ih fun x' hx' => h x' (List.mem_cons_of_mem x hx'),
      List.forall_mem_cons, hy]
    simp

/-- The summary of a name of the table is that of the first row with the name in any letter case. -/
theorem describe?_of_mem_names (hn : n ∈ rows.names) :
    ∃ info, rows.describe? n = some info ∧ ∃ r, rows.property? n = some r ∧ r.name? = some info.name ∧
      info.name.lower = n.lower ∧ info = r.summary info.name := by
  obtain ⟨r, hr⟩ := property?_of_mem_names hn
  obtain ⟨_, name, hname, hlower⟩ := property?_found hr
  exact ⟨r.summary name, describe?_of_property? hr hname, r, hr, hname, hlower, rfl⟩

/-- Every summary has the name that it is the summary of exactly when no two names have the same small form. -/
theorem describe?_names_iff : (∀ n ∈ rows.names, ∀ info, rows.describe? n = some info → info.name = n) ↔
    ∀ m ∈ rows.names, ∀ n ∈ rows.names, m.lower = n.lower → m = n := by
  constructor
  · intro h m hm n hn hlower
    obtain ⟨info, hinfo, r, hr, hname, _⟩ := describe?_of_mem_names hm
    have hsame : rows.describe? n = some info := by
      obtain ⟨info', hinfo', r', hr', hname', _, heq'⟩ := describe?_of_mem_names hn
      rw [property?_congr rows hlower.symm, hr] at hr'
      cases hr'
      rw [describe?_of_property? hr hname] at hinfo
      rw [hinfo', heq', ← hinfo, Option.some.inj (hname'.symm.trans hname)]
    rw [← h m hm info hinfo, h n hn info hsame]
  · intro hdistinct n hn info hinfo
    obtain ⟨info', hinfo', r, hr, hname, hlower, _⟩ := describe?_of_mem_names hn
    cases hinfo.symm.trans hinfo'
    exact hdistinct info.name (mem_names_of_property? hr hname) n hn hlower

/-- The names of a table are those of its rows, each once, in the order of their first rows. There is one summary for each of
them, in this order, that of the first row that has the name in any letter case. The names of the summaries are the names of the
table exactly when no two of these have the same small form, and then each summary is that of the first row with exactly that
name. -/
theorem describeAll_names_iff (rows : Table) :
    rows.names = (rows.filterMap Row.name?).eraseDups ∧
    List.Forall₂ (fun n info => ∃ r, rows.property? n = some r ∧ r.name? = some info.name ∧ info.name.lower = n.lower ∧
      info = r.summary info.name) rows.names rows.describeAll ∧
    (rows.describeAll.map (·.name) = rows.names ↔ ∀ m ∈ rows.names, ∀ n ∈ rows.names, m.lower = n.lower → m = n) ∧
    ((∀ m ∈ rows.names, ∀ n ∈ rows.names, m.lower = n.lower → m = n) →
      List.Forall₂ (fun n info => ∃ r, rows.row? n = some r ∧ info = r.summary n) rows.names rows.describeAll) := by
  have hsome : ∀ n ∈ rows.names, (rows.describe? n).isSome := by
    intro n hn
    obtain ⟨info, hinfo, _⟩ := describe?_of_mem_names hn
    rw [hinfo, Option.isSome_some]
  refine ⟨names_eq rows, forall₂_filterMap fun n hn => describe?_of_mem_names hn,
    (map_filterMap_eq_iff hsome).trans describe?_names_iff, fun hdistinct => forall₂_filterMap fun n hn => ?_⟩
  obtain ⟨info, hinfo, r, hr, _, _, heq⟩ := describe?_of_mem_names hn
  have hname : info.name = n := describe?_names_iff.2 hdistinct n hn info hinfo
  rw [property?_eq_row? hdistinct hn] at hr
  exact ⟨info, hinfo, r, hr, hname ▸ heq⟩

/-- The names of the summaries are not always the names of the table: of two names that differ in letter case, the earlier one
comes twice. -/
theorem describeAll_names_false : ¬ ∀ rows : Table, rows.describeAll.map (·.name) = rows.names := by
  intro h
  have hclash := h [OrderedMap.ofPairs [(Row.nameKey, "dup")], OrderedMap.ofPairs [(Row.nameKey, "DUP")]]
  revert hclash
  decide

end Descriptors.Table

/-! ## Listed values

The values that a property may have are an array in its descriptor, one cell in its row, and a list again in its summary. The cell
joins the texts of the items with commas and is escaped as a whole; the summary splits it at the commas. A comma is neither
escaped nor does it come out of the escape, so splitting gives the items back, each one escaped, as far as it can: not where an
item brings a comma of its own, and not where the cell of a single item is empty, since an empty cell lists nothing
(`enumValues_joinWith_iff`).
-/

namespace Descriptors

/-- The cells of the items of an array, one by one. -/
theorem Json.itemCells_eq (items : List Json) : Json.itemCells items = items.map Json.toCell := by
  induction items with
  | nil => rfl
  | cons v items ih => rw [Json.itemCells, ih, List.map_cons]

/-- A cell that joins values with commas lists these values exactly when none of them holds a comma and they are not one empty
value. -/
theorem enumValues_joinWith_iff (values : List Text) :
    enumValues (some (Text.joinWith [CodePoint.comma] values)) = values ↔
      (∀ v ∈ values, CodePoint.comma ∉ v) ∧ values ≠ [[]] := by
  by_cases hempty : Text.joinWith [CodePoint.comma] values = []
  · -- an empty cell joins no values, or a single empty one
    have hvalues : values = [] ∨ values = [[]] := by
      cases values with
      | nil => exact Or.inl rfl
      | cons v values =>
        cases values with
        | nil =>
          rw [Text.joinWith, List.intercalate_singleton] at hempty
          exact Or.inr (by rw [hempty])
        | cons w values =>
          rw [Text.joinWith, List.intercalate_cons_cons, List.append_eq_nil_iff, List.append_eq_nil_iff] at hempty
          exact absurd hempty.1.2 (List.cons_ne_nil _ _)
    rw [hempty, enumValues]
    rcases hvalues with rfl | rfl <;> simp
  · have hsplit : enumValues (some (Text.joinWith [CodePoint.comma] values)) =
        Text.splitAt CodePoint.comma (Text.joinWith [CodePoint.comma] values) := by
      rw [enumValues]
      exact hempty
    have hne : values ≠ [] := fun e => hempty (e ▸ rfl)
    have hone : values ≠ [[]] := fun e => hempty (e ▸ rfl)
    rw [hsplit, Text.splitAt_joinWith_iff hne]
    exact (and_iff_left hone).symm

/-- The escaped cell of an array lists its items, each with its escaped cell, exactly when no item's cell holds a comma and the
array is not one item with an empty cell. -/
theorem enumValues_array_iff (items : List Json) :
    enumValues (some (Json.array items).toCell.escapeControls) = items.map (fun v => v.toCell.escapeControls) ↔
      (∀ v ∈ items, CodePoint.comma ∉ v.toCell) ∧ ¬ ∃ v, items = [v] ∧ v.toCell = [] := by
  have hcell : (Json.array items).toCell.escapeControls =
      Text.joinWith [CodePoint.comma] (items.map fun v => v.toCell.escapeControls) := by
    rw [Json.toCell, Json.itemCells_eq, Text.escapeControls_joinWith (by decide) (by decide), List.map_map]
    rfl
  have hone : items.map (fun v => v.toCell.escapeControls) = [[]] ↔ ∃ v, items = [v] ∧ v.toCell = [] := by
    rw [List.map_eq_singleton_iff]
    exact exists_congr fun v => and_congr_right fun _ => Text.escapeControls_eq_nil_iff
  rw [hcell, enumValues_joinWith_iff, List.forall_mem_map, ne_eq, hone]
  simp only [Text.mem_escapeControls_iff]

namespace Table

variable {rows : Table} {n resolved : Text} {r : Row} {items : List Json}

/-- The values that a summary lists are the items of the array that the cell was made from, each one as an escaped cell and in
order, exactly when no item's cell holds a comma and the array is not a single item with an empty cell. This is so for every
option name, with whatever prefixes it is resolved, and the summary is there. -/
theorem enum_items_iff (hres : rows.resolve? n = some resolved) (hrow : rows.property? resolved = some r)
    (hcell : r.get? Row.enumKey = (Row.ofMetadata [(Row.enumKey, .array items)]).get? Row.enumKey) :
    ∃ info, rows.describe? n = some info ∧
      (info.enum = items.map (fun v => v.toCell.escapeControls) ↔
        (∀ v ∈ items, CodePoint.comma ∉ v.toCell) ∧ ¬ ∃ v, items = [v] ∧ v.toCell = []) := by
  obtain ⟨name, -, hdescribe⟩ := describe?_of_resolve? hres hrow
  refine ⟨r.summary name, hdescribe, ?_⟩
  have hkeys : Entries.keys [(Row.enumKey, Json.array items)] = [Row.enumKey] := rfl
  have henum : (r.summary name).enum = enumValues (some (Json.array items).toCell.escapeControls) := by
    rw [Row.summary, hcell, Row.get?_ofMetadata Row.enumKey (hkeys ▸ List.nodup_singleton _), Entries.get?_cons, if_pos rfl,
      Option.map_some]
  rw [henum, enumValues_array_iff]

/-- A listed value may be null or hold a written line feed: given with an optional prefix, the property lists the three. -/
theorem enum_items_three :
    ∃ info, Table.describe? [OrderedMap.ofPairs [(Row.nameKey, "mode"), (Row.optionalPrefixKey, "camel."),
        (Row.enumKey, "fast,,x\\\\n")]] "camel.Mode" = some info ∧
      info.enum = [Json.string "fast", .null, .string "x\\n"].map fun v => v.toCell.escapeControls := by
  obtain ⟨info, hinfo, henum⟩ := @enum_items_iff
    [OrderedMap.ofPairs [(Row.nameKey, "mode"), (Row.optionalPrefixKey, "camel."), (Row.enumKey, "fast,,x\\\\n")]]
    "camel.Mode" "Mode" _ [.string "fast", .null, .string "x\\n"] rfl rfl rfl
  refine ⟨info, hinfo, henum.2 ⟨by decide, ?_⟩⟩
  rintro ⟨v, hv, -⟩
  cases hv

end Table

end Descriptors
