import Descriptors.Descriptor.Rows
import Descriptors.Proofs.Json.Parts

/-!
# Values that are too deep for a row

The depth of calls that a row value takes (`Json.cellDepth`) is three for each level of arrays and one for each level of an object
below them. A value has a row value exactly when there is room for that many (`Json.tooDeep?_eq_none_iff`). So an object that is
read always has one, and so has a value that is nested no deeper than a third of what is read.
-/

namespace Descriptors

namespace Json

variable {v : Json} {items : List Json} {entries : Entries Json} {room : Nat}

mutual

/-- The depth of calls that the row value of a value takes. -/
def cellDepth : Json → Nat
  | .array items => itemsCellDepth items + callsPerArray
  | .object entries => nesting (.object entries)
  | _ => 0

/-- The greatest depth of calls that an item of a list takes. -/
def itemsCellDepth : List Json → Nat
  | [] => 0
  | v :: items => max (cellDepth v) (itemsCellDepth items)

end

mutual

/-- Nothing is too deep in a value exactly when there is room for its calls. -/
theorem tooDeepFor?_eq_none_iff : ∀ (room : Nat) (v : Json), tooDeepFor? room v = none ↔ v.cellDepth ≤ room
  | room, .array items => by
    have hitems := itemTooDeepFor?_eq_none_iff (room - callsPerArray) items
    rw [tooDeepFor?, cellDepth]
    split
    · next hroom => exact iff_of_false nofun (by omega)
    · next hroom => rw [hitems]; omega
  | room, .object entries => by
    rw [tooDeepFor?, cellDepth]
    split
    · next hroom => exact iff_of_false nofun (by omega)
    · next hroom => exact iff_of_true rfl (by omega)
  | _, .null => iff_of_true rfl (Nat.zero_le _)
  | _, .bool _ => iff_of_true rfl (Nat.zero_le _)
  | _, .int _ => iff_of_true rfl (Nat.zero_le _)
  | _, .float _ => iff_of_true rfl (Nat.zero_le _)
  | _, .string _ => iff_of_true rfl (Nat.zero_le _)

/-- `tooDeepFor?_eq_none_iff` for the items of a list. -/
theorem itemTooDeepFor?_eq_none_iff : ∀ (room : Nat) (items : List Json),
    itemTooDeepFor? room items = none ↔ itemsCellDepth items ≤ room
  | _, [] => iff_of_true rfl (Nat.zero_le _)
  | room, v :: items => by
    rw [itemTooDeepFor?, itemsCellDepth, Option.or_eq_none_iff, tooDeepFor?_eq_none_iff room v,
      itemTooDeepFor?_eq_none_iff room items, Nat.max_le]

end

/-- Nothing is too deep in a value exactly when its calls are not more than the levels that are read. -/
theorem tooDeep?_eq_none_iff : v.tooDeep? = none ↔ v.cellDepth ≤ greatestDepth := tooDeepFor?_eq_none_iff greatestDepth v

mutual

/-- No value takes more than three calls for each of its levels. -/
theorem cellDepth_le : ∀ v : Json, v.cellDepth ≤ callsPerArray * v.nesting
  | .array items => by
    have hitems := itemsCellDepth_le items
    rw [cellDepth, nesting, Nat.mul_add_one]
    omega
  | .object entries => by
    rw [cellDepth]
    exact Nat.le_mul_of_pos_left _ (by decide)
  | .null => Nat.zero_le _
  | .bool _ => Nat.zero_le _
  | .int _ => Nat.zero_le _
  | .float _ => Nat.zero_le _
  | .string _ => Nat.zero_le _

/-- `cellDepth_le` for the items of a list. -/
theorem itemsCellDepth_le : ∀ items : List Json, itemsCellDepth items ≤ callsPerArray * itemsNesting items
  | [] => Nat.zero_le _
  | v :: items => by
    rw [itemsCellDepth, itemsNesting]
    exact Nat.max_le.2 ⟨Nat.le_trans (cellDepth_le v) (Nat.mul_le_mul_left _ (Nat.le_max_left _ _)),
      Nat.le_trans (itemsCellDepth_le items) (Nat.mul_le_mul_left _ (Nat.le_max_right _ _))⟩

end

/-- Nothing is too deep in a value that is nested no deeper than a third of what is read. -/
theorem tooDeep?_of_nesting (h : callsPerArray * v.nesting ≤ greatestDepth) : v.tooDeep? = none :=
  tooDeep?_eq_none_iff.2 (Nat.le_trans (cellDepth_le v) h)

/-- Among the values that are nested no deeper than is read, only arrays are too deep for a row, and those of at most a third of that
depth are not. -/
theorem eq_array_of_lt_cellDepth (hread : v.nesting ≤ greatestDepth) (h : greatestDepth < v.cellDepth) :
    (∃ items, v = .array items) ∧ greatestDepth < callsPerArray * v.nesting := by
  refine ⟨?_, Nat.lt_of_lt_of_le h (cellDepth_le v)⟩
  cases v with
  | array items => exact ⟨items, rfl⟩
  | object entries => exact absurd h (Nat.not_lt.2 hread)
  | _ => exact absurd h (Nat.not_lt.2 (Nat.zero_le _))

/-- Nothing is too deep in an object within the limits of the reader. -/
theorem WithinLimits.tooDeep?_object (h : (Json.object entries).WithinLimits) : (Json.object entries).tooDeep? = none := by
  rw [tooDeep?_eq_none_iff, cellDepth]
  exact h.nesting

end Json

namespace Row

variable {α : Type} {a b : α} {entries : Entries Json} {cause : DescriptorCause} {container : Json.Container}

/-- Nothing is too deep among some values exactly when nothing is in any of them. -/
theorem tooDeep?_eq_none_iff : tooDeep? entries = none ↔ ∀ e ∈ entries, e.2.tooDeep? = none := List.findSome?_eq_none_iff

/-- Something is too deep among some values exactly when something is in one of them. -/
theorem exists_tooDeep?_iff :
    (∃ container, tooDeep? entries = some container) ↔ ∃ e ∈ entries, Json.greatestDepth < e.2.cellDepth := by
  rw [← Option.ne_none_iff_exists', ne_eq, tooDeep?_eq_none_iff]
  simp [Json.tooDeep?_eq_none_iff]

/-- Something is made of values exactly when nothing is too deep among them. -/
theorem ifShown_ok_iff : ifShown entries a = .ok b ↔ tooDeep? entries = none ∧ a = b := by
  rw [ifShown]
  cases tooDeep? entries <;> simp

/-- Nothing is made of values exactly when something is too deep among them. -/
theorem ifShown_error_iff :
    ifShown entries a = .error cause ↔ ∃ container, tooDeep? entries = some container ∧ cause = .cellTooDeep container := by
  rw [ifShown]
  cases tooDeep? entries <;> simp [eq_comm]

end Row

end Descriptors
