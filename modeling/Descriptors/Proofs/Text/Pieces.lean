import Descriptors.Text
import Mathlib.Data.List.Basic

/-!
# Pieces of a text

What joining pieces makes of them: every code point is one of a piece or of the separator, and the whole is at least as long
as each piece, and as the number of them where none is empty. What is split is joined to itself again
(`Text.joinWith_splitAt`). Where a piece holds no separator, splitting takes it off again (`Text.splitAt_append`), so joined
pieces are split into themselves exactly when none of them holds it (`Text.splitAt_joinWith_iff`).
-/

namespace Descriptors.Text

variable {separator : CodePoint} {sep piece rest : Text} {pieces : List Text}

/-! ## Joining -/

/-- A code point of joined pieces comes from the separator or from a piece. -/
theorem mem_of_mem_joinWith {x : CodePoint} (h : x ∈ joinWith sep pieces) : x ∈ sep ∨ ∃ p ∈ pieces, x ∈ p := by
  rw [joinWith] at h
  induction pieces with
  | nil => cases h
  | cons p pieces ih =>
    cases pieces with
    | nil =>
      rw [List.intercalate_singleton] at h
      exact Or.inr ⟨p, List.mem_cons_self, h⟩
    | cons q pieces =>
      rw [List.intercalate_cons_cons, List.mem_append, List.mem_append] at h
      rcases h with (h | h) | h
      · exact Or.inr ⟨p, List.mem_cons_self, h⟩
      · exact Or.inl h
      · exact (ih h).imp id fun ⟨r, hr, hx⟩ => ⟨r, List.mem_cons_of_mem p hr, hx⟩

/-- Joined pieces are at least as long as their number where none is empty. -/
theorem length_le_joinWith (h : ∀ p ∈ pieces, p ≠ []) : pieces.length ≤ (joinWith sep pieces).length := by
  rw [joinWith]
  induction pieces with
  | nil => exact Nat.zero_le _
  | cons p pieces ih =>
    obtain ⟨hp, hpieces⟩ := List.forall_mem_cons.1 h
    have hpos : 0 < List.length p := List.length_pos_iff.2 hp
    cases pieces with
    | nil =>
      rw [List.intercalate_singleton]
      exact hpos
    | cons q pieces =>
      have hrest := ih hpieces
      rw [List.intercalate_cons_cons, List.length_append, List.length_append, List.length_cons]
      omega

/-- Joined pieces are at least as long as each of them. -/
theorem length_le_of_mem_joinWith (h : piece ∈ pieces) : List.length piece ≤ (joinWith sep pieces).length := by
  rw [joinWith]
  induction pieces with
  | nil => cases h
  | cons p pieces ih =>
    cases pieces with
    | nil =>
      obtain rfl := List.mem_singleton.1 h
      exact Nat.le_of_eq (congrArg List.length (List.intercalate_singleton).symm)
    | cons q pieces =>
      rw [List.intercalate_cons_cons, List.length_append, List.length_append]
      rcases List.mem_cons.1 h with rfl | h
      · omega
      · have hrest := ih h
        omega

/-! ## Splitting -/

/-- Splitting at a code point is splitting a list at an element. -/
theorem splitAt_eq_splitOn (separator : CodePoint) (t : Text) : splitAt separator t = t.splitOn separator := by
  induction t with
  | nil => rfl
  | cons c t ih =>
    rw [splitAt, ih, List.splitOn_cons_eq_if_modifyHead]
    by_cases hc : c = separator
    · simp [hc]
    · rw [if_neg hc, if_neg (by simpa using hc)]
      cases h : t.splitOn separator with
      | nil => exact absurd h (List.splitOn_ne_nil separator t)
      | cons piece pieces => rfl

/-- The pieces of a text, joined by the separator again, are the text. -/
theorem joinWith_splitAt (separator : CodePoint) (t : Text) : joinWith [separator] (splitAt separator t) = t := by
  rw [splitAt_eq_splitOn, joinWith, List.intercalate_splitOn]

/-- A text without the separator is a single piece. -/
theorem splitAt_of_notMem (h : separator ∉ piece) : splitAt separator piece = [piece] := by
  rw [splitAt_eq_splitOn, List.splitOn_eq_singleton h]

/-- A piece without the separator is split off at the separator behind it. -/
theorem splitAt_append (h : separator ∉ piece) :
    splitAt separator (piece ++ separator :: rest) = piece :: splitAt separator rest := by
  rw [splitAt_eq_splitOn, splitAt_eq_splitOn, List.splitOn_append_cons_self_of_not_mem h]

/-- No piece of a text that is split holds the separator. -/
theorem notMem_of_mem_splitAt {t : Text} : ∀ p ∈ splitAt separator t, separator ∉ p := by
  induction t with
  | nil => simp [splitAt]
  | cons c t ih =>
    rw [splitAt_eq_splitOn] at ih ⊢
    rw [List.splitOn_cons_eq_if_modifyHead]
    by_cases hc : c = separator
    · simpa [hc] using ih
    · rw [if_neg (by simpa using hc)]
      cases h : t.splitOn separator with
      | nil => exact absurd h (List.splitOn_ne_nil separator t)
      | cons piece pieces =>
        rw [h, List.forall_mem_cons] at ih
        rw [List.modifyHead_cons, List.forall_mem_cons, List.mem_cons, not_or]
        exact ⟨⟨fun e => hc e.symm, ih.1⟩, ih.2⟩

/-- Joined pieces are split into these pieces exactly when none of them holds the separator. -/
theorem splitAt_joinWith_iff (hne : pieces ≠ []) :
    splitAt separator (joinWith [separator] pieces) = pieces ↔ ∀ p ∈ pieces, separator ∉ p := by
  constructor
  · intro h p hp
    exact notMem_of_mem_splitAt p (h ▸ hp)
  · intro h
    rw [splitAt_eq_splitOn, joinWith, List.splitOn_intercalate separator h hne]

/-- Lines without the separator, each ended by it, are split into these lines and nothing after the last one. -/
theorem splitAt_flatMap (h : ∀ p ∈ pieces, separator ∉ p) :
    splitAt separator (pieces.flatMap (· ++ [separator])) = pieces ++ [[]] := by
  induction pieces with
  | nil => rfl
  | cons p pieces ih =>
    obtain ⟨hp, hpieces⟩ := List.forall_mem_cons.1 h
    rw [List.flatMap_cons, List.append_assoc, List.singleton_append, splitAt_append hp, ih hpieces, List.cons_append]

/-- Lines without the separator, each ended by it, hold it as often as there are lines. -/
theorem count_flatMap (h : ∀ p ∈ pieces, separator ∉ p) :
    (pieces.flatMap (· ++ [separator])).count separator = pieces.length := by
  induction pieces with
  | nil => rfl
  | cons p pieces ih =>
    obtain ⟨hp, hpieces⟩ := List.forall_mem_cons.1 h
    rw [List.flatMap_cons, List.count_append, List.count_append, List.count_eq_zero.2 hp, List.count_singleton_self,
      ih hpieces, List.length_cons]
    omega

end Descriptors.Text
