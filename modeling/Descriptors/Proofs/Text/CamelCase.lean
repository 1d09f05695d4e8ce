import Descriptors.Proofs.Text.Pieces
import Descriptors.Text.Case
import Mathlib.Data.List.Basic

/-!
# Camel case, segment by segment

Dashes divide a name into segments, of which some may be empty. The scan that makes camel case of a name carries one bit, which
says that a dash has just been passed; whichever it is, the scan gives the segments one after the other, the later ones
capitalised (`Text.camelCaseFrom_eq`).

Every dash of a name goes, and no capital form brings one in: a capital form beyond ASCII lies above ASCII or is a letter,
which the tables show run by run (`CaseRun.lt_apply`). So `Text.camelCase` gives names without a dash
(`Text.dash_notMem_camelCase`), and these it leaves as they are.
-/

namespace Descriptors

/-- A code point above a bound is mapped above it, when every run of the table maps its first code point above it. -/
theorem CaseRun.lt_apply {bound c : Nat} {table : List CaseRun} (htable : ∀ r ∈ table, (bound : Int) < r.first + r.shift)
    (hc : bound < c) : bound < CaseRun.apply table c := by
  unfold CaseRun.apply
  split
  · next r hr =>
    have hshift := htable r (List.mem_of_find?_eq_some hr)
    have hcovers := List.find?_some hr
    simp only [covers, Bool.and_eq_true, decide_eq_true_eq] at hcovers
    have hfirst : (r.first : Int) ≤ c := Int.ofNat_le.2 hcovers.1.1
    exact Int.lt_toNat.2 (by omega)
  · exact hc

namespace CodePoint

/-- No capital form of several code points holds a dash. -/
theorem dash_notMem_longCapitals : ∀ e ∈ CaseRun.longCapitals, dash ∉ e.2 := by
  decide +kernel

/-- No run of capital letters reaches down to the dash. -/
theorem dash_lt_toCapital : ∀ r ∈ CaseRun.toCapital, ((dash : Nat) : Int) < r.first + r.shift := by
  decide +kernel

/-- The capital form of a code point other than a dash holds no dash. -/
theorem dash_notMem_upper {c : CodePoint} (h : c ≠ dash) : dash ∉ c.upper := by
  unfold upper
  split
  · rw [List.mem_singleton]
    split
    · next hletter =>
      simp only [Bool.and_eq_true, decide_eq_true_eq] at hletter
      have hcapital : dash < c - 0x20 := Nat.lt_of_lt_of_le (by decide) (Nat.sub_le_sub_right hletter.1 0x20)
      exact Nat.ne_of_lt hcapital
    · exact h.symm
  · next hbeyond =>
    cases hlong : CaseRun.longCapitals.lookup c with
    | none =>
      rw [Option.getD_none, List.mem_singleton]
      have hdash : dash < c := Nat.lt_of_lt_of_le (by decide) (Nat.le_of_not_lt hbeyond)
      exact Nat.ne_of_lt (CaseRun.lt_apply dash_lt_toCapital hdash)
    | some t =>
      obtain ⟨before, after, heq, _⟩ := List.lookup_eq_some_iff.1 hlong
      have hmem : (c, t) ∈ CaseRun.longCapitals := by simp [heq]
      exact dash_notMem_longCapitals _ hmem

end CodePoint

namespace Text

/-- What is left of a name in camel case holds no dash, whether or not the next code point is capitalised. -/
theorem dash_notMem_camelCaseFrom (t : Text) : ∀ capitalise, CodePoint.dash ∉ camelCaseFrom capitalise t := by
  induction t with
  | nil => intro capitalise; exact List.not_mem_nil
  | cons c rest ih =>
    intro capitalise
    unfold camelCaseFrom
    split
    · exact ih true
    · next hc =>
      rw [List.mem_append, not_or]
      refine ⟨?_, ih false⟩
      cases capitalise with
      | true => exact CodePoint.dash_notMem_upper hc
      | false => exact fun h => hc (List.mem_singleton.1 h).symm

/-- A name in camel case holds no dash. -/
theorem dash_notMem_camelCase (t : Text) : CodePoint.dash ∉ camelCase t :=
  dash_notMem_camelCaseFrom t false

/-! ## Segments -/

/-- A segment with its first code point in its capital form. An empty segment stays empty. -/
def capitalised : Text → Text
  | [] => []
  | c :: rest => c.upper ++ rest

/-- What is left of a name is put in camel case segment by segment: the first segment is capitalised when a dash has just been
passed, the others always. -/
theorem camelCaseFrom_eq (t : Text) : ∀ capitalise, ∃ first rest, splitAt CodePoint.dash t = first :: rest ∧
    camelCaseFrom capitalise t = (if capitalise then capitalised first else first) ++ rest.flatMap capitalised := by
  induction t with
  | nil =>
    intro capitalise
    exact ⟨[], [], rfl, by cases capitalise <;> rfl⟩
  | cons c t ih =>
    intro capitalise
    by_cases hc : c = CodePoint.dash
    · -- the segment in front of the dash is empty, and so is its capital form
      obtain ⟨first, rest, hsplit, hcamel⟩ := ih true
      refine ⟨[], first :: rest, by rw [splitAt, if_pos hc, hsplit], ?_⟩
      rw [camelCaseFrom, if_pos hc, hcamel, List.flatMap_cons]
      cases capitalise <;> rfl
    · obtain ⟨first, rest, hsplit, hcamel⟩ := ih false
      refine ⟨c :: first, rest, by rw [splitAt, if_neg hc, hsplit], ?_⟩
      rw [camelCaseFrom, if_neg hc, hcamel]
      cases capitalise <;> simp [capitalised]

/-- A name without a dash stays as it is. -/
theorem camelCase_of_notMem {t : Text} (h : CodePoint.dash ∉ t) : camelCase t = t := by
  obtain ⟨first, rest, hsplit, hcamel⟩ := camelCaseFrom_eq t false
  rw [splitAt_of_notMem h] at hsplit
  obtain ⟨rfl, rfl⟩ := List.cons.inj hsplit
  rw [camelCase, hcamel]
  simp

/-- Camel case in terms of segments. Every name is divided at its dashes into segments that hold none, and its camel case is the
first segment followed by the others, each with its first code point in its capital form; an empty one adds nothing. So a name
in camel case holds no dash and stays as it is when it is put in camel case again, and exactly the names without a dash stay as
they are. -/
theorem camelCase_segments (t : Text) :
    (∃ first rest, splitAt CodePoint.dash t = first :: rest ∧ CodePoint.dash ∉ (first :: rest).flatten ∧
      joinWith [CodePoint.dash] (first :: rest) = t ∧ camelCase t = first ++ rest.flatMap capitalised) ∧
    CodePoint.dash ∉ camelCase t ∧ camelCase (camelCase t) = camelCase t ∧ (camelCase t = t ↔ CodePoint.dash ∉ t) := by
  have hdash := dash_notMem_camelCase t
  refine ⟨?_, hdash, camelCase_of_notMem hdash, fun h => h ▸ hdash, camelCase_of_notMem⟩
  obtain ⟨first, rest, hsplit, hcamel⟩ := camelCaseFrom_eq t false
  refine ⟨first, rest, hsplit, ?_, hsplit ▸ joinWith_splitAt CodePoint.dash t, hcamel⟩
  rw [← hsplit, List.mem_flatten]
  rintro ⟨segment, hsegment, hmem⟩
  exact notMem_of_mem_splitAt segment hsegment hmem

/-- A dash in front, two dashes in a row and one at the end, and a capital form of two code points. -/
example : camelCase "-stream--\u00DFe-" = Text.ofString "StreamSSe" := by
  decide +kernel

end Text

end Descriptors
