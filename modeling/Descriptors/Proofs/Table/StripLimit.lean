import Descriptors.Proofs.Table.Stripping
import Mathlib.Logic.Function.Iterate

/-!
# Stripping without a limit, and with it

Taking prefixes off a name is a recursion on its length: scan, and go on with what is left as long as that is another name
(`Table.stripFully`). The program goes through a loop instead, which keeps the names that it has seen and ends after a number of
strips (`Table.greatestStrips`). Of the names seen only the one at hand can come back, where an empty prefix is taken off
(`Table.LoopAt.mem_seen_iff`), so the loop is the recursion cut at that number (`Table.stripPrefixes_eq_iterate`). A name of no
more code points than that is stripped fully.
-/

namespace Descriptors.Table

variable {rows : Table} {n m rest : Text} {seen : List Text} {made : Nat}

/-! ## The recursion -/

/-- What one scan leaves of a name: the name itself where it takes nothing off. -/
def afterScan (rows : Table) (n : Text) : Text := (rows.stripOnce? n).getD n

/-- A scan that leaves another name takes an optional prefix off. -/
theorem stripOnce?_of_afterScan_ne (h : rows.afterScan n ≠ n) : rows.stripOnce? n = some (rows.afterScan n) := by
  rw [afterScan] at h ⊢
  cases hstrip : rows.stripOnce? n with
  | none => exact absurd (by rw [hstrip, Option.getD_none]) h
  | some rest => rw [Option.getD_some]

/-- A scan that leaves a text leaves the name with that text. -/
theorem afterScan_of_stripOnce? (h : rows.stripOnce? n = some rest) : rows.afterScan n = rest := by
  rw [afterScan, h, Option.getD_some]

/-- A scan that leaves another name leaves a shorter one. -/
theorem length_afterScan_lt (h : rows.afterScan n ≠ n) : (rows.afterScan n).length < n.length :=
  length_lt_of_stripOnce? (stripOnce?_of_afterScan_ne h) h

/-- A name without its optional prefixes, however many there are. -/
def stripFully (rows : Table) (n : Text) : Text :=
  if rows.afterScan n = n then n else stripFully rows (rows.afterScan n)
termination_by n.length
decreasing_by exact length_afterScan_lt ‹_›

/-- The number of strips that it takes to strip a name fully. -/
def stripCount (rows : Table) (n : Text) : Nat :=
  if rows.afterScan n = n then 0 else stripCount rows (rows.afterScan n) + 1
termination_by n.length
decreasing_by exact length_afterScan_lt ‹_›

theorem stripCount_of_eq (h : rows.afterScan n = n) : rows.stripCount n = 0 := by
  rw [stripCount, if_pos h]

theorem stripCount_of_ne (h : rows.afterScan n ≠ n) : rows.stripCount n = rows.stripCount (rows.afterScan n) + 1 := by
  rw [stripCount, if_neg h]

/-- What is stripped fully is left as it is by a scan. -/
theorem afterScan_stripFully (rows : Table) (n : Text) : rows.afterScan (rows.stripFully n) = rows.stripFully n := by
  fun_induction stripFully rows n with
  | case1 n h => exact h
  | case2 n h ih => exact ih

/-- A name that is stripped fully has been scanned as often as is counted. -/
theorem stripFully_eq_iterate (rows : Table) (n : Text) : rows.stripFully n = rows.afterScan^[rows.stripCount n] n := by
  fun_induction stripFully rows n with
  | case1 n h => rw [stripCount_of_eq h, Function.iterate_zero_apply]
  | case2 n h ih => rw [ih, stripCount_of_ne h, Function.iterate_succ_apply]

/-- Every strip takes off a code point at least. -/
theorem stripCount_le_length (rows : Table) (n : Text) : rows.stripCount n ≤ n.length := by
  fun_induction stripCount rows n with
  | case1 n h => exact Nat.zero_le _
  | case2 n h ih =>
    have hlt := length_afterScan_lt h
    omega

/-- Each of the counted strips leaves another name. -/
theorem afterScan_iterate_ne (rows : Table) (n : Text) :
    ∀ i < rows.stripCount n, rows.afterScan (rows.afterScan^[i] n) ≠ rows.afterScan^[i] n := by
  fun_induction stripCount rows n with
  | case1 n h => exact fun i hi => absurd hi (Nat.not_lt_zero i)
  | case2 n h ih =>
    intro i hi
    cases i with
    | zero => exact h
    | succ i => exact ih i (Nat.lt_of_succ_lt_succ hi)

/-- What has been taken off in some of the counted strips: as many optional prefixes of rows with names, none of them empty. -/
theorem exists_prefixes (rows : Table) (strips : Nat) : ∀ n, strips ≤ rows.stripCount n →
    ∃ prefixes : List Text, prefixes.length = strips ∧
      (∀ p ∈ prefixes, p ≠ [] ∧ ∃ r ∈ rows, r.name?.isSome ∧ r.get? Row.optionalPrefixKey = some p) ∧
      n = prefixes.flatten ++ rows.afterScan^[strips] n := by
  induction strips with
  | zero => exact fun n _ => ⟨[], rfl, by simp, rfl⟩
  | succ strips ih =>
    intro n hle
    have hne : rows.afterScan n ≠ n := afterScan_iterate_ne rows n 0 (Nat.lt_of_lt_of_le (Nat.succ_pos strips) hle)
    rw [stripCount_of_ne hne] at hle
    obtain ⟨prefixes, hlength, hprefixes, hrest⟩ := ih (rows.afterScan n) (Nat.le_of_succ_le_succ hle)
    obtain ⟨r, hr, hname, p, hp, happend⟩ := stripOnce?_eq_some (stripOnce?_of_afterScan_ne hne)
    have hfull : p ≠ [] := by
      rintro rfl
      exact hne happend
    refine ⟨p :: prefixes, by rw [List.length_cons, hlength], List.forall_mem_cons.2 ⟨⟨hfull, r, hr, hname, hp⟩, hprefixes⟩, ?_⟩
    rw [List.flatten_cons, Function.iterate_succ_apply, List.append_assoc, ← hrest, happend]

/-! ## The loop -/

/-- Where the loop can be when stripping starts from a name: how many strips have been made, the names seen, the last one first,
and the name at hand. -/
inductive LoopAt (rows : Table) (n : Text) : Nat → List Text → Text → Prop where
  | start : LoopAt rows n 0 [n] n
  | strip {made : Nat} {seen : List Text} {m rest : Text} : LoopAt rows n made seen m → made < greatestStrips →
      rows.stripOnce? m = some rest → rest ∉ seen → LoopAt rows n (made + 1) (rest :: seen) rest

/-- Wherever the loop is, going on from there gives the stripped name. -/
theorem LoopAt.stripFrom_eq (h : LoopAt rows n made seen m) :
    stripFrom rows (greatestStrips - made) seen m = rows.stripPrefixes n := by
  induction h with
  | start => rfl
  | @strip made seen m rest _ hlt hstrip hnew ih =>
    have hleft : greatestStrips - made = greatestStrips - (made + 1) + 1 := by omega
    rw [← ih, hleft, stripFrom, hstrip]
    exact (if_neg hnew).symm

/-- Wherever the loop is, all names seen but the one at hand are longer. -/
theorem LoopAt.seenLonger (h : LoopAt rows n made seen m) : SeenLonger seen m := by
  induction h with
  | start => exact .start n
  | strip _ _ hstrip hnew ih => exact ih.strip hstrip (mt (ih.mem_iff hstrip).2 hnew)

/-- What a scan leaves has been seen only if it is the name at hand, and then an empty prefix was taken off. -/
theorem LoopAt.mem_seen_iff (h : LoopAt rows n made seen m) (hstrip : rows.stripOnce? m = some rest) :
    (rest ∈ seen ↔ rest = m) ∧ (rest ∈ seen → ∃ r ∈ rows, r.name?.isSome ∧ r.get? Row.optionalPrefixKey = some []) := by
  have hiff := h.seenLonger.mem_iff hstrip
  refine ⟨hiff, fun hmem => ?_⟩
  obtain ⟨r, hr, hname, p, hp, happend⟩ := stripOnce?_eq_some hstrip
  obtain rfl : p = [] := List.append_left_eq_self.1 (happend.trans (hiff.1 hmem).symm)
  exact ⟨r, hr, hname, hp⟩

/-- The loop makes the strips of the recursion, up to the number that is left. -/
theorem stripFrom_eq_iterate (rows : Table) (strips : Nat) : ∀ n seen, SeenLonger seen n →
    stripFrom rows strips seen n = rows.afterScan^[min (rows.stripCount n) strips] n := by
  induction strips with
  | zero => exact fun n seen _ => by rw [Nat.min_zero]; rfl
  | succ strips ih =>
    intro n seen hseen
    rw [stripFrom]
    by_cases hafter : rows.afterScan n = n
    · rw [stripCount_of_eq hafter, Nat.zero_min, Function.iterate_zero_apply]
      cases hstrip : rows.stripOnce? n with
      | none => rfl
      | some rest => exact if_pos ((hseen.mem_iff hstrip).2 ((afterScan_of_stripOnce? hstrip).symm.trans hafter))
    · have hstrip := stripOnce?_of_afterScan_ne hafter
      rw [stripCount_of_ne hafter, Nat.add_min_add_right, Function.iterate_succ_apply, hstrip]
      dsimp only
      rw [if_neg (mt (hseen.mem_iff hstrip).1 hafter), ih _ _ (hseen.strip hstrip hafter)]

/-- A stripped name is what is left after as many strips as the recursion makes, but no more than the limit. -/
theorem stripPrefixes_eq_iterate (rows : Table) (n : Text) :
    rows.stripPrefixes n = rows.afterScan^[min (rows.stripCount n) greatestStrips] n :=
  stripFrom_eq_iterate rows greatestStrips n [n] (.start n)

/-- A name that takes no more strips than the limit is stripped fully. -/
theorem stripPrefixes_eq_stripFully (h : rows.stripCount n ≤ greatestStrips) : rows.stripPrefixes n = rows.stripFully n := by
  rw [stripPrefixes_eq_iterate, Nat.min_eq_left h, ← stripFully_eq_iterate]

/-- The way of a name goes on with what a scan leaves of it, as long as that is another name. -/
theorem namesFrom_succ (rows : Table) (strips : Nat) (n : Text) :
    namesFrom rows (strips + 1) n = if rows.afterScan n = n then [n] else n :: namesFrom rows strips (rows.afterScan n) := by
  rw [namesFrom, afterScan]
  cases rows.stripOnce? n <;> simp

/-- Two tables whose scans leave the same of every name let every name pass through the same names. -/
theorem successiveNames_congr {rows' : Table} (h : ∀ m, rows.afterScan m = rows'.afterScan m) (n : Text) :
    rows.successiveNames n = rows'.successiveNames n := by
  have hnames : ∀ strips n, namesFrom rows strips n = namesFrom rows' strips n := by
    intro strips
    induction strips with
    | zero => exact fun n => rfl
    | succ strips ih => exact fun n => by rw [namesFrom_succ, namesFrom_succ, h, ih]
  exact hnames greatestStrips n

/-- Two tables whose scans leave the same of every name count the same strips. -/
theorem stripCount_congr {rows' : Table} (h : ∀ m, rows.afterScan m = rows'.afterScan m) (n : Text) :
    rows.stripCount n = rows'.stripCount n := by
  fun_induction stripCount rows n with
  | case1 n hstop => rw [stripCount_of_eq ((h n).symm.trans hstop)]
  | case2 n hgoes ih =>
    rw [h] at hgoes ih
    rw [stripCount_of_ne hgoes, h, ih]

/-- Two tables whose scans leave the same of every name strip every name alike. -/
theorem stripPrefixes_congr {rows' : Table} (h : ∀ m, rows.afterScan m = rows'.afterScan m) (n : Text) :
    rows.stripPrefixes n = rows'.stripPrefixes n := by
  rw [stripPrefixes_eq_iterate, stripPrefixes_eq_iterate, stripCount_congr h, funext h]

/-- Stripping is the recursion cut at the limit. The recursion makes a number of strips, each of which leaves another name, up to
one that a scan leaves as it is; the loop makes the first of these strips, no more than the limit. Wherever the loop is, what the
next scan leaves has been seen only if it is the name at hand, from which an empty prefix was taken. What the loop takes off are
optional prefixes of rows with names, none of them empty, one for each strip. In a name that is no longer than the limit the limit
does not show: the name is stripped fully, and stripping it again takes nothing off. -/
theorem stripPrefixes_cut (rows : Table) (n : Text) :
    (rows.stripFully n = rows.afterScan^[rows.stripCount n] n ∧
      (∀ i < rows.stripCount n, rows.afterScan (rows.afterScan^[i] n) ≠ rows.afterScan^[i] n) ∧
      rows.afterScan (rows.stripFully n) = rows.stripFully n) ∧
    rows.stripPrefixes n = rows.afterScan^[min (rows.stripCount n) greatestStrips] n ∧
    (∀ made seen m, LoopAt rows n made seen m →
      stripFrom rows (greatestStrips - made) seen m = rows.stripPrefixes n ∧
      ∀ rest, rows.stripOnce? m = some rest → (rest ∈ seen ↔ rest = m) ∧
        (rest ∈ seen → ∃ r ∈ rows, r.name?.isSome ∧ r.get? Row.optionalPrefixKey = some [])) ∧
    (∃ prefixes : List Text, prefixes.length = min (rows.stripCount n) greatestStrips ∧
      (∀ p ∈ prefixes, p ≠ [] ∧ ∃ r ∈ rows, r.name?.isSome ∧ r.get? Row.optionalPrefixKey = some p) ∧
      n = prefixes.flatten ++ rows.stripPrefixes n) ∧
    (n.length ≤ greatestStrips →
      rows.stripPrefixes n = rows.stripFully n ∧ rows.stripPrefixes (rows.stripPrefixes n) = rows.stripPrefixes n) := by
  refine ⟨⟨stripFully_eq_iterate rows n, afterScan_iterate_ne rows n, afterScan_stripFully rows n⟩,
    stripPrefixes_eq_iterate rows n, fun made seen m hloop => ⟨hloop.stripFrom_eq, fun rest hstrip => hloop.mem_seen_iff hstrip⟩,
    ?_, fun hlength => ?_⟩
  · rw [stripPrefixes_eq_iterate]
    exact exists_prefixes rows _ n (Nat.min_le_left _ _)
  · have hcut : rows.stripPrefixes n = rows.stripFully n :=
      stripPrefixes_eq_stripFully (Nat.le_trans (stripCount_le_length rows n) hlength)
    have hcount : rows.stripCount (rows.stripFully n) = 0 := stripCount_of_eq (afterScan_stripFully rows n)
    refine ⟨hcut, ?_⟩
    rw [hcut, stripPrefixes_eq_iterate, hcount, Nat.zero_min, Function.iterate_zero_apply]

/-- A table with one optional prefix, of one letter. -/
def repeating : Table := [OrderedMap.ofPairs [(Row.nameKey, "x"), (Row.optionalPrefixKey, "a")]]

/-- The limit shows in a name of one more code point. -/
example : repeating.stripPrefixes (List.replicate 64 0x61) = [] ∧ repeating.stripPrefixes (List.replicate 65 0x61) = [0x61] := by
  decide

end Descriptors.Table
