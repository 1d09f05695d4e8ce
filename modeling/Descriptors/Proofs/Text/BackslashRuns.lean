import Descriptors.Proofs.Text.ControlEscape
import Mathlib.Algebra.Ring.Parity

/-!
# Runs of backslashes

How the escape reads depends on the backslashes directly in front of each r, n and t, all of them: `Text.HasRun`, which
`Text.controlRuns` counts in one pass. The escape lengthens each such run by one backslash and leaves everything else
(`Text.controlRuns_escapeControls`). So the escaped texts are those in which no run is a single backslash
(`Text.escapeControls_encoding`).

A reader for whom two backslashes are one comes to a written control where a run is odd. The escape takes the written controls
away, but makes new ones: a run of two backslashes, which is read as one backslash and a letter, becomes a run of three, which
is read as a backslash and a control (`Text.showsControl_escapeControls_iff`).
-/

namespace Descriptors.Text

variable {s t : Text} {c : CodePoint} {j k : Nat}

/-- The number of backslashes that a text ends with. -/
def backslashesAtEnd (t : Text) : Nat := (t.reverse.takeWhile (· == CodePoint.backslash)).length

/-- Somewhere in a text r, n or t stands directly behind this many backslashes, and no more. -/
def HasRun (t : Text) (k : Nat) : Prop :=
  ∃ before c after, t = before ++ c :: after ∧ isControlLetter c = true ∧ backslashesAtEnd before = k

/-- The numbers of backslashes directly in front of each r, n and t, where a number of them has been passed. -/
def runsAfter : Nat → Text → List Nat
  | _, [] => []
  | k, c :: rest =>
    if c = CodePoint.backslash then runsAfter (k + 1) rest
    else if isControlLetter c then k :: runsAfter 0 rest
    else runsAfter 0 rest

/-- The numbers of backslashes directly in front of each r, n and t of a text, in order. -/
def controlRuns (t : Text) : List Nat := runsAfter 0 t

/-- Whether a reader from left to right, for whom two backslashes are one, comes to a backslash in front of r, n or t. -/
def showsControl : Text → Bool
  | CodePoint.backslash :: CodePoint.backslash :: rest => showsControl rest
  | CodePoint.backslash :: c :: rest => isControlLetter c || showsControl rest
  | _ :: rest => showsControl rest
  | [] => false

/-! ## Counting runs -/

theorem runsAfter_backslash (k : Nat) (t : Text) : runsAfter k (CodePoint.backslash :: t) = runsAfter (k + 1) t := rfl

theorem runsAfter_letter (h : isControlLetter c = true) (k : Nat) (t : Text) : runsAfter k (c :: t) = k :: runsAfter 0 t := by
  rw [runsAfter, if_neg (ne_backslash_of_isControlLetter h), if_pos h]

theorem runsAfter_other (hc : c ≠ CodePoint.backslash) (h : isControlLetter c = false) (k : Nat) (t : Text) :
    runsAfter k (c :: t) = runsAfter 0 t := by
  rw [runsAfter, if_neg hc, h, if_neg Bool.false_ne_true]

theorem backslashesAtEnd_replicate (k : Nat) : backslashesAtEnd (List.replicate k CodePoint.backslash) = k := by
  simp [backslashesAtEnd]

/-- At the end of a text only what stands behind its last other code point counts. -/
theorem backslashesAtEnd_append_cons (hc : c ≠ CodePoint.backslash) (s t : Text) :
    backslashesAtEnd (s ++ c :: t) = backslashesAtEnd t := by
  have hstop : (c :: s.reverse).takeWhile (· == CodePoint.backslash) = [] := by simp [hc]
  have hreverse : (s ++ c :: t).reverse = t.reverse ++ c :: s.reverse := by simp
  rw [backslashesAtEnd, backslashesAtEnd, hreverse, List.takeWhile_append, hstop, List.append_nil]
  split
  · next hall => exact hall.symm
  · rfl

/-- As `HasRun` says of a text, counted together with what stands in front of the text. -/
def HasRunBehind (front t : Text) (k : Nat) : Prop :=
  ∃ before c after, t = before ++ c :: after ∧ isControlLetter c = true ∧ backslashesAtEnd (front ++ before) = k

/-- A letter is the first code point of a text, or stands behind it. -/
theorem hasRunBehind_cons_iff {front : Text} :
    HasRunBehind front (c :: t) k ↔ (isControlLetter c = true ∧ backslashesAtEnd front = k) ∨ HasRunBehind (front ++ [c]) t k := by
  simp only [HasRunBehind, List.append_assoc, List.singleton_append]
  constructor
  · rintro ⟨before, letter, after, heq, hletter, hk⟩
    cases before with
    | nil =>
      obtain ⟨rfl, rfl⟩ := List.cons.inj heq
      rw [List.append_nil] at hk
      exact Or.inl ⟨hletter, hk⟩
    | cons b before =>
      obtain ⟨rfl, rfl⟩ := List.cons.inj heq
      exact Or.inr ⟨before, letter, after, rfl, hletter, hk⟩
  · rintro (⟨hc, hk⟩ | ⟨before, letter, after, rfl, hletter, hk⟩)
    · exact ⟨[], c, t, rfl, hc, by rw [List.append_nil, hk]⟩
    · exact ⟨c :: before, letter, after, rfl, hletter, hk⟩

/-- No run goes on from what stands in front of another code point than a backslash. -/
theorem hasRunBehind_append_singleton_iff (hc : c ≠ CodePoint.backslash) (front : Text) :
    HasRunBehind (front ++ [c]) t k ↔ HasRunBehind [] t k := by
  simp only [HasRunBehind, List.append_assoc, List.singleton_append, backslashesAtEnd_append_cons hc, List.nil_append]

/-- What is counted once some backslashes have been passed are the runs of the text behind as many. -/
theorem mem_runsAfter_iff : j ∈ runsAfter k t ↔ HasRunBehind (List.replicate k CodePoint.backslash) t j := by
  induction t generalizing k with
  | nil => simp [runsAfter, HasRunBehind]
  | cons c t ih =>
    rw [hasRunBehind_cons_iff, backslashesAtEnd_replicate]
    by_cases hc : c = CodePoint.backslash
    · subst hc
      have hnot : isControlLetter CodePoint.backslash = false := rfl
      simp [runsAfter_backslash, ih, hnot, List.replicate_succ']
    · rw [hasRunBehind_append_singleton_iff hc, ← List.replicate_zero, ← ih]
      cases hletter : isControlLetter c with
      | true => simp [runsAfter_letter hletter, eq_comm]
      | false => simp [runsAfter_other hc hletter]

/-- Every run of a text is counted, and nothing else is. -/
theorem mem_controlRuns_iff : k ∈ controlRuns t ↔ HasRun t k := mem_runsAfter_iff

/-! ## What the escape does to runs -/

/-- How long a run is after the escape: one backslash longer, but none stays none. -/
def escapedRun (k : Nat) : Nat := if k = 0 then 0 else k + 1

/-- The escape lengthens the runs from a place on. The backslashes passed before it must not be those in front of a letter, which
the escape has lengthened already. -/
theorem runsAfter_escapeControls (h : k = 0 ∨ t.head?.any isControlLetter = false) :
    runsAfter k (escapeControls t) = (runsAfter k t).map escapedRun := by
  induction t generalizing k with
  | nil => rfl
  | cons c t ih =>
    by_cases hc : c = CodePoint.backslash
    · subst hc
      cases hfirst : t.head?.any isControlLetter with
      | true =>
        obtain ⟨letter, t, rfl, hletter⟩ := exists_eq_cons_of_head? hfirst
        have hrest := @ih 0 (Or.inl rfl)
        rw [escapeControls_cons (ne_backslash_of_isControlLetter hletter), runsAfter_letter hletter, runsAfter_letter hletter,
          List.map_cons, List.cons.injEq] at hrest
        rw [escapeControls_backslash hletter, runsAfter_backslash, runsAfter_backslash, runsAfter_backslash,
          runsAfter_letter hletter, runsAfter_letter hletter, hrest.2]
        rfl
      | false => rw [escapeControls_backslash_of_not hfirst, runsAfter_backslash, runsAfter_backslash, ih (Or.inr hfirst)]
    · rw [escapeControls_cons hc]
      cases hletter : isControlLetter c with
      | true =>
        obtain rfl : k = 0 := by simpa [hletter] using h
        rw [runsAfter_letter hletter, runsAfter_letter hletter, ih (Or.inl rfl)]
        rfl
      | false => rw [runsAfter_other hc hletter, runsAfter_other hc hletter, ih (Or.inl rfl)]

/-- The runs of an escaped text are those of the text, one by one, each with one backslash more where there is one. -/
theorem controlRuns_escapeControls (t : Text) : controlRuns (escapeControls t) = (controlRuns t).map escapedRun :=
  runsAfter_escapeControls (Or.inl rfl)

theorem hasRun_escapeControls_iff : HasRun (escapeControls t) k ↔ ∃ j, HasRun t j ∧ k = escapedRun j := by
  simp only [← mem_controlRuns_iff, controlRuns_escapeControls, List.mem_map, eq_comm]

/-! ## The escaped texts -/

/-- Whether some run is a single backslash does not depend on how many backslashes have been passed, once these are two. -/
theorem one_mem_runsAfter (hj : 2 ≤ j) (hk : 2 ≤ k) (h : 1 ∈ runsAfter j t) : 1 ∈ runsAfter k t := by
  induction t generalizing j k with
  | nil => exact h
  | cons c t ih =>
    by_cases hc : c = CodePoint.backslash
    · subst hc
      exact ih (Nat.le_succ_of_le hj) (Nat.le_succ_of_le hk) h
    · cases hletter : isControlLetter c with
      | true =>
        rw [runsAfter_letter hletter, List.mem_cons] at h ⊢
        exact Or.inr (h.resolve_left (by omega))
      | false => rwa [runsAfter_other hc hletter] at h ⊢

/-- Behind a code point other than a backslash the runs of the rest are counted. -/
theorem notMem_runsAfter_of_cons (hc : c ≠ CodePoint.backslash) (h : j ∉ runsAfter k (c :: t)) : j ∉ runsAfter 0 t := by
  cases hletter : isControlLetter c with
  | true =>
    rw [runsAfter_letter hletter] at h
    exact fun hj => h (List.mem_cons_of_mem k hj)
  | false => rwa [runsAfter_other hc hletter] at h

/-- Taking the escape back leaves the first code point. -/
theorem head?_unescapeControls (t : Text) : (unescapeControls t).head? = t.head? := by
  unfold unescapeControls
  split
  · split <;> rfl
  · rfl
  · rfl

/-- A text in which no run is a single backslash is what the escape makes of another. -/
theorem escapeControls_unescapeControls (h : 1 ∉ controlRuns t) : escapeControls (unescapeControls t) = t := by
  rw [controlRuns] at h
  fun_induction unescapeControls t with
  | case1 letter rest hletter ih =>
    rw [runsAfter_backslash, runsAfter_backslash] at h
    rw [escapeControls_backslash hletter, ih (notMem_runsAfter_of_cons (ne_backslash_of_isControlLetter hletter) h)]
  | case2 c rest hletter ih =>
    have hhead : (unescapeControls (CodePoint.backslash :: c :: rest)).head?.any isControlLetter = false := by
      rw [head?_unescapeControls]
      rfl
    rw [escapeControls_backslash_of_not hhead, ih]
    rw [runsAfter_backslash, runsAfter_backslash] at h
    rw [runsAfter_backslash]
    by_cases hc : c = CodePoint.backslash
    · -- the run goes on, and without the first of its backslashes it has two at least
      subst hc
      rw [runsAfter_backslash] at h ⊢
      exact mt (one_mem_runsAfter (Nat.le_refl 2) (Nat.le_succ 2)) h
    · rwa [runsAfter_other hc (eq_false_of_ne_true hletter)] at h ⊢
  | case3 c rest hnot ih =>
    by_cases hc : c = CodePoint.backslash
    · subst hc
      rw [runsAfter_backslash] at h
      cases rest with
      | nil => rfl
      | cons d rest =>
        have hletter : isControlLetter d = false := by
          by_contra hletter
          rw [runsAfter_letter (eq_true_of_ne_false hletter)] at h
          exact h List.mem_cons_self
        have hhead : (unescapeControls (d :: rest)).head?.any isControlLetter = false := by
          rw [head?_unescapeControls]
          exact hletter
        rw [escapeControls_backslash_of_not hhead, ih]
        by_cases hd : d = CodePoint.backslash
        · -- two backslashes that nothing follows
          subst hd
          cases rest with
          | nil => exact List.not_mem_nil
          | cons e rest => exact (hnot e rest rfl rfl).elim
        · rwa [runsAfter_other hd hletter] at h ⊢
    · rw [escapeControls_cons hc, ih (notMem_runsAfter_of_cons hc h)]
  | case4 => rfl

/-- The escaped texts are those in which no run is a single backslash. -/
theorem exists_escapeControls_eq_iff : (∃ s, escapeControls s = t) ↔ ∀ k, HasRun t k → k ≠ 0 → 2 ≤ k := by
  constructor
  · rintro ⟨s, rfl⟩ k hk hne
    obtain ⟨j, -, rfl⟩ := hasRun_escapeControls_iff.1 hk
    by_cases hj : j = 0
    · rw [escapedRun, if_pos hj] at hne
      exact absurd rfl hne
    · rw [escapedRun, if_neg hj]
      omega
  · intro h
    have hone : 1 ∉ controlRuns t := by
      intro hone
      have htwo := h 1 (mem_controlRuns_iff.1 hone) Nat.one_ne_zero
      omega
    exact ⟨unescapeControls t, escapeControls_unescapeControls hone⟩

/-- The escape is an injective encoding in one pass. Its three replacements double each backslash in front of r, n and t in one
pass from left to right, in whatever order they are made. No two texts are escaped alike; the escape is taken back where each two
backslashes in front of one of the letters become one; and the escaped texts are those in which each run of backslashes in front
of one of the letters has two of them or more. -/
theorem escapeControls_encoding :
    (∀ letters : List CodePoint, letters.Perm [CodePoint.letterR, CodePoint.letterN, CodePoint.letterT] →
      ∀ t, letters.foldl (fun t letter => doubleBackslashBefore letter t) t = doubleBackslashes isControlLetter t) ∧
    (∀ t, escapeControls t = doubleBackslashes isControlLetter t) ∧ Function.Injective escapeControls ∧
    (∀ t, unescapeControls (escapeControls t) = t) ∧
    ∀ t, (∃ s, escapeControls s = t) ↔ ∀ k, HasRun t k → k ≠ 0 → 2 ≤ k :=
  ⟨fun _ h t => foldl_doubleBackslashBefore_perm h t, escapeControls_eq, escapeControls_injective,
    unescapeControls_escapeControls, fun _ => exists_escapeControls_eq_iff⟩

/-! ## Reading from left to right -/

/-- A reader who has passed an even number of backslashes comes to one in front of a letter exactly where a run is odd. -/
theorem showsControl_iff_runsAfter (hk : Even k) : showsControl t = true ↔ ∃ j ∈ runsAfter k t, Odd j := by
  fun_induction showsControl t generalizing k with
  | case1 rest ih => rw [runsAfter_backslash, runsAfter_backslash, ih hk.add_one.add_one]
  | case2 c rest hnot ih =>
    have hc : c ≠ CodePoint.backslash := by
      rintro rfl
      exact hnot rfl
    rw [runsAfter_backslash]
    cases hletter : isControlLetter c with
    | true => simp [runsAfter_letter hletter, hk.add_one]
    | false => simp [runsAfter_other hc hletter, ih Even.zero]
  | case3 c rest hnot hnot' ih =>
    by_cases hc : c = CodePoint.backslash
    · -- a last backslash stands in front of nothing
      subst hc
      cases rest with
      | nil => simp [showsControl, runsAfter]
      | cons d rest => exact (hnot' d rest rfl rfl).elim
    · cases hletter : isControlLetter c with
      | true => simp [runsAfter_letter hletter, ih Even.zero, Nat.not_odd_iff_even.2 hk]
      | false => rw [runsAfter_other hc hletter, ih Even.zero]
  | case4 => simp [runsAfter]

/-- A written control is read where a run is odd. -/
theorem showsControl_iff : showsControl t = true ↔ ∃ k, HasRun t k ∧ Odd k := by
  simp only [showsControl_iff_runsAfter Even.zero, ← mem_controlRuns_iff, controlRuns]

/-- A run is odd after the escape where it was even and not empty before. -/
theorem odd_escapedRun_iff : Odd (escapedRun k) ↔ k ≠ 0 ∧ Even k := by
  by_cases hk : k = 0
  · simp [escapedRun, hk]
  · simp [escapedRun, hk, Nat.odd_add_one, Nat.not_odd_iff_even]

/-- No run is odd after the escape where each was odd before, or empty. -/
theorem forall_not_odd_iff :
    (∀ k, HasRun (escapeControls t) k → ¬ Odd k) ↔ ∀ k, HasRun t k → k ≠ 0 → Odd k := by
  constructor
  · intro h k hk hne
    by_contra hodd
    have hescaped := hasRun_escapeControls_iff.2 ⟨k, hk, rfl⟩
    exact h (escapedRun k) hescaped (odd_escapedRun_iff.2 ⟨hne, Nat.not_odd_iff_even.1 hodd⟩)
  · intro h k hk hodd
    obtain ⟨j, hj, rfl⟩ := hasRun_escapeControls_iff.1 hk
    obtain ⟨hne, heven⟩ := odd_escapedRun_iff.1 hodd
    exact Nat.not_odd_iff_even.2 heven (h j hj hne)

/-- Where an escaped text shows no written control. The numbers of backslashes in front of its letters r, n and t are those of the
text, each of them but zero greater by one. So none of them is odd, and a reader for whom two backslashes are one comes to no
backslash in front of such a letter, exactly when in the text each of these letters stands behind an odd number of backslashes or
behind none. -/
theorem showsControl_escapeControls_iff (t : Text) :
    (∀ k, HasRun (escapeControls t) k ↔ ∃ j, HasRun t j ∧ k = if j = 0 then 0 else j + 1) ∧
    ((∀ k, HasRun (escapeControls t) k → ¬ Odd k) ↔ ∀ k, HasRun t k → k ≠ 0 → Odd k) ∧
    (showsControl (escapeControls t) = false ↔ ∀ k, HasRun t k → k ≠ 0 → Odd k) := by
  refine ⟨fun k => hasRun_escapeControls_iff, forall_not_odd_iff, ?_⟩
  rw [← forall_not_odd_iff, ← Bool.not_eq_true, showsControl_iff]
  simp only [not_exists, not_and]

/-- Escaped texts may show written controls, and have odd runs: two backslashes and n, in which nothing is written, become three
backslashes and n. -/
theorem showsControl_escapeControls_false :
    (¬ ∀ t k, HasRun (escapeControls t) k → ¬ Odd k) ∧ ¬ ∀ t, showsControl (escapeControls t) = false := by
  constructor
  · intro h
    have hrun : HasRun (escapeControls "\\\\n") 3 := mem_controlRuns_iff.1 (by decide)
    exact h "\\\\n" 3 hrun (by decide)
  · intro h
    have hshown := h "\\\\n"
    revert hshown
    decide

end Descriptors.Text
