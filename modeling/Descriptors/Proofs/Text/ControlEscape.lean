import Descriptors.Proofs.Text.Pieces
import Descriptors.Text
import Mathlib.Data.List.Induction

/-!
# Escaped controls

The three replacements are one pass over the text, which doubles a backslash exactly where r, n or t follows it
(`Text.escapeControls_eq`): what one of them writes is never taken up by another, so that their order does not matter
(`Text.foldl_doubleBackslashBefore`). So the escape goes through a text piece by piece, as far as no piece starts with one of
these letters (`Text.escapeControls_append`), and keeps the code points that a text has. One pass the other way takes it back
(`Text.unescapeControls_escapeControls`), so it loses nothing (`Text.escapeControls_injective`).
-/

namespace Descriptors.Text

variable {s t : Text} {c letter : CodePoint} {isLetter isLetter' : CodePoint → Bool}

/-- A letter that a backslash in front of it makes a written control: r, n or t. -/
def isControlLetter (c : CodePoint) : Bool := c == CodePoint.letterT || (c == CodePoint.letterN || c == CodePoint.letterR)

/-- The text with each backslash doubled that a letter of some kind follows, in one pass. -/
def doubleBackslashes (isLetter : CodePoint → Bool) : Text → Text
  | [] => []
  | c :: rest =>
    if c = CodePoint.backslash ∧ rest.head?.any isLetter then c :: c :: doubleBackslashes isLetter rest
    else c :: doubleBackslashes isLetter rest

/-- The text with one backslash in place of two wherever r, n or t follows them. -/
def unescapeControls : Text → Text
  | CodePoint.backslash :: CodePoint.backslash :: c :: rest =>
    if isControlLetter c then CodePoint.backslash :: c :: unescapeControls rest
    else CodePoint.backslash :: unescapeControls (CodePoint.backslash :: c :: rest)
  | c :: rest => c :: unescapeControls rest
  | [] => []

/-! ## The letters -/

theorem ne_backslash_of_isControlLetter (h : isControlLetter c = true) : c ≠ CodePoint.backslash := by
  rintro rfl
  cases h

/-- A text that starts with one of the letters, taken apart. -/
theorem exists_eq_cons_of_head? (h : t.head?.any isControlLetter = true) :
    ∃ letter rest, t = letter :: rest ∧ isControlLetter letter = true := by
  obtain ⟨letter, hhead, hletter⟩ := (Option.any_eq_true _ _).1 h
  obtain ⟨rest, rfl⟩ := List.head?_eq_some_iff.1 hhead
  exact ⟨letter, rest, rfl, hletter⟩

/-! ## One pass -/

/-- A backslash in front of such a letter is doubled. -/
theorem doubleBackslashes_pos (h : t.head?.any isLetter = true) :
    doubleBackslashes isLetter (CodePoint.backslash :: t) =
      CodePoint.backslash :: CodePoint.backslash :: doubleBackslashes isLetter t := by
  rw [doubleBackslashes, if_pos ⟨rfl, h⟩]

/-- Every other code point stays as it is. -/
theorem doubleBackslashes_neg (h : c = CodePoint.backslash → t.head?.any isLetter = false) :
    doubleBackslashes isLetter (c :: t) = c :: doubleBackslashes isLetter t := by
  rw [doubleBackslashes, if_neg]
  rintro ⟨hc, hletter⟩
  rw [h hc] at hletter
  cases hletter

/-- Doubling leaves the first code point. -/
theorem head?_doubleBackslashes (isLetter : CodePoint → Bool) (t : Text) : (doubleBackslashes isLetter t).head? = t.head? := by
  cases t with
  | nil => rfl
  | cons c rest =>
    rw [doubleBackslashes]
    split <;> rfl

/-- Doubling before one letter, from left to right, is one pass. -/
theorem doubleBackslashBefore_eq (h : letter ≠ CodePoint.backslash) (t : Text) :
    doubleBackslashBefore letter t = doubleBackslashes (· == letter) t := by
  fun_induction doubleBackslashBefore letter t with
  | case1 rest ih =>
    rw [ih, doubleBackslashes_pos (by simp), doubleBackslashes_neg fun e => absurd e h]
  | case2 c rest hc ih =>
    rw [ih]
    exact (doubleBackslashes_neg fun _ => by simp [hc]).symm
  | case3 c rest hnot ih =>
    rw [ih, doubleBackslashes_neg]
    rintro rfl
    cases rest with
    | nil => rfl
    | cons c' rest => exact absurd rfl (hnot c' rest rfl)
  | case4 => rfl

/-- Two passes for different kinds of letters are one pass for both. -/
theorem doubleBackslashes_doubleBackslashes (hbackslash : isLetter CodePoint.backslash = false)
    (hdisjoint : ∀ c, isLetter' c = true → isLetter c = false) (t : Text) :
    doubleBackslashes isLetter (doubleBackslashes isLetter' t) = doubleBackslashes (fun c => isLetter c || isLetter' c) t := by
  induction t with
  | nil => rfl
  | cons c rest ih =>
    have heither : (rest.head?.any fun c => isLetter c || isLetter' c) =
        (rest.head?.any isLetter || rest.head?.any isLetter') := by
      cases rest.head? <;> rfl
    have hone : rest.head?.any isLetter' = true → rest.head?.any isLetter = false := by
      cases rest.head? with
      | none => exact fun _ => rfl
      | some d => exact hdisjoint d
    by_cases hc : c = CodePoint.backslash
    · subst hc
      cases hfirst : rest.head?.any isLetter' with
      | true =>
        -- neither of the two backslashes is doubled again
        have hback : (CodePoint.backslash :: doubleBackslashes isLetter' rest).head?.any isLetter = false := hbackslash
        rw [doubleBackslashes_pos hfirst, doubleBackslashes_neg fun _ => hback,
          doubleBackslashes_neg fun _ => by rw [head?_doubleBackslashes, hone hfirst],
          doubleBackslashes_pos (by rw [heither, hfirst, Bool.or_true]), ih]
      | false =>
        rw [doubleBackslashes_neg fun _ => hfirst]
        cases hsecond : rest.head?.any isLetter with
        | true =>
          rw [doubleBackslashes_pos (by rw [head?_doubleBackslashes, hsecond]),
            doubleBackslashes_pos (by rw [heither, hsecond, Bool.true_or]), ih]
        | false =>
          rw [doubleBackslashes_neg fun _ => by rw [head?_doubleBackslashes, hsecond],
            doubleBackslashes_neg fun _ => by rw [heither, hfirst, hsecond, Bool.or_false], ih]
    · rw [doubleBackslashes_neg fun e => absurd e hc, doubleBackslashes_neg fun e => absurd e hc,
        doubleBackslashes_neg fun e => absurd e hc, ih]

/-- Doubling before no letter leaves a text as it is. -/
theorem doubleBackslashes_none (t : Text) : doubleBackslashes (fun _ => false) t = t := by
  induction t with
  | nil => rfl
  | cons c rest ih =>
    have hnone : (rest.head?.any fun _ => false) = false := by cases rest <;> rfl
    rw [doubleBackslashes_neg fun _ => hnone, ih]

/-- Replacements for several letters, one after the other and in any order, are one pass for all of them. -/
theorem foldl_doubleBackslashBefore {letters : List CodePoint} (hdistinct : letters.Nodup)
    (hbackslash : CodePoint.backslash ∉ letters) (t : Text) :
    letters.foldl (fun t letter => doubleBackslashBefore letter t) t = doubleBackslashes letters.contains t := by
  -- along the replacements, each of which passes over what those before it have written
  induction letters using List.reverseRecOn with
  | nil => exact (doubleBackslashes_none t).symm
  | append_singleton letters letter ih =>
    rw [List.nodup_append] at hdistinct
    rw [List.mem_append, not_or, List.mem_singleton] at hbackslash
    have hother : ∀ c, letters.contains c = true → (c == letter) = false := fun c hc =>
      beq_eq_false_iff_ne.2 (hdistinct.2.2 c (List.contains_iff_mem.1 hc) letter List.mem_cons_self)
    have hpass : doubleBackslashes (· == letter) (doubleBackslashes letters.contains t) =
        doubleBackslashes (fun c => c == letter || letters.contains c) t := by
      refine doubleBackslashes_doubleBackslashes ?_ hother t
      exact beq_eq_false_iff_ne.2 hbackslash.2
    have heither : (letters ++ [letter]).contains = fun c => c == letter || letters.contains c := by
      funext c
      rw [List.contains_append, Bool.or_comm, List.contains_cons, List.contains_nil, Bool.or_false]
    rw [List.foldl_append, List.foldl_cons, List.foldl_nil, ih hdistinct.1 hbackslash.1,
      doubleBackslashBefore_eq (Ne.symm hbackslash.2), hpass, heither]

/-- The escape's three replacements in any order. -/
theorem foldl_doubleBackslashBefore_perm {letters : List CodePoint}
    (h : letters.Perm [CodePoint.letterR, CodePoint.letterN, CodePoint.letterT]) (t : Text) :
    letters.foldl (fun t letter => doubleBackslashBefore letter t) t = doubleBackslashes isControlLetter t := by
  have hletters : letters.contains = isControlLetter := by
    funext c
    have hmem : c ∈ letters ↔ isControlLetter c = true := by
      rw [h.mem_iff]
      simp only [isControlLetter, Bool.or_eq_true, beq_iff_eq, List.mem_cons, List.not_mem_nil, or_false]
      rw [or_rotate, or_left_comm]
    rw [Bool.eq_iff_iff, List.contains_iff_mem, hmem]
  rw [foldl_doubleBackslashBefore (h.nodup_iff.2 (by decide)) (mt h.mem_iff.1 (by decide)), hletters]

/-- The escape is one pass that doubles each backslash in front of r, n and t. -/
theorem escapeControls_eq (t : Text) : escapeControls t = doubleBackslashes isControlLetter t :=
  foldl_doubleBackslashBefore_perm (List.Perm.refl _) t

/-- The escape leaves the first code point. -/
theorem head?_escapeControls (t : Text) : (escapeControls t).head? = t.head? := by
  rw [escapeControls_eq, head?_doubleBackslashes]

/-! ## Piece by piece -/

/-- The escape goes on behind any code point but a backslash. -/
theorem escapeControls_cons (h : c ≠ CodePoint.backslash) (t : Text) : escapeControls (c :: t) = c :: escapeControls t := by
  rw [escapeControls_eq, escapeControls_eq, doubleBackslashes_neg fun e => absurd e h]

/-- A backslash in front of r, n or t is doubled, and the escape goes on behind the letter. -/
theorem escapeControls_backslash (h : isControlLetter c = true) (t : Text) :
    escapeControls (CodePoint.backslash :: c :: t) = CodePoint.backslash :: CodePoint.backslash :: c :: escapeControls t := by
  rw [escapeControls_eq, escapeControls_eq, doubleBackslashes_pos (by exact h),
    doubleBackslashes_neg fun e => absurd e (ne_backslash_of_isControlLetter h)]

/-- A backslash in front of anything else stays. -/
theorem escapeControls_backslash_of_not (h : t.head?.any isControlLetter = false) :
    escapeControls (CodePoint.backslash :: t) = CodePoint.backslash :: escapeControls t := by
  rw [escapeControls_eq, escapeControls_eq, doubleBackslashes_neg fun _ => h]

/-- The escape goes on behind a text without a backslash. -/
theorem escapeControls_append_of_notMem (h : CodePoint.backslash ∉ s) (t : Text) :
    escapeControls (s ++ t) = s ++ escapeControls t := by
  induction s with
  | nil => rfl
  | cons c s ih =>
    obtain ⟨hc, hs⟩ := not_or.1 (mt List.mem_cons.2 h)
    rw [List.cons_append, escapeControls_cons fun e => hc e.symm, ih hs, List.cons_append]

/-- A text is escaped in two parts where the second one does not start with r, n or t. -/
theorem escapeControls_append (h : t.head?.any isControlLetter = false) (s : Text) :
    escapeControls (s ++ t) = escapeControls s ++ escapeControls t := by
  simp only [escapeControls_eq]
  induction s with
  | nil => rfl
  | cons c s ih =>
    have hhead : (s ++ t).head?.any isControlLetter = s.head?.any isControlLetter := by
      cases s with
      | nil => exact h
      | cons d s => rfl
    rw [List.cons_append, doubleBackslashes, doubleBackslashes, hhead, ih]
    split <;> rfl

/-- Joined pieces are escaped one by one, where the separator holds neither a backslash nor one of the letters. -/
theorem escapeControls_joinWith {separator : CodePoint} (hbackslash : separator ≠ CodePoint.backslash)
    (hletter : isControlLetter separator = false) (pieces : List Text) :
    escapeControls (joinWith [separator] pieces) = joinWith [separator] (pieces.map escapeControls) := by
  simp only [joinWith]
  induction pieces with
  | nil => rfl
  | cons p pieces ih =>
    cases pieces with
    | nil => rw [List.map_singleton, List.intercalate_singleton, List.intercalate_singleton]
    | cons q pieces =>
      have hrest : (separator :: [separator].intercalate (q :: pieces)).head?.any isControlLetter = false := hletter
      rw [List.map_cons, List.map_cons, List.intercalate_cons_cons, List.intercalate_cons_cons, List.append_assoc,
        List.append_assoc, List.singleton_append, List.singleton_append, escapeControls_append hrest,
        escapeControls_cons hbackslash, ih, List.map_cons]

/-! ## Taking the escape back -/

/-- Two backslashes in front of r, n or t become one. -/
theorem unescapeControls_pair (h : isControlLetter c = true) (t : Text) :
    unescapeControls (CodePoint.backslash :: CodePoint.backslash :: c :: t) =
      CodePoint.backslash :: c :: unescapeControls t := by
  rw [unescapeControls, if_pos h]

/-- A code point stays where it is no backslash with another one and one of the letters behind it. -/
theorem unescapeControls_cons (h : c = CodePoint.backslash →
    ∀ letter rest, isControlLetter letter = true → t ≠ CodePoint.backslash :: letter :: rest) :
    unescapeControls (c :: t) = c :: unescapeControls t := by
  conv_lhs => unfold unescapeControls
  split
  · next letter rest heq =>
    obtain ⟨rfl, rfl⟩ := List.cons.inj heq
    exact if_neg fun hletter => h rfl letter rest hletter rfl
  · next heq =>
    obtain ⟨rfl, rfl⟩ := List.cons.inj heq
    rfl
  · next heq => cases heq

/-- No escaped text starts with a single backslash in front of r, n or t. -/
theorem escapeControls_ne_cons (hletter : isControlLetter letter = true) (t rest : Text) :
    escapeControls t ≠ CodePoint.backslash :: letter :: rest := by
  intro heq
  have hhead := head?_escapeControls t
  rw [heq, List.head?_cons] at hhead
  obtain ⟨t, rfl⟩ := List.head?_eq_some_iff.1 hhead.symm
  cases hfirst : t.head?.any isControlLetter with
  | true =>
    -- the second of the two backslashes would be the letter
    rw [escapeControls_eq, doubleBackslashes_pos hfirst, List.cons.injEq, List.cons.injEq] at heq
    exact ne_backslash_of_isControlLetter hletter heq.2.1.symm
  | false =>
    rw [escapeControls_backslash_of_not hfirst, List.cons.injEq] at heq
    have hnext := head?_escapeControls t
    rw [heq.2, List.head?_cons] at hnext
    rw [← hnext, Option.any_some, hletter] at hfirst
    cases hfirst

/-- The escape is taken back. -/
theorem unescapeControls_escapeControls (t : Text) : unescapeControls (escapeControls t) = t := by
  induction t with
  | nil => rfl
  | cons c t ih =>
    by_cases hc : c = CodePoint.backslash
    · subst hc
      cases hfirst : t.head?.any isControlLetter with
      | true =>
        obtain ⟨letter, t, rfl, hletter⟩ := exists_eq_cons_of_head? hfirst
        have hbackslash := ne_backslash_of_isControlLetter hletter
        rw [escapeControls_cons hbackslash, unescapeControls_cons fun e => absurd e hbackslash, List.cons.injEq] at ih
        rw [escapeControls_backslash hletter, unescapeControls_pair hletter, ih.2]
      | false =>
        rw [escapeControls_backslash_of_not hfirst,
          unescapeControls_cons fun _ letter rest hletter => escapeControls_ne_cons hletter t rest, ih]
    · rw [escapeControls_cons hc, unescapeControls_cons fun e => absurd e hc, ih]

/-- The escape loses nothing: texts that are escaped alike are one text. -/
theorem escapeControls_injective : Function.Injective escapeControls :=
  Function.LeftInverse.injective unescapeControls_escapeControls

/-! ## What is kept -/

/-- The escape keeps the code points of a text. -/
theorem mem_escapeControls_iff {x : CodePoint} : x ∈ escapeControls t ↔ x ∈ t := by
  rw [escapeControls_eq]
  induction t with
  | nil => rfl
  | cons c rest ih =>
    rw [doubleBackslashes]
    split <;> simp [ih]

/-- Only the empty text is escaped to nothing. -/
theorem escapeControls_eq_nil_iff : escapeControls t = [] ↔ t = [] := by
  rw [List.eq_nil_iff_forall_not_mem, List.eq_nil_iff_forall_not_mem]
  exact forall_congr' fun x => not_congr mem_escapeControls_iff

/-- A text without a backslash is left as it is. -/
theorem escapeControls_of_notMem (h : CodePoint.backslash ∉ t) : escapeControls t = t := by
  have happend := escapeControls_append_of_notMem h []
  rwa [List.append_nil, show escapeControls [] = [] from rfl, List.append_nil] at happend

end Descriptors.Text
