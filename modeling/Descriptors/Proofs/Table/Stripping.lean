import Descriptors.Proofs.Table.Resolution
import Mathlib.Data.List.Chain

/-!
# Which names are resolved

Prefixes are taken off a name one scan after the other: the names that it passes through (`Table.successiveNames`) get shorter
from each one to the next, so that none comes back, and the last one is the stripped name. Only the first and the last of them
are looked up, and own prefixes are tried on the last one alone. That is where a name is resolved
(`Table.resolve?_isSome_iff`), and not wherever some name on the way is a property or starts with an own prefix
(`Table.successive_names_false`). A name on the way is the last one when no row up to one that has it takes anything off it.
-/

namespace Descriptors.Table

variable {rows passed later : Table} {r : Row} {n m rest : Text} {seen : List Text} {strips : Nat}

/-! ## One scan -/

/-- What a scan takes off is the optional prefix of a row with a name. -/
theorem stripOnce?_eq_some (h : rows.stripOnce? n = some rest) :
    ∃ r ∈ rows, r.name?.isSome ∧ ∃ p, r.get? Row.optionalPrefixKey = some p ∧ p ++ rest = n := by
  induction rows with
  | nil => cases h
  | cons r rows ih =>
    have later (h : stripOnce? rows n = some rest) :
        ∃ r' ∈ r :: rows, r'.name?.isSome ∧ ∃ p, r'.get? Row.optionalPrefixKey = some p ∧ p ++ rest = n := by
      obtain ⟨r', hr', hstrip⟩ := ih h
      exact ⟨r', List.mem_cons_of_mem r hr', hstrip⟩
    unfold stripOnce? at h
    split at h
    · exact later h
    · next rowName hname =>
      split at h
      · next rest' hprefix =>
        cases h
        obtain ⟨p, hp, hrest⟩ := Option.bind_eq_some_iff.1 hprefix
        exact ⟨r, List.mem_cons_self, by rw [hname, Option.isSome_some], p, hp, List.append_eq_of_isPrefixOf?_eq_some hrest⟩
      · split at h
        · cases h
        · exact later h

/-- A scan ends in the rows in front where it takes a prefix off or comes to the name; else it goes on in those behind. -/
theorem stripOnce?_append_eq (rows later : Table) (n : Text) :
    (rows ++ later).stripOnce? n = (rows.stripOnce? n).or (if (rows.property? n).isSome then none else later.stripOnce? n) := by
  induction rows with
  | nil => rfl
  | cons r rows ih =>
    rw [List.cons_append, property?_cons, Row.isNamed, stripOnce?, stripOnce?]
    cases r.name? with
    | none => simpa using ih
    | some rowName =>
      cases (r.get? Row.optionalPrefixKey).bind (·.isPrefixOf? n) with
      | some rest => rfl
      | none =>
        by_cases hlower : rowName.lower = n.lower
        · simp [hlower]
        · simpa [hlower] using ih

/-- A scan that takes a prefix off ends there: rows behind change nothing. -/
theorem stripOnce?_append (h : rows.stripOnce? n = some rest) (later : Table) : stripOnce? (rows ++ later) n = some rest := by
  rw [stripOnce?_append_eq, h, Option.some_or]

/-- A scan that comes to the name ends there: rows behind change nothing. -/
theorem stripOnce?_append_of_property? (h : (rows.property? n).isSome) (later : Table) :
    stripOnce? (rows ++ later) n = rows.stripOnce? n := by
  rw [stripOnce?_append_eq, if_pos h, Option.or_none]

/-- A scan that changes a name makes it shorter. -/
theorem length_lt_of_stripOnce? (h : rows.stripOnce? n = some rest) (hne : rest ≠ n) : rest.length < n.length := by
  obtain ⟨_, _, _, p, _, rfl⟩ := stripOnce?_eq_some h
  have hp : 0 < p.length := List.length_pos_iff.2 (by rintro rfl; exact hne rfl)
  rw [List.length_append]
  omega

/-- A scan comes to a row with the name, and changes nothing, when no row up to that one takes anything off the name. -/
theorem eq_of_stripOnce?_of_isNamed (hr : r.isNamed n.lower)
    (hkeeps : ∀ r' ∈ passed ++ [r], ∀ p, r'.get? Row.optionalPrefixKey = some p → p <+: n → p = []) :
    ∀ rest, stripOnce? (passed ++ r :: later) n = some rest → rest = n := by
  intro rest h
  have hfound : (property? (passed ++ [r]) n).isSome := by
    rw [property?, List.find?_isSome]
    exact ⟨r, by simp, hr⟩
  rw [List.append_cons, stripOnce?_append_of_property? hfound] at h
  obtain ⟨r', hr', _, p, hp, happend⟩ := stripOnce?_eq_some h
  obtain rfl : p = [] := hkeeps r' hr' p hp ⟨rest, happend⟩
  exact happend

/-! ## The names on the way -/

/-- The names that a name passes through in at most a given number of scans: itself, and what each scan leaves of the one before
it. A scan that leaves a name as it is ends the way. -/
def namesFrom (rows : Table) : Nat → Text → List Text
  | 0, n => [n]
  | strips + 1, n =>
    match stripOnce? rows n with
    | none => [n]
    | some rest => if rest = n then [n] else n :: namesFrom rows strips rest

/-- The names that a name passes through where its optional prefixes are taken off. -/
def successiveNames (rows : Table) (n : Text) : List Text := namesFrom rows greatestStrips n

/-- The way starts at the name. -/
theorem exists_namesFrom_eq_cons (rows : Table) (strips : Nat) (n : Text) : ∃ names, namesFrom rows strips n = n :: names := by
  cases strips with
  | zero => exact ⟨[], rfl⟩
  | succ strips =>
    unfold namesFrom
    split
    · exact ⟨[], rfl⟩
    · split
      · exact ⟨[], rfl⟩
      · exact ⟨_, rfl⟩

/-- Each name on the way but the first is what one scan leaves of the one before it, and is another. -/
theorem isChain_namesFrom (rows : Table) (strips : Nat) :
    ∀ n, (namesFrom rows strips n).IsChain fun m m' => rows.stripOnce? m = some m' ∧ m' ≠ m := by
  induction strips with
  | zero => exact fun n => List.isChain_singleton n
  | succ strips ih =>
    intro n
    unfold namesFrom
    split
    · exact List.isChain_singleton n
    · next rest hstrip =>
      split
      · exact List.isChain_singleton n
      · next hne =>
        have hchain := ih rest
        obtain ⟨names, hnames⟩ := exists_namesFrom_eq_cons rows strips rest
        rw [hnames] at hchain ⊢
        exact List.isChain_cons_cons.2 ⟨⟨hstrip, hne⟩, hchain⟩

/-- Rows behind let a name pass through the same names, and perhaps through more. -/
theorem namesFrom_prefix_append (rows later : Table) (strips : Nat) :
    ∀ n, namesFrom rows strips n <+: namesFrom (rows ++ later) strips n := by
  induction strips with
  | zero => exact fun n => List.prefix_refl [n]
  | succ strips ih =>
    intro n
    have hstart : [n] <+: namesFrom (rows ++ later) (strips + 1) n := by
      obtain ⟨names, hnames⟩ := exists_namesFrom_eq_cons (rows ++ later) (strips + 1) n
      exact ⟨names, hnames.symm⟩
    rw [namesFrom]
    cases hstrip : rows.stripOnce? n with
    | none => exact hstart
    | some rest =>
      dsimp only
      by_cases hrest : rest = n
      · rw [if_pos hrest]
        exact hstart
      · rw [if_neg hrest, namesFrom, stripOnce?_append hstrip later]
        dsimp only
        rw [if_neg hrest, List.prefix_cons_inj]
        exact ih rest

/-- Of the names seen one is the name at hand, and all others are longer. -/
structure SeenLonger (seen : List Text) (n : Text) : Prop where
  here : n ∈ seen
  longer : ∀ s ∈ seen, s = n ∨ n.length < s.length

theorem SeenLonger.start (n : Text) : SeenLonger [n] n :=
  ⟨List.mem_cons_self, fun _ hs => Or.inl (List.mem_singleton.1 hs)⟩

/-- No longer name comes back: what a scan leaves has been seen only if it is the name itself. -/
theorem SeenLonger.mem_iff (h : SeenLonger seen n) (hstrip : rows.stripOnce? n = some rest) : rest ∈ seen ↔ rest = n := by
  constructor
  · intro hmem
    by_contra hne
    have hlt := length_lt_of_stripOnce? hstrip hne
    rcases h.longer rest hmem with heq | hlonger
    · exact hne heq
    · omega
  · rintro rfl
    exact h.here

/-- A name that a scan leaves is shorter than all names seen before. -/
theorem SeenLonger.strip (h : SeenLonger seen n) (hstrip : rows.stripOnce? n = some rest) (hne : rest ≠ n) :
    SeenLonger (rest :: seen) rest := by
  have hlt := length_lt_of_stripOnce? hstrip hne
  refine ⟨List.mem_cons_self, fun s hs => ?_⟩
  rcases List.mem_cons.1 hs with rfl | hs
  · exact Or.inl rfl
  · rcases h.longer s hs with rfl | hlonger
    · exact Or.inr hlt
    · exact Or.inr (Nat.lt_trans hlt hlonger)

/-- The way ends where stripping does. -/
theorem getLast?_namesFrom (rows : Table) (strips : Nat) :
    ∀ n seen, SeenLonger seen n → (namesFrom rows strips n).getLast? = some (stripFrom rows strips seen n) := by
  induction strips with
  | zero => exact fun n seen _ => rfl
  | succ strips ih =>
    intro n seen hseen
    unfold namesFrom stripFrom
    cases hstrip : rows.stripOnce? n with
    | none => rfl
    | some rest =>
      dsimp only
      by_cases hrest : rest = n
      · rw [if_pos hrest, if_pos ((hseen.mem_iff hstrip).2 hrest)]
        rfl
      · obtain ⟨names, hnames⟩ := exists_namesFrom_eq_cons rows strips rest
        have hlast := ih rest (rest :: seen) (hseen.strip hstrip hrest)
        rw [if_neg hrest, if_neg (mt (hseen.mem_iff hstrip).1 hrest), ← hlast, hnames, List.getLast?_cons_cons]

/-- The last name on the way is the stripped name. -/
theorem getLast?_successiveNames (rows : Table) (n : Text) :
    (rows.successiveNames n).getLast? = some (rows.stripPrefixes n) :=
  getLast?_namesFrom rows greatestStrips n [n] (.start n)

/-- A name on the way that no scan changes is the last one. -/
theorem eq_stripPrefixes_of_mem (hm : m ∈ rows.successiveNames n) (hstop : ∀ rest, rows.stripOnce? m = some rest → rest = m) :
    m = rows.stripPrefixes n := by
  obtain ⟨before, after, hsplit⟩ := List.append_of_mem hm
  have hlast := getLast?_successiveNames rows n
  have hchain : (rows.successiveNames n).IsChain _ := isChain_namesFrom rows greatestStrips n
  rw [hsplit] at hlast hchain
  cases after with
  | nil =>
    rw [List.getLast?_append, List.getLast?_singleton, Option.some_or] at hlast
    exact Option.some.inj hlast
  | cons m' after =>
    obtain ⟨hstrip, hne⟩ := (List.isChain_cons_cons.1 (List.isChain_append.1 hchain).2.1).1
    exact absurd (hstop m' hstrip) hne

/-! ## What is resolved -/

/-- Where every row has a name, a name belongs to a row by an own prefix exactly when it starts with the own prefix of one. -/
theorem isSome_nameByPrefix?_iff (named : ∀ r ∈ rows, r.name?.isSome) :
    (rows.nameByPrefix? n).isSome ↔ ∃ r ∈ rows, ∃ p, r.get? Row.prefixKey = some p ∧ p <+: n := by
  have hfound : (rows.nameByPrefix? n).isSome ↔ (rows.find? fun r => (r.get? Row.prefixKey).any (·.isPrefixOf n)).isSome := by
    unfold nameByPrefix?
    cases h : rows.find? fun r => (r.get? Row.prefixKey).any (·.isPrefixOf n) with
    | none => simp
    | some r => simpa using named r (List.mem_of_find?_eq_some h)
  rw [hfound, List.find?_isSome]
  refine exists_congr fun r => and_congr_right fun _ => ?_
  cases r.get? Row.prefixKey <;> simp

/-- A name is resolved as it is given, or as it is stripped, or by an own prefix of what is stripped. -/
theorem isSome_resolve?_iff : (rows.resolve? n).isSome ↔
    (rows.property? n).isSome ∨ (rows.property? (rows.stripPrefixes n)).isSome ∨
      (rows.nameByPrefix? (rows.stripPrefixes n)).isSome := by
  unfold resolve?
  split
  · next h => simp [h]
  · next h =>
    dsimp only
    split
    · next h' => simp [h']
    · next h' => simp [h, h']

/-- In a table whose rows all have names, a name is resolved exactly when it or its stripped form is a property, in any letter
case, or the stripped form starts with the own prefix of a row. The names on the way between the two are not looked up, but one
that a row has is the stripped name, and so resolved, unless a row up to that one takes a prefix off it. -/
theorem resolve?_isSome_iff (rows : Table) (named : ∀ r ∈ rows, r.name?.isSome) (n : Text) :
    ((rows.successiveNames n).head? = some n ∧
      (rows.successiveNames n).IsChain (fun m m' => rows.stripOnce? m = some m' ∧ m' ≠ m) ∧
      (rows.successiveNames n).getLast? = some (rows.stripPrefixes n)) ∧
    ((rows.resolve? n).isSome ↔
      (rows.property? n).isSome ∨ (rows.property? (rows.stripPrefixes n)).isSome ∨
        ∃ r ∈ rows, ∃ p, r.get? Row.prefixKey = some p ∧ p <+: rows.stripPrefixes n) ∧
    ∀ m ∈ rows.successiveNames n, ∀ passed r later, rows = passed ++ r :: later → r.isNamed m.lower →
      (∀ r' ∈ passed ++ [r], ∀ p, r'.get? Row.optionalPrefixKey = some p → p <+: m → p = []) →
      m = rows.stripPrefixes n ∧ (rows.resolve? n).isSome := by
  obtain ⟨names, hnames⟩ := exists_namesFrom_eq_cons rows greatestStrips n
  have hhead : (rows.successiveNames n).head? = some n := by rw [successiveNames, hnames, List.head?_cons]
  refine ⟨⟨hhead, isChain_namesFrom rows greatestStrips n, getLast?_successiveNames rows n⟩, ?_, ?_⟩
  · rw [isSome_resolve?_iff, isSome_nameByPrefix?_iff named]
  · intro m hm passed r later hrows hr hkeeps
    have hlast : m = rows.stripPrefixes n := by
      refine eq_stripPrefixes_of_mem hm ?_
      rw [hrows]
      exact eq_of_stripOnce?_of_isNamed hr hkeeps
    have hfound : (rows.property? m).isSome := by
      rw [property?, List.find?_isSome]
      exact ⟨r, by rw [hrows]; simp, hr⟩
    exact ⟨hlast, isSome_resolve?_iff.2 (Or.inr (Or.inl (hlast ▸ hfound)))⟩

/-- A table in which an optional prefix of one row is the front of the name of another and of the own prefix of a third. -/
def overlapping : Table :=
  [OrderedMap.ofPairs [(Row.nameKey, "foo"), (Row.optionalPrefixKey, "camel.")],
    OrderedMap.ofPairs [(Row.nameKey, "camel.bar")],
    OrderedMap.ofPairs [(Row.nameKey, "header"), (Row.prefixKey, "camel.header.")]]

/-- The stripped name of an option of `overlapping` is a property. -/
theorem resolve?_isSome_overlapping :
    (∀ r ∈ overlapping, r.name?.isSome) ∧ (overlapping.resolve? "camel.camel.foo").isSome := by
  have named : ∀ r ∈ overlapping, r.name?.isSome := by decide
  have hstripped : (overlapping.property? (overlapping.stripPrefixes "camel.camel.foo")).isSome := by decide
  exact ⟨named, (resolve?_isSome_iff overlapping named "camel.camel.foo").2.1.2 (Or.inr (Or.inl hstripped))⟩

/-- Not every name is resolved that passes through a property or through a name that starts with an own prefix: the names of
`overlapping` that do so are stripped further. -/
theorem successive_names_false :
    ¬ ∀ (rows : Table) (n : Text), (∀ r ∈ rows, r.name?.isSome) →
      ((∃ m ∈ rows.successiveNames n, (rows.property? m).isSome) ∨
        ∃ m ∈ rows.successiveNames n, ∃ r ∈ rows, ∃ p, r.get? Row.prefixKey = some p ∧ p ≠ [] ∧ p <+: m) →
      (rows.resolve? n).isSome := by
  intro h
  have named : ∀ r ∈ overlapping, r.name?.isSome := by decide
  have hpasses : ∃ m ∈ overlapping.successiveNames "camel.camel.bar", (overlapping.property? m).isSome := by decide
  have hnone : (overlapping.resolve? "camel.camel.bar").isSome = false := by decide
  have hsome := h overlapping "camel.camel.bar" named (Or.inl hpasses)
  rw [hnone] at hsome
  cases hsome

end Descriptors.Table
