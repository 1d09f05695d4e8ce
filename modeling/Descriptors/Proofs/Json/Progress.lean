import Descriptors.Json.Reader
import Descriptors.Proofs.Outcome
import Mathlib.Data.List.Basic

/-!
# Reading goes forward

Every value takes some of the text in front of which it is read (`Json.progresses_readValue`). So the items and pairs of a
container are fewer than the code points left, and the bound on their number never counts: any two bounds that the length of the
text does not exceed give the same reading (`Json.readValue_bound`).
-/

namespace Descriptors.Json

/-- A reader that leaves less than it was given. -/
def Progresses {α : Type} (reader : Text → Reading α) : Prop := ∀ t v rest, reader t = .ok (v, rest) → rest.length < t.length

variable {readOne readOne' : Text → Reading Json} {array object array' object' : Text → Reading Json}
  {bound bound' depth : Nat} {t rest : Text} {v : Json}

/-! ## Scalars -/

/-- White space that is passed over leaves no more. -/
theorem length_skipBlanks_le (t : Text) : (skipBlanks t).length ≤ t.length := (t.dropWhile_sublist _).length_le

/-- A word takes its code points. -/
theorem length_lt_of_readWord? (h : readWord? t = some (v, rest)) : rest.length < t.length := by
  have hwords : ∀ w ∈ words.map (·.1), 0 < w.length := by decide
  obtain ⟨w, hw, hrest⟩ := List.exists_of_findSome?_eq_some h
  obtain ⟨rest', hfront, hv⟩ := Option.map_eq_some_iff.1 hrest
  obtain rfl : rest' = rest := congrArg Prod.snd hv
  have happend := congrArg List.length (List.append_eq_of_isPrefixOf?_eq_some hfront)
  have hpos := hwords w.1 (List.mem_map_of_mem hw)
  rw [List.length_append] at happend
  omega

/-- Digits that are read leave no more. -/
theorem length_readDigits_le (t : Text) : (readDigits t).2.length ≤ t.length := (t.dropWhile_sublist _).length_le

/-- The whole part of a number takes a digit. -/
theorem length_lt_of_readWhole? {whole : List Nat} (h : readWhole? t = some (whole, rest)) : rest.length < t.length := by
  unfold readWhole? at h
  split at h
  · cases h
    exact Nat.lt_succ_self _
  · next c rest' _ =>
    split at h
    · next hc =>
      cases h
      rw [List.dropWhile_cons_of_pos hc, List.length_cons]
      exact Nat.lt_succ_of_le (rest'.dropWhile_sublist _).length_le
    · cases h
  · cases h

/-- A fraction leaves no more. -/
theorem length_readFraction_le (t : Text) : (readFraction t).2.length ≤ t.length := by
  unfold readFraction
  split
  · split
    · exact Nat.le_succ_of_le (length_readDigits_le _)
    · exact Nat.le_refl _
  · exact Nat.le_refl _

/-- An exponent leaves no more. -/
theorem length_le_of_readExponent? {x : Int} (h : readExponent? t = some (x, rest)) : rest.length ≤ t.length := by
  have hdigits : ∀ {t' : Text} {ds : List Nat} {rest : Text}, readDigits t' = (ds, rest) → rest.length ≤ t'.length := by
    intro t' ds rest h
    have hlength := length_readDigits_le t'
    rwa [h] at hlength
  unfold readExponent? at h
  split at h
  · next e rest' =>
    split at h
    · dsimp only at h
      split at h
      · cases h
      · next hds =>
        cases h
        have hrest := hdigits hds
        split at hrest <;> simp only [List.length_cons] at hrest ⊢ <;> omega
    · cases h
  · cases h

/-- A number without its sign takes a digit. -/
theorem length_lt_of_readMagnitude {negative : Bool} (h : readMagnitude negative t = some (.ok (v, rest))) :
    rest.length < t.length := by
  obtain ⟨⟨whole, afterWhole⟩, hwhole, h⟩ := Option.bind_eq_some_iff.1 h
  have hlt := length_lt_of_readWhole? hwhole
  have hfraction := length_readFraction_le afterWhole
  dsimp only at h
  split at h
  · split at h
    · cases h
    · cases h
      omega
  · cases h
    cases hx : readExponent? (readFraction afterWhole).2 with
    | none =>
      simp only [Option.getD_none]
      omega
    | some x =>
      have hexponent := length_le_of_readExponent? hx
      simp only [Option.getD_some]
      omega

/-- A number takes a digit. -/
theorem progresses_readNumber : Progresses readNumber := by
  intro t v rest h
  have hmagnitude : ∀ {negative : Bool} {t' : Text},
      (readMagnitude negative t').getD (complain .valueExpected t) = .ok (v, rest) → rest.length < t'.length := by
    intro negative t' h
    cases hm : readMagnitude negative t' with
    | none => rw [hm] at h; cases h
    | some r =>
      rw [hm, Option.getD_some] at h
      exact length_lt_of_readMagnitude (h ▸ hm)
  unfold readNumber at h
  dsimp only at h
  split at h
  · exact Nat.lt_succ_of_lt (hmagnitude h)
  · exact hmagnitude h

/-- A string literal takes its closing quote. -/
theorem progresses_readString : Progresses readString := by
  have hfrom : ∀ (opening : Text) (afterHigh : Bool) (passed t : Text) (s rest : Text),
      readStringFrom opening afterHigh passed t = .ok (s, rest) → rest.length < t.length := by
    intro opening afterHigh passed t
    fun_induction readStringFrom opening afterHigh passed t with
    | case2 => intro s rest h; cases h; exact Nat.lt_succ_self _
    | case1 | case3 | case5 | case6 | case8 | case9 => intro s rest h; cases h
    | case4 _ _ _ _ _ _ _ _ _ _ ih | case7 _ _ _ _ _ _ _ _ ih | case10 _ _ _ _ _ _ _ _ _ _ ih =>
      intro s rest h
      have hlt := ih s rest h
      simp only [List.length_cons] at hlt ⊢
      omega
  exact fun t s rest h => hfrom _ _ _ t s rest h

/-! ## Containers, step by step -/

/-- The rest of an array after an item: the next item behind a comma, or the end. -/
def afterItem (readOne : Text → Reading Json) (bound : Nat) (passed : List Json) (rest : Text) : Reading (List Json) :=
  match skipBlanks rest with
  | CodePoint.comma :: rest => readItems readOne bound passed (skipBlanks rest)
  | CodePoint.closeBracket :: rest => .ok (passed.reverse, rest)
  | rest => complain .commaExpected rest

/-- The rest of an object after a pair: the next pair behind a comma, or the end. -/
def afterPair (readOne : Text → Reading Json) (bound : Nat) (passed : Entries Json) (rest : Text) : Reading (Entries Json) :=
  match skipBlanks rest with
  | CodePoint.comma :: rest => readPairs readOne bound passed (skipBlanks rest)
  | CodePoint.closeBrace :: rest => .ok (passed.reverse, rest)
  | rest => complain .commaExpected rest

/-- The rest of an object after a key: its value behind a colon, and what follows the pair. -/
def afterKey (readOne : Text → Reading Json) (bound : Nat) (passed : Entries Json) (key rest : Text) : Reading (Entries Json) :=
  match skipBlanks rest with
  | CodePoint.colon :: rest => (readOne (skipBlanks rest)).bind fun x => afterPair readOne bound ((key, x.1) :: passed) x.2
  | rest => complain .colonExpected rest

theorem readItems_succ (bound : Nat) (passed : List Json) (t : Text) :
    readItems readOne (bound + 1) passed t = (readOne t).bind fun x => afterItem readOne bound (x.1 :: passed) x.2 := by
  rw [readItems]
  cases readOne t <;> rfl

theorem readPairs_quote (bound : Nat) (passed : Entries Json) (rest : Text) :
    readPairs readOne (bound + 1) passed (CodePoint.quote :: rest) =
      (readString rest).bind fun x => afterKey readOne bound passed x.1 x.2 := by
  rw [readPairs]
  cases readString rest with
  | error fault => rfl
  | ok x =>
    change (match skipBlanks x.2 with | CodePoint.colon :: rest => _ | rest => _) = afterKey readOne bound passed x.1 x.2
    unfold afterKey
    split
    · next rest _ => cases readOne (skipBlanks rest) <;> rfl
    · rfl

theorem readPairs_of_not_quote (bound : Nat) (passed : Entries Json) (h : ∀ rest, t = CodePoint.quote :: rest → False) :
    readPairs readOne (bound + 1) passed t = complain .nameExpected t := by
  rw [readPairs]
  exact h

/-! ## Values -/

/-- The items of an array take some of the text. -/
theorem length_lt_of_readItems (hone : Progresses readOne) : ∀ {bound : Nat} {passed items : List Json} {t : Text},
    readItems readOne bound passed t = .ok (items, rest) → rest.length < t.length := by
  intro bound
  induction bound with
  | zero => intro passed items t h; cases h
  | succ bound ih =>
    intro passed items t h
    rw [readItems_succ] at h
    obtain ⟨⟨v, behind⟩, hv, h⟩ := Outcome.bind_ok_iff.1 h
    have hitem := hone _ _ _ hv
    have hblanks := length_skipBlanks_le behind
    unfold afterItem at h
    split at h
    · next afterComma hcomma =>
      have hrest := ih h
      have hnext := length_skipBlanks_le afterComma
      rw [hcomma, List.length_cons] at hblanks
      omega
    · next hclose =>
      cases h
      rw [hclose, List.length_cons] at hblanks
      omega
    · cases h

/-- The pairs of an object take some of the text. -/
theorem length_lt_of_readPairs (hone : Progresses readOne) : ∀ {bound : Nat} {passed pairs : Entries Json} {t : Text},
    readPairs readOne bound passed t = .ok (pairs, rest) → rest.length < t.length := by
  intro bound
  induction bound with
  | zero => intro passed pairs t h; cases h
  | succ bound ih =>
    have hpair : ∀ {passed pairs : Entries Json} {t : Text},
        afterPair readOne bound passed t = .ok (pairs, rest) → rest.length < t.length := by
      intro passed pairs t h
      have hblanks := length_skipBlanks_le t
      unfold afterPair at h
      split at h
      · next afterComma hcomma =>
        have hrest := ih h
        have hnext := length_skipBlanks_le afterComma
        rw [hcomma, List.length_cons] at hblanks
        omega
      · next hclose =>
        cases h
        rw [hclose, List.length_cons] at hblanks
        omega
      · cases h
    intro passed pairs t h
    by_cases hquote : ∃ behind, t = CodePoint.quote :: behind
    · obtain ⟨behind, rfl⟩ := hquote
      rw [readPairs_quote] at h
      obtain ⟨⟨key, behindKey⟩, hkey, h⟩ := Outcome.bind_ok_iff.1 h
      have hstring := progresses_readString _ _ _ hkey
      have hblanks := length_skipBlanks_le behindKey
      unfold afterKey at h
      split at h
      · next afterColon hcolon =>
        obtain ⟨⟨v, behindValue⟩, hv, h⟩ := Outcome.bind_ok_iff.1 h
        have hvalue := hone _ _ _ hv
        have hbefore := length_skipBlanks_le afterColon
        have hrest : rest.length < behindValue.length := hpair h
        rw [hcolon, List.length_cons] at hblanks
        rw [List.length_cons]
        omega
      · cases h
    · rw [readPairs_of_not_quote _ _ fun behind hbehind => hquote ⟨behind, hbehind⟩] at h
      cases h

/-- The rest of an array takes its closing bracket. -/
theorem progresses_readArray (hone : Progresses readOne) (bound : Nat) : Progresses (readArray readOne bound) := by
  intro t v rest h
  have hblanks := length_skipBlanks_le t
  unfold readArray at h
  split at h
  · next hclose =>
    cases h
    rw [hclose, List.length_cons] at hblanks
    omega
  · obtain ⟨⟨items, rest'⟩, hitems, hv⟩ := Outcome.map_ok_iff.1 h
    cases hv
    exact Nat.lt_of_lt_of_le (length_lt_of_readItems hone hitems) hblanks

/-- The rest of an object takes its closing brace. -/
theorem progresses_readObject (hone : Progresses readOne) (bound : Nat) : Progresses (readObject readOne bound) := by
  intro t v rest h
  have hblanks := length_skipBlanks_le t
  unfold readObject at h
  split at h
  · next hclose =>
    cases h
    rw [hclose, List.length_cons] at hblanks
    omega
  · obtain ⟨⟨pairs, rest'⟩, hpairs, hv⟩ := Outcome.map_ok_iff.1 h
    cases hv
    exact Nat.lt_of_lt_of_le (length_lt_of_readPairs hone hpairs) hblanks

/-- A value takes some of the text, given that the rest of an array and the rest of an object do. -/
theorem progresses_readValueBy (harray : Progresses array) (hobject : Progresses object) :
    Progresses (readValueBy array object) := by
  intro t v rest h
  unfold readValueBy at h
  split at h
  · obtain ⟨⟨s, rest'⟩, hs, hv⟩ := Outcome.map_ok_iff.1 h
    cases hv
    exact Nat.lt_succ_of_lt (progresses_readString _ _ _ hs)
  · exact Nat.lt_succ_of_lt (harray _ _ _ h)
  · exact Nat.lt_succ_of_lt (hobject _ _ _ h)
  · cases hw : readWord? t with
    | none =>
      rw [hw, Option.elim_none] at h
      exact progresses_readNumber _ _ _ h
    | some w =>
      rw [hw, Option.elim_some] at h
      cases h
      exact length_lt_of_readWord? hw

/-- Every value takes some of the text, however deep it is nested. -/
theorem progresses_readValue (bound depth : Nat) : Progresses (readValue bound depth) := by
  induction depth with
  | zero => exact progresses_readValueBy (fun _ _ _ h => nomatch h) (fun _ _ _ h => nomatch h)
  | succ depth ih => exact progresses_readValueBy (progresses_readArray ih bound) (progresses_readObject ih bound)

/-! ## The bound -/

/-- Readers of one item that agree on what is left, and bounds above its length, read the same items. -/
theorem readItems_bound (hone : Progresses readOne) : ∀ {bound bound' : Nat} {passed : List Json} {t : Text},
    t.length < bound → t.length < bound' → (∀ s, s.length ≤ t.length → readOne s = readOne' s) →
      readItems readOne bound passed t = readItems readOne' bound' passed t := by
  intro bound
  induction bound with
  | zero => intro bound' passed t h; exact absurd h (Nat.not_lt_zero _)
  | succ bound ih =>
    intro bound' passed t h h' hagree
    obtain ⟨bound', rfl⟩ := Nat.exists_eq_succ_of_ne_zero (Nat.ne_zero_of_lt h')
    rw [readItems_succ, readItems_succ, ← hagree t (Nat.le_refl _)]
    cases hv : readOne t with
    | error fault => rfl
    | ok x =>
      have hitem := hone _ _ _ hv
      have hblanks := length_skipBlanks_le x.2
      change afterItem _ _ _ _ = afterItem _ _ _ _
      unfold afterItem
      split
      · next afterComma hcomma =>
        have hnext := length_skipBlanks_le afterComma
        rw [hcomma, List.length_cons] at hblanks
        exact ih (by omega) (by omega) fun s hs => hagree s (by omega)
      · rfl
      · rfl

/-- Readers of one value that agree on what is left, and bounds above its length, read the same pairs. -/
theorem readPairs_bound (hone : Progresses readOne) : ∀ {bound bound' : Nat} {passed : Entries Json} {t : Text},
    t.length < bound → t.length < bound' → (∀ s, s.length ≤ t.length → readOne s = readOne' s) →
      readPairs readOne bound passed t = readPairs readOne' bound' passed t := by
  intro bound
  induction bound with
  | zero => intro bound' passed t h; exact absurd h (Nat.not_lt_zero _)
  | succ bound ih =>
    intro bound' passed t h h' hagree
    obtain ⟨bound', rfl⟩ := Nat.exists_eq_succ_of_ne_zero (Nat.ne_zero_of_lt h')
    by_cases hquote : ∃ behind, t = CodePoint.quote :: behind
    · obtain ⟨behind, rfl⟩ := hquote
      rw [readPairs_quote, readPairs_quote]
      rw [List.length_cons] at h h'
      cases hkey : readString behind with
      | error fault => rfl
      | ok key =>
        have hstring := progresses_readString _ _ _ hkey
        have hblanks := length_skipBlanks_le key.2
        change afterKey _ _ _ _ _ = afterKey _ _ _ _ _
        unfold afterKey
        split
        · next afterColon hcolon =>
          have hbefore := length_skipBlanks_le afterColon
          rw [hcolon, List.length_cons] at hblanks
          rw [← hagree (skipBlanks afterColon) (by rw [List.length_cons]; omega)]
          cases hv : readOne (skipBlanks afterColon) with
          | error fault => rfl
          | ok x =>
            have hvalue := hone _ _ _ hv
            have hbehind := length_skipBlanks_le x.2
            change afterPair _ _ _ _ = afterPair _ _ _ _
            unfold afterPair
            split
            · next afterComma hcomma =>
              have hnext := length_skipBlanks_le afterComma
              rw [hcomma, List.length_cons] at hbehind
              exact ih (by omega) (by omega) fun s hs => hagree s (by rw [List.length_cons]; omega)
            · rfl
            · rfl
        · rfl
    · have hnone : ∀ behind, t = CodePoint.quote :: behind → False := fun behind hbehind => hquote ⟨behind, hbehind⟩
      rw [readPairs_of_not_quote _ _ hnone, readPairs_of_not_quote _ _ hnone]

/-- What is read in front of a text is the same for any two bounds that its length does not exceed. -/
theorem readValue_bound : ∀ {depth : Nat} {t : Text}, t.length ≤ bound → t.length ≤ bound' →
    readValue bound depth t = readValue bound' depth t := by
  intro depth
  induction depth with
  | zero => intro t _ _; rfl
  | succ depth ih =>
    intro t h h'
    have hcontainer : ∀ rest : Text, rest.length < t.length →
        (∀ s, s.length ≤ (skipBlanks rest).length → readValue bound depth s = readValue bound' depth s) ∧
          (skipBlanks rest).length < bound ∧ (skipBlanks rest).length < bound' := by
      intro rest hrest
      have hblanks := length_skipBlanks_le rest
      exact ⟨fun s hs => ih (by omega) (by omega), by omega, by omega⟩
    unfold readValue readValueBy
    split
    · rfl
    · next rest =>
      obtain ⟨hagree, hbound, hbound'⟩ := hcontainer rest (Nat.lt_succ_self _)
      unfold readArray
      split
      · rfl
      · rw [readItems_bound (progresses_readValue bound depth) hbound hbound' hagree]
    · next rest =>
      obtain ⟨hagree, hbound, hbound'⟩ := hcontainer rest (Nat.lt_succ_self _)
      unfold readObject
      split
      · rfl
      · rw [readPairs_bound (progresses_readValue bound depth) hbound hbound' hagree]
    · rfl

end Descriptors.Json
