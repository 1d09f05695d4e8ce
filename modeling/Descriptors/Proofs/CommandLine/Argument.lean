import Descriptors.CommandLine.Request
import Descriptors.Proofs.Outcome

/-!
# What arguments hold

A flag that is read in a scope is one of the flags of that scope (`Argument.read_isOf`), however it is spelled, cut short or given
its value. Arguments hold the texts that they are read from, in order, and behind the separator nothing but operands
(`Argument.stand_of_read`).
-/

namespace Descriptors.CommandLine

variable {s : Scope} {t : Text} {f : Flag} {w : Word} {a : Argument} {arguments : List Argument} {texts : List Text}

/-! ## Flags and their scope -/

/-- A word that is no flag but one of a scope. -/
def Word.IsOf (s : Scope) (w : Word) : Prop := ∀ f value, w = .flag f value → f ∈ s.flags

namespace Scope

/-- A spelled flag is a flag of the scope. -/
theorem mem_flags_of_spelled {e : Text × Flag} (h : e ∈ s.spelled) : e.2 ∈ s.flags := by
  obtain ⟨f, hf, h⟩ := List.mem_flatMap.1 h
  obtain ⟨t, _, rfl⟩ := List.mem_map.1 h
  exact hf

/-- The flag of a spelling is a flag of the scope. -/
theorem mem_flags_of_flag? (h : s.flag? t = some f) : f ∈ s.flags := by
  obtain ⟨front, rest, hspelled, _⟩ := List.lookup_eq_some_iff.1 h
  exact mem_flags_of_spelled (e := (t, f)) (by rw [hspelled]; simp)

/-- What an argument may be short for is no flag but one of the scope. -/
theorem isOf_of_abbreviated {e : Text × Word} (h : e ∈ s.abbreviated t) : e.2.IsOf s := by
  intro f value hword
  unfold abbreviated at h
  split at h
  · obtain ⟨e', he', rfl⟩ := List.mem_map.1 h
    cases hword
    exact mem_flags_of_spelled (List.mem_filter.1 he').1
  · obtain ⟨e', _, rfl⟩ := List.mem_map.1 h
    cases hword
  · cases h

/-- An argument that is no spelling of a flag is at most short for one of the scope. -/
theorem isOf_of_unspelledWord (h : s.unspelledWord t = .ok w) : w.IsOf s := by
  unfold unspelledWord at h
  split at h
  · intro f value hword
    subst hword
    split at h <;> cases h
  · next spelling _ hshort =>
    cases h
    exact isOf_of_abbreviated (e := (spelling, w)) (by rw [hshort]; exact List.mem_singleton_self _)
  · cases h

/-- An argument is no flag but one of the scope. -/
theorem isOf_of_word (h : s.word t = .ok w) : w.IsOf s := by
  unfold word at h
  split at h
  · cases h
    exact fun f value hword => nomatch hword
  split at h
  · next f hf =>
    cases h
    intro f' value hword
    cases hword
    exact mem_flags_of_flag? hf
  split at h
  · split at h
    · next f hf =>
      cases h
      intro f' value hword
      cases hword
      exact mem_flags_of_flag? hf
    · exact isOf_of_unspelledWord h
  · exact isOf_of_unspelledWord h

/-- No argument but the separator itself is one. -/
theorem word_ne_separator (s : Scope) : s.word t ≠ .ok .separator := by
  have habbreviated : ∀ {e : Text × Word}, e ∈ s.abbreviated t → e.2 ≠ .separator := by
    intro e he
    unfold abbreviated at he
    split at he
    · obtain ⟨e', _, rfl⟩ := List.mem_map.1 he
      exact nofun
    · obtain ⟨e', _, rfl⟩ := List.mem_map.1 he
      exact nofun
    · cases he
  have hunspelled : s.unspelledWord t ≠ .ok .separator := by
    unfold unspelledWord
    split
    · split <;> exact nofun
    · next spelling word hshort =>
      intro h
      cases h
      exact habbreviated (e := (spelling, .separator)) (by rw [hshort]; exact List.mem_singleton_self _) rfl
    · exact nofun
  unfold word
  split
  · exact nofun
  split
  · exact nofun
  split
  · split
    · exact nofun
    · exact hunspelled
  · exact hunspelled

/-- Arguments are no flags but those of the scope. -/
theorem isOf_of_words : ∀ {texts arguments}, s.words texts = .ok arguments → ∀ a ∈ arguments, a.word.IsOf s := by
  intro texts
  induction texts with
  | nil =>
    intro arguments h a ha
    cases h
    cases ha
  | cons t texts ih =>
    intro arguments h a ha
    unfold words at h
    split at h
    · cases h
      -- what stands behind the separator is no flag at all
      rcases List.mem_cons.1 ha with rfl | ha
      · exact fun f value hword => nomatch hword
      · obtain ⟨u, _, rfl⟩ := List.mem_map.1 ha
        exact fun f value hword => nomatch hword
    · obtain ⟨w, hw, h⟩ := Outcome.bind_ok_iff.1 h
      obtain ⟨rest, hrest, h⟩ := Outcome.bind_ok_iff.1 h
      cases h
      rcases List.mem_cons.1 ha with rfl | ha
      · exact isOf_of_word hw
      · exact ih hrest a ha

end Scope

namespace Argument

/-- What joining the values to their flags makes of arguments. -/
inductive Joins : List Argument → List Argument → Prop where
  | nil : Joins [] []
  | apart {a : Argument} {rest rest' : List Argument} : Joins rest rest' → Joins (a :: rest) (a :: rest')
  | joined {a b : Argument} {rest rest' : List Argument} {f : Flag} {value : Text} : a.word = .flag f none →
      b.word = .operand value → Joins rest rest' →
      Joins (a :: b :: rest) (⟨a.texts ++ b.texts, .flag f (some value)⟩ :: rest')

/-- An argument that is no flag without its value stands for itself. -/
theorem joinValues_cons (h : ∀ f, a.word = .flag f none → f.takesValue = false) (rest : List Argument) :
    joinValues (a :: rest) = a :: joinValues rest := by
  cases rest with
  | nil => rfl
  | cons b rest =>
    rw [joinValues]
    split
    · next f value ha hb => exact if_neg (by simp [h f ha])
    · rfl

theorem joins_joinValues (arguments : List Argument) : Joins arguments (joinValues arguments) := by
  induction arguments using joinValues.induct with
  | case1 => exact .nil
  | case2 a => exact .apart .nil
  | case3 a b rest f value hb ha htakes ih =>
    rw [joinValues, ha, hb]
    simp only [htakes, if_true]
    exact .joined ha hb ih
  | case4 a b rest f value hb ha htakes ih =>
    rw [joinValues, ha, hb]
    simp only [htakes]
    exact .apart ih
  | case5 a b rest hne ih =>
    rw [joinValues]
    split
    · next f value ha hb => exact absurd hb (hne f value ha)
    · exact .apart ih

/-- Values that are joined to their flags leave the flags as they are. -/
theorem Joins.isOf {joined : List Argument} (h : Joins arguments joined) (hof : ∀ a ∈ arguments, a.word.IsOf s) :
    ∀ a ∈ joined, a.word.IsOf s := by
  induction h with
  | nil => exact hof
  | apart _ ih =>
    obtain ⟨ha, hrest⟩ := List.forall_mem_cons.1 hof
    exact List.forall_mem_cons.2 ⟨ha, ih hrest⟩
  | joined hflag _ _ ih =>
    obtain ⟨ha, hrest⟩ := List.forall_mem_cons.1 hof
    refine List.forall_mem_cons.2 ⟨fun f' value' hword => ?_, ih (List.forall_mem_cons.1 hrest).2⟩
    cases hword
    exact ha _ none hflag

/-- The arguments of a scope are no flags but those of the scope. -/
theorem read_isOf (h : read s texts = .ok arguments) : ∀ a ∈ arguments, a.word.IsOf s := by
  obtain ⟨separate, hseparate, rfl⟩ := Outcome.map_ok_iff.1 h
  exact (joins_joinValues separate).isOf (Scope.isOf_of_words hseparate)

/-! ## What arguments hold -/

/-- The flag of an argument with its value, where it is one. -/
def flags (a : Argument) : List (Flag × Option Text) :=
  match a.word with
  | .flag f value => [(f, value)]
  | _ => []

/-- The text of an argument that is an operand. -/
def operands (a : Argument) : List Text :=
  match a.word with
  | .operand t => [t]
  | _ => []

/-- The argument that an operand is. -/
def ofOperand (t : Text) : Argument := ⟨[t], .operand t⟩

/-- Arguments that each have a text, and of which those behind the separator are operands. -/
def Stand : List Argument → Prop
  | [] => True
  | a :: rest => a.texts ≠ [] ∧ (a.word = .separator → ∃ texts : List Text, rest = texts.map ofOperand) ∧ Stand rest

theorem stand_map_ofOperand (texts : List Text) : Stand (texts.map ofOperand) := by
  induction texts with
  | nil => trivial
  | cons t texts ih => exact ⟨List.cons_ne_nil _ _, nofun, ih⟩

/-- Operands have no values to be joined. -/
theorem joinValues_map_ofOperand (texts : List Text) : joinValues (texts.map ofOperand) = texts.map ofOperand := by
  induction texts with
  | nil => rfl
  | cons t texts ih => rw [List.map_cons, joinValues_cons (by simp [ofOperand]), ih]

/-- The separator and operands behind it have no values to be joined. -/
theorem joinValues_separated (texts : List Text) :
    joinValues (⟨[separator], .separator⟩ :: texts.map ofOperand) = ⟨[separator], .separator⟩ :: texts.map ofOperand := by
  rw [joinValues_cons (by simp), joinValues_map_ofOperand]

theorem flatMap_texts_ofOperand (texts : List Text) : (texts.map ofOperand).flatMap (·.texts) = texts := by
  induction texts with
  | nil => rfl
  | cons t texts ih => exact congrArg (t :: ·) ih

theorem flatMap_operands_ofOperand (texts : List Text) : (texts.map ofOperand).flatMap operands = texts := by
  induction texts with
  | nil => rfl
  | cons t texts ih => exact congrArg (t :: ·) ih

theorem flatMap_flags_ofOperand (texts : List Text) : (texts.map ofOperand).flatMap flags = [] := by
  induction texts with
  | nil => rfl
  | cons t texts ih => exact ih

/-- The words of a scope hold the texts that they are made of, in order. -/
theorem stand_of_words : ∀ {texts arguments}, s.words texts = .ok arguments →
    Stand arguments ∧ arguments.flatMap (·.texts) = texts := by
  intro texts
  induction texts with
  | nil =>
    intro arguments h
    cases h
    exact ⟨trivial, rfl⟩
  | cons t texts ih =>
    intro arguments h
    unfold Scope.words at h
    split at h
    · next hseparator =>
      subst hseparator
      cases h
      exact ⟨⟨List.cons_ne_nil _ _, fun _ => ⟨texts, rfl⟩, stand_map_ofOperand texts⟩,
        congrArg (separator :: ·) (flatMap_texts_ofOperand texts)⟩
    · next hseparator =>
      obtain ⟨w, hw, h⟩ := Outcome.bind_ok_iff.1 h
      obtain ⟨rest, hrest, h⟩ := Outcome.bind_ok_iff.1 h
      cases h
      obtain ⟨hstand, htexts⟩ := ih hrest
      refine ⟨⟨List.cons_ne_nil _ _, fun hword => ?_, hstand⟩, congrArg (t :: ·) htexts⟩
      obtain rfl : w = .separator := hword
      exact absurd hw s.word_ne_separator

/-- Operands are not joined to anything. -/
theorem Joins.eq_of_operands : ∀ {texts : List Text} {joined : List Argument}, Joins (texts.map ofOperand) joined →
    joined = texts.map ofOperand := by
  intro texts
  induction texts with
  | nil =>
    intro joined h
    cases h
    rfl
  | cons t texts ih =>
    intro joined h
    generalize hoperands : (t :: texts).map ofOperand = operands at h
    cases h with
    | nil => cases hoperands
    | apart h =>
      obtain ⟨rfl, rfl⟩ := List.cons.inj hoperands
      exact congrArg (ofOperand t :: ·) (ih h)
    | joined hflag =>
      obtain ⟨rfl, _⟩ := List.cons.inj hoperands
      cases hflag

/-- Joining the values to their flags leaves the texts in their order. -/
theorem Joins.stand {joined : List Argument} (h : Joins arguments joined) (hstand : Stand arguments) :
    Stand joined ∧ joined.flatMap (·.texts) = arguments.flatMap (·.texts) := by
  induction h with
  | nil => exact ⟨trivial, rfl⟩
  | @apart a rest rest' hjoins ih =>
    obtain ⟨ha, hseparator, hrest⟩ := hstand
    obtain ⟨hstand', htexts⟩ := ih hrest
    refine ⟨⟨ha, fun hword => ?_, hstand'⟩, congrArg (a.texts ++ ·) htexts⟩
    -- behind the separator there is nothing to be joined
    obtain ⟨texts, rfl⟩ := hseparator hword
    exact ⟨texts, hjoins.eq_of_operands⟩
  | joined hflag _ _ ih =>
    obtain ⟨ha, _, _, _, hrest⟩ := hstand
    obtain ⟨hstand', htexts⟩ := ih hrest
    refine ⟨⟨fun h => ha (List.append_eq_nil_iff.1 h).1, nofun, hstand'⟩, ?_⟩
    simp only [List.flatMap_cons, htexts, List.append_assoc]

/-- The arguments of a scope hold the texts that they are read from, in order. -/
theorem stand_of_read (h : read s texts = .ok arguments) : Stand arguments ∧ arguments.flatMap (·.texts) = texts := by
  obtain ⟨separate, hseparate, rfl⟩ := Outcome.map_ok_iff.1 h
  obtain ⟨hstand, htexts⟩ := stand_of_words hseparate
  obtain ⟨hstand', htexts'⟩ := (joins_joinValues separate).stand hstand
  exact ⟨hstand', htexts'.trans htexts⟩

/-- Every argument has a text. -/
theorem Stand.texts_ne_nil (h : Stand arguments) : ∀ a ∈ arguments, a.texts ≠ [] := by
  induction arguments with
  | nil => exact nofun
  | cons a arguments ih => exact List.forall_mem_cons.2 ⟨h.1, ih h.2.2⟩

/-- What stands behind arguments stands too. -/
theorem Stand.of_append {front rest : List Argument} (h : Stand (front ++ rest)) : Stand rest := by
  induction front with
  | nil => exact h
  | cons a front ih => exact ih h.2.2

end Argument

end Descriptors.CommandLine
