import Mathlib.Data.List.Forall2

/-!
# How a step in sequence ends

A computation that gives a result or a fault, followed by a step that gives its own or by a change of the result, or done for
each of a list in turn. Each lemma says what has happened where the whole ends in one of the two ways. Two computations end alike
(`Outcome.Alike`) when they give the same result, or faults that are related.
-/

namespace Descriptors.Outcome

variable {ε α β : Type} {x : Except ε α} {b : β} {fault : ε}

/-- Two steps give a result when the first gives one from which the second does. -/
theorem bind_ok_iff {f : α → Except ε β} : (x >>= f) = .ok b ↔ ∃ a, x = .ok a ∧ f a = .ok b := by
  cases x <;> simp [bind, Except.bind]

/-- Two steps end in a fault of the first or of the second. -/
theorem bind_error_iff {f : α → Except ε β} :
    (x >>= f) = .error fault ↔ x = .error fault ∨ ∃ a, x = .ok a ∧ f a = .error fault := by
  cases x <;> simp [bind, Except.bind]

/-- A changed result comes from a result. -/
theorem map_ok_iff {f : α → β} : x.map f = .ok b ↔ ∃ a, x = .ok a ∧ f a = b := by
  cases x <;> simp [Except.map]

/-- A change of the result leaves the faults as they are. -/
theorem map_error_iff {f : α → β} : x.map f = .error fault ↔ x = .error fault := by
  cases x <;> simp [Except.map]

/-- A step done for each of a list gives results when it does for every one: one result each, in order. -/
theorem mapM_ok_iff {f : α → Except ε β} {xs : List α} : ∀ {ys : List β},
    xs.mapM f = .ok ys ↔ List.Forall₂ (fun x y => f x = .ok y) xs ys := by
  induction xs with
  | nil =>
    intro ys
    rw [List.mapM_nil, List.forall₂_nil_left_iff]
    exact ⟨fun h => (Except.ok.inj h).symm, fun h => h ▸ rfl⟩
  | cons x xs ih =>
    intro ys
    rw [List.mapM_cons, bind_ok_iff, List.forall₂_cons_left_iff]
    refine exists_congr fun y => ?_
    rw [bind_ok_iff]
    constructor
    · rintro ⟨hy, zs, hzs, h⟩
      exact ⟨zs, hy, ih.1 hzs, (Except.ok.inj h).symm⟩
    · rintro ⟨zs, hy, hzs, rfl⟩
      exact ⟨hy, zs, ih.2 hzs, rfl⟩

/-- A step done for each of a list ends in a fault with the first one for which it does. -/
theorem mapM_error_iff {f : α → Except ε β} {xs : List α} :
    xs.mapM f = .error fault ↔
      ∃ passed x rest, xs = passed ++ x :: rest ∧ (∀ p ∈ passed, ∃ y, f p = .ok y) ∧ f x = .error fault := by
  induction xs with
  | nil => simp [pure, Except.pure]
  | cons x xs ih =>
    rw [List.mapM_cons, bind_error_iff]
    constructor
    · rintro (h | ⟨y, hy, h⟩)
      · exact ⟨[], x, xs, rfl, by simp, h⟩
      · rcases bind_error_iff.1 h with h | ⟨ys, _, h⟩
        · obtain ⟨passed, x', rest, rfl, hpassed, hx'⟩ := ih.1 h
          exact ⟨x :: passed, x', rest, rfl, List.forall_mem_cons.2 ⟨⟨y, hy⟩, hpassed⟩, hx'⟩
        · cases h
    · rintro ⟨passed, x', rest, h, hpassed, hx'⟩
      cases passed with
      | nil =>
        obtain ⟨rfl, rfl⟩ := List.cons.inj h
        exact Or.inl hx'
      | cons p passed =>
        obtain ⟨rfl, rfl⟩ := List.cons.inj h
        obtain ⟨⟨y, hy⟩, hpassed⟩ := List.forall_mem_cons.1 hpassed
        exact Or.inr ⟨y, hy, bind_error_iff.2 (Or.inl (ih.2 ⟨passed, x', rest, rfl, hpassed, hx'⟩))⟩

/-- Steps of a list end in a fault of one of them. -/
theorem foldlM_error {f : β → α → Except ε β} {xs : List α} :
    ∀ {b}, xs.foldlM f b = .error fault → ∃ b', ∃ x ∈ xs, f b' x = .error fault := by
  induction xs with
  | nil => exact fun h => nomatch h
  | cons x xs ih =>
    intro b h
    rw [List.foldlM_cons] at h
    rcases bind_error_iff.1 h with h | ⟨c, _, h⟩
    · exact ⟨b, x, List.mem_cons_self, h⟩
    · obtain ⟨b', y, hy, h⟩ := ih h
      exact ⟨b', y, List.mem_cons_of_mem x hy, h⟩

/-! ## Computations that end alike -/

/-- Two computations that end alike: with the same result, or in faults that are related. -/
inductive Alike {ε δ α : Type} (related : ε → δ → Prop) : Except ε α → Except δ α → Prop where
  | ok (a : α) : Alike related (.ok a) (.ok a)
  | error {e : ε} {d : δ} : related e d → Alike related (.error e) (.error d)

/-- A computation ends like itself. -/
theorem Alike.refl {related : ε → ε → Prop} (hrefl : ∀ e, related e e) (x : Except ε α) : Alike related x x := by
  cases x with
  | ok a => exact .ok a
  | error e => exact .error (hrefl e)

/-- What goes on from a result goes on from both. -/
theorem Alike.bind {related : ε → ε → Prop} (hrefl : ∀ e, related e e) {x y : Except ε α} (h : Alike related x y)
    (f : α → Except ε β) : Alike related (x >>= f) (y >>= f) := by
  cases h with
  | ok a => exact Alike.refl hrefl (f a)
  | error h => exact .error h

/-- A change of the result changes both. -/
theorem Alike.map {δ : Type} {related : ε → δ → Prop} {x : Except ε α} {y : Except δ α} (h : Alike related x y) (f : α → β) :
    Alike related (x.map f) (y.map f) := by
  cases h with
  | ok a => exact .ok (f a)
  | error h => exact .error h

end Descriptors.Outcome
