import Descriptors.Text

/-!
# Maps in the order of writing

Objects, rows and summaries are maps from texts whose order is shown. `Entries` is the bare list of pairs; writing a key that
is there keeps its place and changes its value, a new key goes to the end. `OrderedMap` is such a list in which every key
stands once, and each operation that makes one keeps it so (`Entries.keys_put`).
-/

namespace Descriptors

/-- Pairs of a key and a value, in order. -/
abbrev Entries (α : Type) : Type := List (Text × α)

namespace Entries

variable {α : Type}

/-- The keys, in order. -/
def keys (es : Entries α) : List Text := es.map Prod.fst

/-- Writes a value: in place where the key is there, else at the end. -/
def put (k : Text) (v : α) : Entries α → Entries α
  | [] => [(k, v)]
  | (k', v') :: es => if k' = k then (k, v) :: es else (k', v') :: put k v es

/-- Writes pair after pair: of a key that comes twice, the last value at the first place. -/
def putAll (es pairs : Entries α) : Entries α := pairs.foldl (fun es p => put p.1 p.2 es) es

/-- The first value under a key. -/
def get? (k : Text) (es : Entries α) : Option α := es.lookup k

/-- Writing a key adds it at the end, or leaves the keys as they are. -/
theorem keys_put (k : Text) (v : α) (es : Entries α) :
    keys (put k v es) = if k ∈ keys es then keys es else keys es ++ [k] := by
  induction es with
  | nil => rfl
  | cons e es ih =>
    obtain ⟨k', v'⟩ := e
    by_cases h : k' = k
    · subst h
      simp [put, keys]
    · have h' : ¬ k = k' := fun e => h e.symm
      simp only [keys] at ih
      simp only [put, keys, if_neg h, List.map_cons, List.mem_cons, h', false_or, ih]
      by_cases hk : k ∈ es.map Prod.fst <;> simp [hk]

/-- Writing a key keeps every key in one place. -/
theorem nodup_keys_put (k : Text) (v : α) {es : Entries α} (h : (keys es).Nodup) : (keys (put k v es)).Nodup := by
  rw [keys_put]
  split
  · exact h
  · next hk =>
    rw [List.nodup_append]
    exact ⟨h, by simp, by rintro a ha b hb rfl; simp only [List.mem_singleton] at hb; exact hk (hb ▸ ha)⟩

/-- Writing any number of pairs keeps every key in one place. -/
theorem nodup_keys_putAll (pairs : Entries α) :
    ∀ {es : Entries α}, (keys es).Nodup → (keys (putAll es pairs)).Nodup := by
  induction pairs with
  | nil => exact fun h => h
  | cons p ps ih => exact fun h => ih (nodup_keys_put p.1 p.2 h)

end Entries

/-- A map from texts in the order of writing. -/
structure OrderedMap (α : Type) where
  /-- The pairs, in order. -/
  entries : Entries α
  /-- No key stands twice. -/
  distinct : entries.keys.Nodup

namespace OrderedMap

variable {α : Type}

/-- Maps with the same pairs in the same order are equal. -/
@[ext] theorem ext {m n : OrderedMap α} (h : m.entries = n.entries) : m = n := by
  cases m
  cases n
  cases h
  rfl

/-- The map without keys. -/
def empty : OrderedMap α := ⟨[], List.nodup_nil⟩

/-- The keys, in order. -/
def keys (m : OrderedMap α) : List Text := m.entries.keys

/-- The value under a key. -/
def get? (m : OrderedMap α) (k : Text) : Option α := Entries.get? k m.entries

/-- Writes a value: in place where the key is there, else at the end. -/
def put (m : OrderedMap α) (k : Text) (v : α) : OrderedMap α :=
  ⟨m.entries.put k v, Entries.nodup_keys_put k v m.distinct⟩

/-- Writes pair after pair. -/
def putAll (m : OrderedMap α) (pairs : Entries α) : OrderedMap α :=
  ⟨m.entries.putAll pairs, Entries.nodup_keys_putAll pairs m.distinct⟩

/-- The map that arises from writing pair after pair. -/
def ofPairs (pairs : Entries α) : OrderedMap α := empty.putAll pairs

/-- Writes a value unless the key is there. -/
def putNew (m : OrderedMap α) (k : Text) (v : α) : OrderedMap α := if (m.get? k).isSome then m else m.put k v

end OrderedMap

end Descriptors
