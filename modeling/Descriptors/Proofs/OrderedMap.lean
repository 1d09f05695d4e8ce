import Descriptors.OrderedMap
import Mathlib.Data.List.Nodup

/-!
# What writing to an ordered map leaves

Statements about `Entries.put` and `Entries.putAll` through the two views of a map: its keys in order, and the value under
each key. A value that is written hides an older one under the same key and leaves every other key alone
(`Entries.get?_put`); of pairs written one after the other, the last one under a key counts (`Entries.get?_putAll`). Writing
pairs without a repeated key to the empty map gives those pairs (`Entries.putAll_nil`).
-/

namespace Descriptors

/-- Where no key comes twice, the value under a key is the one that it is paired with. -/
theorem lookup_eq_some_iff_mem {κ α : Type} [BEq κ] [LawfulBEq κ] {k : κ} {v : α} {es : List (κ × α)}
    (h : (es.map Prod.fst).Nodup) : es.lookup k = some v ↔ (k, v) ∈ es := by
  induction es with
  | nil => simp
  | cons e es ih =>
    obtain ⟨k', v'⟩ := e
    obtain ⟨hnew, hes⟩ := List.nodup_cons.1 (show (k' :: es.map Prod.fst).Nodup from h)
    rw [List.lookup_cons, List.mem_cons, Prod.mk.injEq]
    by_cases hk : k = k'
    · subst hk
      have hv : (k, v) ∉ es := fun hv => hnew (List.mem_map_of_mem hv)
      simp [hv, eq_comm]
    · simp [hk, beq_eq_false_iff_ne.2 hk, ih hes]

namespace Entries

variable {α β : Type}

/-! ## The value under a key -/

/-- The value under a key is that of the first pair with the key. -/
theorem get?_cons (k : Text) (e : Text × α) (es : Entries α) :
    get? k (e :: es) = if k = e.1 then some e.2 else get? k es := by
  obtain ⟨k', v'⟩ := e
  by_cases h : k = k'
  · simp [get?, h]
  · simp [get?, List.lookup_cons, beq_eq_false_iff_ne.2 h, h]

/-- A key without a value is no key. -/
theorem get?_eq_none_iff {k : Text} {es : Entries α} : get? k es = none ↔ k ∉ keys es := by
  induction es with
  | nil => simp [get?, keys]
  | cons e es ih =>
    have hkeys : keys (e :: es) = e.1 :: keys es := rfl
    rw [get?_cons, hkeys, List.mem_cons]
    by_cases h : k = e.1 <;> simp [h, ih]

/-- Where no key comes twice, the value under a key is the one that it is paired with. -/
theorem get?_eq_some_iff {k : Text} {v : α} {es : Entries α} (h : (keys es).Nodup) : get? k es = some v ↔ (k, v) ∈ es :=
  lookup_eq_some_iff_mem h

/-- The values of a map changed one by one. -/
theorem get?_map (f : α → β) (k : Text) (es : Entries α) :
    get? k (es.map fun e => (e.1, f e.2)) = (get? k es).map f := by
  induction es with
  | nil => rfl
  | cons e es ih =>
    rw [List.map_cons, get?_cons, get?_cons, ih]
    split <;> rfl

/-- Where no key comes twice, a pair that is kept is found under its key, and a pair that is not leaves its key empty. -/
theorem get?_filter (p : Text × α → Bool) (k : Text) {es : Entries α} (h : (keys es).Nodup) :
    get? k (es.filter p) = (get? k es).filter fun v => p (k, v) := by
  induction es with
  | nil => rfl
  | cons e es ih =>
    obtain ⟨k', v⟩ := e
    obtain ⟨hnew, hes⟩ := List.nodup_cons.1 (show (k' :: keys es).Nodup from h)
    by_cases hk : k = k'
    · subst hk
      have hnone : get? k (es.filter p) = none := by rw [ih hes, get?_eq_none_iff.2 hnew, Option.filter_none]
      by_cases hp : p (k, v)
      · rw [List.filter_cons_of_pos hp, get?_cons, get?_cons, if_pos rfl, if_pos rfl, Option.filter_some, if_pos hp]
      · rw [List.filter_cons_of_neg hp, get?_cons, if_pos rfl, Option.filter_some, if_neg hp, hnone]
    · rw [get?_cons, if_neg hk, ← ih hes]
      by_cases hp : p (k', v)
      · rw [List.filter_cons_of_pos hp, get?_cons, if_neg hk]
      · rw [List.filter_cons_of_neg hp]

/-- Of pairs that are put together, the first list with the key counts. -/
theorem get?_flatMap (f : β → Entries α) (k : Text) (xs : List β) :
    get? k (xs.flatMap f) = xs.findSome? fun x => get? k (f x) := by
  induction xs with
  | nil => rfl
  | cons x xs ih =>
    have happend : get? k (f x ++ xs.flatMap f) = (get? k (f x)).or (get? k (xs.flatMap f)) := List.lookup_append
    rw [List.flatMap_cons, happend, ih, List.findSome?_cons]
    cases get? k (f x) <;> rfl

/-- Changing the values leaves the keys. -/
theorem keys_map (f : α → β) (es : Entries α) : keys (es.map fun e => (e.1, f e.2)) = keys es := by
  simp [keys]

/-- A value that is written is found under its key, and every other key has what it had. -/
theorem get?_put (k k' : Text) (v : α) (es : Entries α) :
    get? k' (put k v es) = if k' = k then some v else get? k' es := by
  induction es with
  | nil => rw [put, get?_cons]
  | cons e es ih =>
    obtain ⟨k₀, v₀⟩ := e
    by_cases h₀ : k₀ = k
    · subst h₀
      rw [put, if_pos rfl, get?_cons, get?_cons]
      split <;> rfl
    · rw [put, if_neg h₀, get?_cons, get?_cons, ih]
      by_cases h : k' = k₀
      · simp [h, h₀]
      · simp [h]

/-- Of the pairs written under a key the last one counts; a key that none of them has keeps its value. -/
theorem get?_putAll (k : Text) (pairs : Entries α) :
    ∀ es : Entries α, get? k (putAll es pairs) = (get? k pairs.reverse).or (get? k es) := by
  induction pairs with
  | nil => intro es; rfl
  | cons p pairs ih =>
    intro es
    have hstep : putAll es (p :: pairs) = putAll (put p.1 p.2 es) pairs := rfl
    have happ : get? k (pairs.reverse ++ [p]) = (get? k pairs.reverse).or (get? k [p]) := List.lookup_append
    have hlast : get? k [p] = if k = p.1 then some p.2 else none := get?_cons k p []
    rw [hstep, ih, get?_put, List.reverse_cons, happ, Option.or_assoc, hlast]
    congr 1
    split <;> rfl

/-- Where no key comes twice, the order of the pairs does not count for the value under a key. -/
theorem get?_reverse (k : Text) {es : Entries α} (h : (keys es).Nodup) : get? k es.reverse = get? k es := by
  have hrev : (keys es.reverse).Nodup := by
    rw [keys, List.map_reverse, List.nodup_reverse]
    exact h
  apply Option.ext
  intro v
  rw [get?_eq_some_iff hrev, get?_eq_some_iff h, List.mem_reverse]

/-! ## The keys in order -/

/-- The keys of a map after a key is written. -/
def addKey (ks : List Text) (k : Text) : List Text := if ks.contains k then ks else ks ++ [k]

/-- A key that is there is not added. -/
theorem addKey_eq (ks : List Text) (k : Text) : addKey ks k = if k ∈ ks then ks else ks ++ [k] := by
  simp [addKey]

/-- Keys written one after the other: the new ones go to the end, each once, in the order in which they first come. -/
theorem foldl_addKey (new : List Text) : ∀ ks, new.foldl addKey ks = ks ++ (new.filter (· ∉ ks)).eraseDups := by
  induction new with
  | nil => intro ks; simp
  | cons k new ih =>
    intro ks
    rw [List.foldl_cons, ih, addKey_eq]
    by_cases hk : k ∈ ks
    · simp [hk]
    · have hnew : new.filter (· ∉ ks ++ [k]) = (new.filter (· ∉ ks)).filter (!· == k) := by
        rw [List.filter_filter]
        refine List.filter_congr fun k' _ => ?_
        rw [Bool.eq_iff_iff]
        simp [and_comm]
      rw [if_neg hk, hnew, List.filter_cons_of_pos (by simpa using hk), List.eraseDups_cons, List.append_assoc,
        List.singleton_append]

/-- Writing pairs adds the new keys at the end, each once, in the order of their first pairs. -/
theorem keys_putAll_eraseDups (pairs : Entries α) (es : Entries α) :
    keys (putAll es pairs) = keys es ++ ((keys pairs).filter (· ∉ keys es)).eraseDups := by
  have hkeys : keys pairs = pairs.map Prod.fst := rfl
  have hput : ∀ (es : Entries α) (p : Text × α), addKey (keys es) p.1 = keys (put p.1 p.2 es) := fun es p =>
    (addKey_eq _ _).trans (keys_put p.1 p.2 es).symm
  rw [← foldl_addKey, hkeys, List.foldl_map, putAll]
  exact (List.foldl_hom keys hput).symm

/-- A list without repetition has none to lose. -/
theorem eraseDups_of_nodup {ks : List Text} (h : ks.Nodup) : ks.eraseDups = ks := by
  induction ks with
  | nil => rfl
  | cons k ks ih =>
    obtain ⟨hk, hks⟩ := List.nodup_cons.1 h
    have hkeep : ks.filter (!· == k) = ks := List.filter_eq_self.2 fun k' hk' => by
      have hne : k' ≠ k := fun e => hk (e ▸ hk')
      simpa using hne
    rw [List.eraseDups_cons, hkeep, ih hks]

/-- Writing pairs under distinct keys adds the new keys at the end, in the order of the pairs. -/
theorem keys_putAll {pairs : Entries α} (h : (keys pairs).Nodup) (es : Entries α) :
    keys (putAll es pairs) = keys es ++ (keys pairs).filter (· ∉ keys es) := by
  rw [keys_putAll_eraseDups, eraseDups_of_nodup (h.filter _)]

/-! ## The pairs -/

/-- A pair of a map after a write is the written one or was there. -/
theorem mem_put {k : Text} {v : α} {es : Entries α} {e : Text × α} (h : e ∈ put k v es) : e = (k, v) ∨ e ∈ es := by
  induction es with
  | nil => exact Or.inl (List.mem_singleton.1 h)
  | cons e' es ih =>
    unfold put at h
    split at h
    · rcases List.mem_cons.1 h with h | h
      · exact Or.inl h
      · exact Or.inr (List.mem_cons_of_mem _ h)
    · rcases List.mem_cons.1 h with h | h
      · exact Or.inr (h ▸ List.mem_cons_self)
      · exact (ih h).imp id (List.mem_cons_of_mem _)

/-- A pair of a map after many writes is one of the written ones or was there. -/
theorem mem_putAll {pairs : Entries α} {e : Text × α} :
    ∀ {es : Entries α}, e ∈ putAll es pairs → e ∈ es ∨ e ∈ pairs := by
  induction pairs with
  | nil => exact fun h => Or.inl h
  | cons p pairs ih =>
    intro es h
    rcases ih h with h | h
    · exact (mem_put h).elim (fun h => Or.inr (h ▸ List.mem_cons_self)) Or.inl
    · exact Or.inr (List.mem_cons_of_mem p h)

/-- A key that is not there goes to the end. -/
theorem put_of_notMem {k : Text} (v : α) {es : Entries α} (h : k ∉ keys es) : put k v es = es ++ [(k, v)] := by
  induction es with
  | nil => rfl
  | cons e es ih =>
    obtain ⟨hk, hes⟩ := not_or.1 (fun hk => h (List.mem_cons.2 hk))
    rw [put, if_neg (fun e' => hk e'.symm), ih hes, List.cons_append]

/-- Where no key comes twice, that of a pair does not stand before it. -/
theorem notMem_keys_of_nodup {p : Text × α} {es pairs : Entries α} (h : (keys (es ++ p :: pairs)).Nodup) : p.1 ∉ keys es := by
  rw [keys, List.map_append, List.nodup_append] at h
  intro hp
  exact h.2.2 _ hp _ (by simp) rfl

/-- Pairs whose keys are new and distinct are written one after the other at the end. -/
theorem putAll_append {pairs : Entries α} : ∀ {es : Entries α}, (keys (es ++ pairs)).Nodup → putAll es pairs = es ++ pairs := by
  induction pairs with
  | nil => intro es _; simp [putAll]
  | cons p pairs ih =>
    intro es h
    have hsplit : es ++ p :: pairs = es ++ [p] ++ pairs := by simp
    have hp : p.1 ∉ keys es := notMem_keys_of_nodup h
    have hstep : putAll es (p :: pairs) = putAll (put p.1 p.2 es) pairs := rfl
    rw [hsplit] at h ⊢
    rw [hstep, put_of_notMem p.2 hp, ih h]

/-- Pairs under distinct keys are a map as they stand. -/
theorem putAll_nil {pairs : Entries α} (h : (keys pairs).Nodup) : putAll [] pairs = pairs :=
  putAll_append h

end Entries

/-! ## Maps -/

namespace OrderedMap

variable {α : Type}

/-- A value that is written is found under its key, and every other key has what it had. -/
theorem get?_put (m : OrderedMap α) (k k' : Text) (v : α) : (m.put k v).get? k' = if k' = k then some v else m.get? k' :=
  Entries.get?_put k k' v m.entries

/-- Writing a key adds it at the end, or leaves the keys as they are. -/
theorem keys_put (m : OrderedMap α) (k : Text) (v : α) : (m.put k v).keys = if k ∈ m.keys then m.keys else m.keys ++ [k] :=
  Entries.keys_put k v m.entries

/-- A key without a value is no key. -/
theorem get?_eq_none_iff {m : OrderedMap α} {k : Text} : m.get? k = none ↔ k ∉ m.keys :=
  Entries.get?_eq_none_iff

/-! ## Writing only what is new -/

/-- Writes pair after pair, but leaves the keys that are there as they are: of a key that comes twice, the first value. -/
def putNewAll (m : OrderedMap α) (pairs : Entries α) : OrderedMap α := pairs.foldl (fun m p => m.putNew p.1 p.2) m

/-- A new value is written under a key that is not there, and every other key has what it had. -/
theorem get?_putNew (m : OrderedMap α) (k k' : Text) (v : α) :
    (m.putNew k v).get? k' = (m.get? k').or (if k' = k then some v else none) := by
  unfold putNew
  cases hk : m.get? k with
  | none =>
    rw [if_neg (by simp), get?_put]
    by_cases h : k' = k
    · simp [h, hk]
    · simp [h]
  | some w =>
    rw [if_pos (by simp)]
    by_cases h : k' = k
    · simp [h, hk]
    · simp [h]

/-- Writing a new value adds its key at the end, or leaves the keys as they are. -/
theorem keys_putNew (m : OrderedMap α) (k : Text) (v : α) : (m.putNew k v).keys = Entries.addKey m.keys k := by
  rw [putNew, Entries.addKey_eq]
  by_cases hk : k ∈ m.keys
  · rw [if_pos (Option.isSome_iff_ne_none.2 (mt get?_eq_none_iff.1 (not_not_intro hk))), if_pos hk]
  · rw [if_neg (by simp [get?_eq_none_iff.2 hk]), if_neg hk, keys_put, if_neg hk]

/-- Of the pairs under a key the first one counts, where the map has no value under it. -/
theorem get?_putNewAll (k : Text) (pairs : Entries α) :
    ∀ m : OrderedMap α, (m.putNewAll pairs).get? k = (m.get? k).or (Entries.get? k pairs) := by
  induction pairs with
  | nil => exact fun m => (Option.or_none).symm
  | cons p pairs ih =>
    intro m
    have hstep : m.putNewAll (p :: pairs) = (m.putNew p.1 p.2).putNewAll pairs := rfl
    rw [hstep, ih, get?_putNew, Option.or_assoc, Entries.get?_cons]
    congr 1
    split <;> rfl

/-- The new keys go to the end, each once, in the order of their first pairs. -/
theorem keys_putNewAll (pairs : Entries α) (m : OrderedMap α) :
    (m.putNewAll pairs).keys = m.keys ++ ((Entries.keys pairs).filter (· ∉ m.keys)).eraseDups := by
  rw [← Entries.foldl_addKey, Entries.keys, List.foldl_map, putNewAll]
  exact (List.foldl_hom keys fun m p => (keys_putNew m p.1 p.2).symm).symm

/-- Pairs whose keys are new and distinct go to the end as they stand. -/
theorem entries_putNewAll {pairs : Entries α} :
    ∀ {m : OrderedMap α}, (Entries.keys (m.entries ++ pairs)).Nodup → (m.putNewAll pairs).entries = m.entries ++ pairs := by
  induction pairs with
  | nil => exact fun _ => (List.append_nil _).symm
  | cons p pairs ih =>
    intro m h
    have hsplit : m.entries ++ p :: pairs = m.entries ++ [p] ++ pairs := by simp
    have hp : p.1 ∉ m.keys := Entries.notMem_keys_of_nodup h
    have hput : (m.putNew p.1 p.2).entries = m.entries ++ [p] := by
      rw [putNew, if_neg (by simp [get?_eq_none_iff.2 hp])]
      exact Entries.put_of_notMem p.2 hp
    have hstep : m.putNewAll (p :: pairs) = (m.putNew p.1 p.2).putNewAll pairs := rfl
    rw [hsplit, ← hput] at h
    rw [hsplit, ← hput, hstep, ih h]

end OrderedMap

end Descriptors
