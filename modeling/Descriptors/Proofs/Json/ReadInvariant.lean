import Descriptors.Json.Reader
import Descriptors.Proofs.Json.Literals
import Descriptors.Proofs.OrderedMap
import Descriptors.Proofs.Outcome

/-!
# What holds of every value that is read

A property of JSON values that holds of every scalar and passes from its parts to an array, and to an object in which no key
comes twice, holds of everything that `Json.read` gives (`Json.Inherited.of_read`). The proof follows the reader: the items and
pairs of one container by the bound, the containers by the depth. So the property may speak of the depth that is left for a
value, and of its integers it need only take those that are not too long (`Json.InheritedAt`). The first inherited property is
that no key comes twice at any depth (`Json.keysDistinct_of_read`), and of every value of that kind, read or not, such a property
holds as well (`Json.Inherited.of_keysDistinct`).
-/

namespace Descriptors.Json

/-- A property that holds of scalars and passes from the parts to the whole, in objects without a repeated key. -/
structure Inherited (P : Json → Prop) : Prop where
  null : P .null
  bool : ∀ b, P (.bool b)
  int : ∀ n, P (.int n)
  float : ∀ x, P (.float x)
  string : ∀ t, P (.string t)
  array : ∀ items, (∀ v ∈ items, P v) → P (.array items)
  object : ∀ entries, (Entries.keys entries).Nodup → (∀ e ∈ entries, P e.2) → P (.object entries)

/-- A property of values and of the depth that is left for them: it holds of scalars at any depth, of integers as far as their
digits are read, and passes from the parts to the whole one level above them. -/
structure InheritedAt (P : Nat → Json → Prop) : Prop where
  null : ∀ depth, P depth .null
  bool : ∀ depth b, P depth (.bool b)
  int : ∀ depth n, (Decimal.digits n.natAbs).length ≤ greatestDigits → P depth (.int n)
  float : ∀ depth x, P depth (.float x)
  string : ∀ depth t, P depth (.string t)
  array : ∀ depth items, (∀ v ∈ items, P depth v) → P (depth + 1) (.array items)
  object : ∀ depth entries, (Entries.keys entries).Nodup → (∀ e ∈ entries, P depth e.2) → P (depth + 1) (.object entries)

/-- A reader all of whose values have a property. -/
def Gives (P : Json → Prop) (reader : Text → Reading Json) : Prop := ∀ t v rest, reader t = .ok (v, rest) → P v

variable {P : Json → Prop} {Q : Nat → Json → Prop} {readOne : Text → Reading Json} {bound depth : Nat} {t rest : Text}
  {v : Json}

/-- An inherited property is inherited at every depth. -/
theorem Inherited.at (hP : Inherited P) : InheritedAt fun _ => P where
  null _ := hP.null
  bool _ := hP.bool
  int _ n _ := hP.int n
  float _ := hP.float
  string _ := hP.string
  array _ := hP.array
  object _ := hP.object

/-! ## Scalars -/

/-- A word stands for a scalar. -/
theorem InheritedAt.of_readWord? (hQ : InheritedAt Q) (depth : Nat) (h : readWord? t = some (v, rest)) : Q depth v := by
  obtain ⟨w, hw, hrest⟩ := List.exists_of_findSome?_eq_some h
  obtain ⟨_, _, hv⟩ := Option.map_eq_some_iff.1 hrest
  obtain rfl : w.2 = v := congrArg Prod.fst hv
  simp only [words, List.mem_cons, List.not_mem_nil, or_false] at hw
  rcases hw with rfl | rfl | rfl | rfl | rfl | rfl
  · exact hQ.null depth
  · exact hQ.bool depth true
  · exact hQ.bool depth false
  · exact hQ.float depth _
  · exact hQ.float depth _
  · exact hQ.float depth _

/-- A number is an integer or a float. -/
theorem InheritedAt.of_readNumber (hQ : InheritedAt Q) (depth : Nat) (h : readNumber t = .ok (v, rest)) : Q depth v := by
  have hmagnitude : ∀ {negative : Bool} {t' : Text},
      (readMagnitude negative t').getD (complain .valueExpected t) = .ok (v, rest) → Q depth v := by
    intro negative t' h
    cases hm : readMagnitude negative t' with
    | none => rw [hm] at h; cases h
    | some r =>
      rw [hm, Option.getD_some] at h
      rcases length_digits_of_readMagnitude (h ▸ hm) with ⟨n, rfl, hn⟩ | ⟨x, rfl⟩
      · exact hQ.int depth n hn
      · exact hQ.float depth x
  unfold readNumber at h
  dsimp only at h
  split at h
  · exact hmagnitude h
  · exact hmagnitude h

/-! ## Containers -/

/-- The items of an array that is read have what the reader of one item gives, those passed before included. -/
theorem Gives.items (hone : Gives P readOne) : ∀ {bound : Nat} {passed : List Json} {t : Text} {items : List Json},
    (∀ v ∈ passed, P v) → readItems readOne bound passed t = .ok (items, rest) → ∀ v ∈ items, P v := by
  intro bound
  induction bound with
  | zero => intro passed t items _ h; cases h
  | succ bound ih =>
    intro passed t items hpassed h
    unfold readItems at h
    split at h
    · cases h
    · next v afterItem hv =>
      have hall : ∀ w ∈ v :: passed, P w := List.forall_mem_cons.2 ⟨hone _ _ _ hv, hpassed⟩
      split at h
      · exact ih hall h
      · cases h
        exact fun w hw => hall w (List.mem_reverse.1 hw)
      · cases h

/-- The values of the pairs of an object that is read have what the reader of one value gives, those passed before included. -/
theorem Gives.pairs (hone : Gives P readOne) :
    ∀ {bound : Nat} {passed : Entries Json} {t : Text} {pairs : Entries Json},
      (∀ e ∈ passed, P e.2) → readPairs readOne bound passed t = .ok (pairs, rest) → ∀ e ∈ pairs, P e.2 := by
  intro bound
  induction bound with
  | zero => intro passed t pairs _ h; cases h
  | succ bound ih =>
    intro passed t pairs hpassed h
    unfold readPairs at h
    split at h
    · split at h
      · cases h
      · next key afterKey _ =>
        split at h
        · split at h
          · cases h
          · next v afterValue hv =>
            have hall : ∀ e ∈ (key, v) :: passed, P e.2 := List.forall_mem_cons.2 ⟨hone _ _ _ hv, hpassed⟩
            split at h
            · exact ih hall h
            · cases h
              exact fun e he => hall e (List.mem_reverse.1 he)
            · cases h
        · cases h
    · cases h

/-- An array inherits from its items. -/
theorem InheritedAt.gives_readArray (hQ : InheritedAt Q) (hone : Gives (Q depth) readOne) (bound : Nat) :
    Gives (Q (depth + 1)) (readArray readOne bound) := by
  intro t v rest h
  unfold readArray at h
  split at h
  · cases h
    exact hQ.array depth [] (by simp)
  · obtain ⟨⟨items, rest'⟩, hitems, hv⟩ := Outcome.map_ok_iff.1 h
    cases hv
    exact hQ.array depth items (hone.items (by simp) hitems)

/-- An object inherits from its values: no key comes twice, since the pairs are written one after the other. -/
theorem InheritedAt.gives_readObject (hQ : InheritedAt Q) (hone : Gives (Q depth) readOne) (bound : Nat) :
    Gives (Q (depth + 1)) (readObject readOne bound) := by
  intro t v rest h
  unfold readObject at h
  split at h
  · cases h
    exact hQ.object depth [] List.nodup_nil (by simp)
  · obtain ⟨⟨pairs, rest'⟩, hpairs, hv⟩ := Outcome.map_ok_iff.1 h
    cases hv
    refine hQ.object depth _ (Entries.nodup_keys_putAll pairs List.nodup_nil) fun e he => ?_
    rcases Entries.mem_putAll he with he | he
    · cases he
    · exact hone.pairs (by simp) hpairs e he

/-- A value in front of a text inherits, given that the rest of an array and the rest of an object do. -/
theorem InheritedAt.gives_readValueBy (hQ : InheritedAt Q) {array object : Text → Reading Json}
    (harray : Gives (Q depth) array) (hobject : Gives (Q depth) object) : Gives (Q depth) (readValueBy array object) := by
  intro t v rest h
  unfold readValueBy at h
  split at h
  · obtain ⟨⟨s, rest'⟩, _, hv⟩ := Outcome.map_ok_iff.1 h
    cases hv
    exact hQ.string depth s
  · exact harray _ _ _ h
  · exact hobject _ _ _ h
  · cases hw : readWord? t with
    | none =>
      rw [hw, Option.elim_none] at h
      exact hQ.of_readNumber depth h
    | some w =>
      rw [hw, Option.elim_some] at h
      cases h
      exact hQ.of_readWord? depth hw

/-- Everything read in front of a text inherits at the depth that is left. -/
theorem InheritedAt.gives_readValue (hQ : InheritedAt Q) (bound depth : Nat) : Gives (Q depth) (readValue bound depth) := by
  induction depth with
  | zero => exact hQ.gives_readValueBy (fun _ _ _ h => nomatch h) (fun _ _ _ h => nomatch h)
  | succ depth ih => exact hQ.gives_readValueBy (hQ.gives_readArray ih bound) (hQ.gives_readObject ih bound)

/-- What is inherited at a depth holds of everything that is read, at the greatest depth. -/
theorem InheritedAt.of_read (hQ : InheritedAt Q) (h : Json.read t = .ok v) : Q greatestDepth v := by
  have hwhole : readWhole t = .ok v := by
    unfold Json.read at h
    split at h
    · next w hw => rw [hw, Except.ok.inj h]
    · cases h
  unfold readWhole at hwhole
  split at hwhole
  · cases hwhole
  · split at hwhole
    · cases hwhole
    · next w rest hw =>
      split at hwhole
      · cases hwhole
        exact hQ.gives_readValue _ _ _ _ _ hw
      · cases hwhole

/-- An inherited property holds of everything that is read. -/
theorem Inherited.of_read (hP : Inherited P) (h : Json.read t = .ok v) : P v :=
  hP.at.of_read h

/-! ## Values that are not read -/

/-- A value without parts. -/
def IsScalar : Json → Prop
  | .array _ => False
  | .object _ => False
  | _ => True

/-- What holds of scalars and passes from the parts to the whole is inherited. -/
theorem Inherited.of_isScalar (hscalar : ∀ v : Json, v.IsScalar → P v)
    (harray : ∀ items, (∀ v ∈ items, P v) → P (.array items))
    (hobject : ∀ entries, (Entries.keys entries).Nodup → (∀ e ∈ entries, P e.2) → P (.object entries)) : Inherited P where
  null := hscalar .null trivial
  bool b := hscalar (.bool b) trivial
  int n := hscalar (.int n) trivial
  float x := hscalar (.float x) trivial
  string t := hscalar (.string t) trivial
  array := harray
  object := hobject

mutual

/-- An inherited property holds of every value without a repeated key. -/
theorem Inherited.of_keysDistinct (hP : Inherited P) : ∀ v : Json, v.KeysDistinct → P v
  | .null, _ => hP.null
  | .bool b, _ => hP.bool b
  | .int n, _ => hP.int n
  | .float x, _ => hP.float x
  | .string t, _ => hP.string t
  | .array items, h => by
    rw [KeysDistinct] at h
    exact hP.array items (hP.of_itemsDistinct items h)
  | .object entries, h => by
    rw [KeysDistinct] at h
    exact hP.object entries h.1 (hP.of_entriesDistinct entries h.2)

/-- An inherited property holds of the items of a list without a repeated key. -/
theorem Inherited.of_itemsDistinct (hP : Inherited P) : ∀ items : List Json, ItemsDistinct items → ∀ v ∈ items, P v
  | [], _ => List.forall_mem_nil _
  | v :: items, h => by
    rw [ItemsDistinct] at h
    exact List.forall_mem_cons.2 ⟨hP.of_keysDistinct v h.1, hP.of_itemsDistinct items h.2⟩

/-- An inherited property holds of the values of pairs without a repeated key. -/
theorem Inherited.of_entriesDistinct (hP : Inherited P) :
    ∀ entries : List (Text × Json), EntriesDistinct entries → ∀ e ∈ entries, P e.2
  | [], _ => List.forall_mem_nil _
  | (_, v) :: entries, h => by
    rw [EntriesDistinct] at h
    exact List.forall_mem_cons.2 ⟨hP.of_keysDistinct v h.1, hP.of_entriesDistinct entries h.2⟩

end

/-! ## Distinct keys -/

/-- The items of a list have distinct keys when each of them has. -/
theorem itemsDistinct_iff {items : List Json} : ItemsDistinct items ↔ ∀ v ∈ items, v.KeysDistinct := by
  induction items with
  | nil => simp [ItemsDistinct]
  | cons v items ih => simp [ItemsDistinct, ih]

/-- The values of pairs have distinct keys when each of them has. -/
theorem entriesDistinct_iff {entries : Entries Json} : EntriesDistinct entries ↔ ∀ e ∈ entries, e.2.KeysDistinct := by
  induction entries with
  | nil => simp [EntriesDistinct]
  | cons e entries ih => simp [EntriesDistinct, ih]

/-- No key of an array comes twice, at any depth, when none of any item does. -/
theorem keysDistinct_array_iff {items : List Json} : (array items).KeysDistinct ↔ ∀ v ∈ items, v.KeysDistinct := by
  rw [KeysDistinct, itemsDistinct_iff]

/-- No key of an object comes twice, at any depth, when none of its own does and none of any value. -/
theorem keysDistinct_object_iff {entries : Entries Json} :
    (object entries).KeysDistinct ↔ entries.keys.Nodup ∧ ∀ e ∈ entries, e.2.KeysDistinct := by
  rw [KeysDistinct, entriesDistinct_iff]

/-- The value under a key of an object without a repeated key has none either. -/
theorem KeysDistinct.of_get? {entries : Entries Json} {key : Text} (h : (object entries).KeysDistinct)
    (hv : entries.get? key = some v) : v.KeysDistinct := by
  obtain ⟨hkeys, hvalues⟩ := keysDistinct_object_iff.1 h
  exact hvalues (key, v) ((Entries.get?_eq_some_iff hkeys).1 hv)

/-- Having no repeated key at any depth is inherited. -/
theorem inherited_keysDistinct : Inherited KeysDistinct where
  null := by simp [KeysDistinct]
  bool := by simp [KeysDistinct]
  int := by simp [KeysDistinct]
  float := by simp [KeysDistinct]
  string := by simp [KeysDistinct]
  array items h := keysDistinct_array_iff.2 h
  object entries hkeys h := keysDistinct_object_iff.2 ⟨hkeys, h⟩

/-- In what is read no key of an object comes twice, at any depth. -/
theorem keysDistinct_of_read (h : Json.read t = .ok v) : v.KeysDistinct :=
  inherited_keysDistinct.of_read h

end Descriptors.Json
