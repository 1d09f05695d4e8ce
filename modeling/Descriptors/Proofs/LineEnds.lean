import Descriptors.Descriptor.Rows
import Descriptors.Proofs.Json.Progress
import Descriptors.Text
import Mathlib.Data.List.Basic

/-!
# Line ends

Files are read with even line ends. That changes nothing about what a descriptor says: not its rows, and of a fault at most the
place.
-/

/-! ## Texts with even line ends

`Text.normalizeLines` changes nothing but carriage returns and the line feeds behind them. So the front of a text with even line
ends is the front of the text itself, or a line feed where that has a carriage return (`Text.normalizeLines_front`), and a scan
that treats both alike comes to the same place (`Text.dropWhile_normalizeLines`).
-/

namespace Descriptors.Text

variable {c : CodePoint} {t rest piece : Text} {p : CodePoint → Bool}

/-- A code point that is no carriage return stays in front. -/
theorem normalizeLines_cons (h : c ≠ CodePoint.carriageReturn) : normalizeLines (c :: rest) = c :: normalizeLines rest := by
  rw [normalizeLines]
  · exact fun _ hc _ => h hc
  · exact h

/-- A text is empty, starts with a code point that stays, or starts with a carriage return, which becomes a line feed. -/
theorem normalizeLines_front (t : Text) :
    (t = [] ∧ normalizeLines t = []) ∨
    (∃ c rest, c ≠ CodePoint.carriageReturn ∧ t = c :: rest ∧ normalizeLines t = c :: normalizeLines rest) ∨
    ∃ rest rest', t = CodePoint.carriageReturn :: rest ∧ normalizeLines t = CodePoint.lineFeed :: rest' := by
  fun_cases normalizeLines t with
  | case1 => exact Or.inl ⟨rfl, rfl⟩
  | case2 rest => exact Or.inr (Or.inr ⟨_, _, rfl, rfl⟩)
  | case3 rest => exact Or.inr (Or.inr ⟨_, _, rfl, rfl⟩)
  | case4 c rest _ hc => exact Or.inr (Or.inl ⟨c, rest, hc, rfl, rfl⟩)

/-- A front that is no line feed was there before. -/
theorem eq_cons_of_normalizeLines (h : normalizeLines t = c :: rest) (hc : c ≠ CodePoint.lineFeed) :
    ∃ rest', t = c :: rest' ∧ rest = normalizeLines rest' := by
  rcases normalizeLines_front t with ⟨_, ht⟩ | ⟨d, rest', _, rfl, ht⟩ | ⟨_, _, _, ht⟩
  · rw [ht] at h
    cases h
  · rw [ht] at h
    obtain ⟨rfl, rfl⟩ := List.cons.inj h
    exact ⟨rest', rfl, rfl⟩
  · rw [ht] at h
    exact absurd (List.cons.inj h).1.symm hc

/-- A front that is no line feed and was not there before does not come in. -/
theorem normalizeLines_ne_cons (h : ∀ rest', t = c :: rest' → False) (hc : c ≠ CodePoint.lineFeed) :
    normalizeLines t ≠ c :: rest := by
  intro ht
  obtain ⟨rest', rfl, _⟩ := eq_cons_of_normalizeLines ht hc
  exact h rest' rfl

/-- Nothing is left of nothing alone. -/
theorem normalizeLines_eq_nil_iff : normalizeLines t = [] ↔ t = [] := by
  rcases normalizeLines_front t with ⟨rfl, h⟩ | ⟨_, _, _, rfl, h⟩ | ⟨_, _, rfl, h⟩ <;> simp [h]

/-- Even line ends make no text longer. -/
theorem length_normalizeLines_le (t : Text) : (normalizeLines t).length ≤ t.length := by
  fun_induction normalizeLines t <;> simp only [List.length_cons, List.length_nil] <;> omega

/-- A scan that takes a carriage return where it takes a line feed comes to the same place. -/
theorem dropWhile_normalizeLines (hp : p CodePoint.carriageReturn = p CodePoint.lineFeed) (t : Text) :
    (normalizeLines t).dropWhile p = normalizeLines (t.dropWhile p) := by
  fun_induction normalizeLines t with
  | case1 => rfl
  | case2 rest ih =>
    by_cases h : p CodePoint.lineFeed
    · rw [List.dropWhile_cons_of_pos h, List.dropWhile_cons_of_pos (hp ▸ h), List.dropWhile_cons_of_pos h, ih]
    · rw [List.dropWhile_cons_of_neg h, List.dropWhile_cons_of_neg (hp ▸ h), normalizeLines]
  | case3 rest hrest ih =>
    by_cases h : p CodePoint.lineFeed
    · rw [List.dropWhile_cons_of_pos h, List.dropWhile_cons_of_pos (hp ▸ h), ih]
    · rw [List.dropWhile_cons_of_neg h, List.dropWhile_cons_of_neg (hp ▸ h), normalizeLines]
      exact hrest
  | case4 c rest _ hc ih =>
    by_cases h : p c
    · rw [List.dropWhile_cons_of_pos h, List.dropWhile_cons_of_pos h, ih]
    · rw [List.dropWhile_cons_of_neg h, List.dropWhile_cons_of_neg h, normalizeLines_cons hc]

/-- What a scan takes that stops at every line end is the same. -/
theorem takeWhile_normalizeLines (hCR : p CodePoint.carriageReturn = false) (hLF : p CodePoint.lineFeed = false) (t : Text) :
    (normalizeLines t).takeWhile p = t.takeWhile p := by
  fun_induction normalizeLines t with
  | case1 => rfl
  | case2 rest ih => simp [hCR, hLF]
  | case3 rest hrest ih => simp [hCR, hLF]
  | case4 c rest _ hc ih => rw [List.takeWhile_cons, List.takeWhile_cons, ih]

/-- A word without line ends stands in front of both texts or of neither. -/
theorem isPrefixOf?_normalizeLines (hCR : CodePoint.carriageReturn ∉ piece) (hLF : CodePoint.lineFeed ∉ piece) (t : Text) :
    piece.isPrefixOf? (normalizeLines t) = (piece.isPrefixOf? t).map normalizeLines := by
  induction piece generalizing t with
  | nil => rfl
  | cons c piece ih =>
    obtain ⟨hc, hpiece⟩ := not_or.1 (mt List.mem_cons.2 hCR)
    obtain ⟨hc', hpiece'⟩ := not_or.1 (mt List.mem_cons.2 hLF)
    rcases normalizeLines_front t with ⟨rfl, h⟩ | ⟨d, rest, hd, rfl, h⟩ | ⟨rest, rest', rfl, h⟩
    · rw [h]
      rfl
    · rw [h, List.isPrefixOf?, List.isPrefixOf?, ih hpiece hpiece']
      split <;> rfl
    · rw [h, List.isPrefixOf?, List.isPrefixOf?, if_neg, if_neg]
      · rfl
      · simpa using Ne.symm hc
      · simpa using Ne.symm hc'

end Descriptors.Text

/-! ## Line ends in JSON

A carriage return is white space between the parts of a JSON text, as a line feed is, and inside a string literal neither of them
is allowed. So a text and the same text with even line ends are read alike: to the same value, or to the same fault at a place
that may have moved (`Json.read_normalizeLines`). Each part of the reader has the same answer on both texts, and what it leaves
of the one is what it leaves of the other with even line ends (`Json.EvenReading`).
-/

namespace Descriptors.Json

open Text

/-- The same fault, wherever it is. -/
def Fault.SameButPlace {Place Place' : Type} (fault : Fault Place) (fault' : Fault Place') : Prop :=
  fault.mapPlace (fun _ => ()) = fault'.mapPlace fun _ => ()

/-- Two readings of which the second one is that of the text with even line ends: the same result, with what is left evened, or
the same fault, wherever it is. -/
inductive EvenReading {α : Type} : Reading α → Reading α → Prop where
  | ok (a : α) (rest : Text) : EvenReading (.ok (a, rest)) (.ok (a, normalizeLines rest))
  | error {fault fault' : Fault Nat} : fault.SameButPlace fault' → EvenReading (.error fault) (.error fault')

/-- A reader to which line ends are all the same. -/
def ReadsEven {α : Type} (reader : Text → Reading α) : Prop := ∀ t, EvenReading (reader t) (reader (normalizeLines t))

variable {α β : Type} {x y : Reading α} {readOne : Text → Reading Json} {array object : Text → Reading Json} {t rest : Text}

/-- The same complaint, wherever it is. -/
theorem EvenReading.complain (complaint : Complaint) (t t' : Text) :
    EvenReading (Json.complain complaint t : Reading α) (Json.complain complaint t') :=
  .error rfl

/-- What is made of a result is made of both. -/
theorem EvenReading.map (h : EvenReading x y) (f : α → β) :
    EvenReading (x.map fun (a, rest) => (f a, rest)) (y.map fun (a, rest) => (f a, rest)) := by
  cases h with
  | ok a rest => exact .ok (f a) rest
  | error h => exact .error h

/-- What goes on alike from a result goes on alike from both. -/
theorem EvenReading.bind (h : EvenReading x y) {f : α × Text → Reading β} (hf : ∀ a, ReadsEven fun rest => f (a, rest)) :
    EvenReading (x.bind f) (y.bind f) := by
  cases h with
  | ok a rest => exact hf a rest
  | error h => exact .error h

/-! ### White space and words -/

/-- White space ends where it ended. -/
theorem skipBlanks_normalizeLines (t : Text) : skipBlanks (normalizeLines t) = normalizeLines (skipBlanks t) :=
  dropWhile_normalizeLines rfl t

/-- White space may be passed over first. -/
theorem ReadsEven.skipBlanks {reader : Text → Reading α} (h : ReadsEven reader) :
    ReadsEven fun t => reader (Json.skipBlanks t) := by
  intro t
  dsimp only
  rw [skipBlanks_normalizeLines]
  exact h _

/-- The word in front is the same. -/
theorem readWord?_normalizeLines (t : Text) :
    readWord? (normalizeLines t) = (readWord? t).map fun (v, rest) => (v, normalizeLines rest) := by
  have hwords : ∀ w ∈ words.map (·.1), CodePoint.carriageReturn ∉ w ∧ CodePoint.lineFeed ∉ w := by decide
  unfold readWord?
  generalize words = ws at hwords
  induction ws with
  | nil => rfl
  | cons w ws ih =>
    obtain ⟨⟨hCR, hLF⟩, hws⟩ := List.forall_mem_cons.1 hwords
    rw [List.findSome?_cons, List.findSome?_cons, isPrefixOf?_normalizeLines hCR hLF, ih hws]
    cases w.1.isPrefixOf? t <;> rfl

/-! ### Numbers -/

/-- The digits in front are the same. -/
theorem readDigits_normalizeLines (t : Text) :
    readDigits (normalizeLines t) = ((readDigits t).1, normalizeLines (readDigits t).2) := by
  rw [readDigits, readDigits, takeWhile_normalizeLines rfl rfl, dropWhile_normalizeLines rfl]

/-- The whole part of a number is the same. -/
theorem readWhole?_normalizeLines (t : Text) :
    readWhole? (normalizeLines t) = (readWhole? t).map fun (ds, rest) => (ds, normalizeLines rest) := by
  rcases normalizeLines_front t with ⟨rfl, h⟩ | ⟨c, rest, hc, rfl, h⟩ | ⟨rest, rest', rfl, h⟩
  · rfl
  · by_cases hzero : c = CodePoint.zero
    · subst hzero
      rfl
    · rw [h, readWhole?, readWhole?, ← normalizeLines_cons hc, readDigits_normalizeLines]
      · split <;> rfl
      · exact hzero
      · exact hzero
  · rw [h]
    rfl

/-- The digits after the point are the same. -/
theorem readFraction_normalizeLines (t : Text) :
    readFraction (normalizeLines t) = ((readFraction t).1, normalizeLines (readFraction t).2) := by
  have hdot : ∀ rest, normalizeLines (CodePoint.dot :: rest) = CodePoint.dot :: normalizeLines rest :=
    fun rest => normalizeLines_cons (by decide)
  by_cases hpoint : ∃ c rest, t = CodePoint.dot :: c :: rest
  · obtain ⟨c, rest, rfl⟩ := hpoint
    rw [hdot]
    rcases normalizeLines_front (c :: rest) with ⟨h, _⟩ | ⟨c', rest', hc, h, heven⟩ | ⟨_, rest', h, heven⟩
    · cases h
    · obtain ⟨rfl, rfl⟩ := List.cons.inj h
      rw [heven, readFraction, readFraction, ← heven, readDigits_normalizeLines]
      split
      · rfl
      · rw [hdot]
    · obtain ⟨rfl, rfl⟩ := List.cons.inj h
      have hfraction : readFraction (CodePoint.dot :: CodePoint.carriageReturn :: rest) =
        ([], CodePoint.dot :: CodePoint.carriageReturn :: rest) := rfl
      rw [hfraction, hdot, heven]
      rfl
  · have hnone : ∀ c rest, t = CodePoint.dot :: c :: rest → False := fun c rest h => hpoint ⟨c, rest, h⟩
    have hnone' : ∀ c rest, normalizeLines t = CodePoint.dot :: c :: rest → False := by
      intro c rest h
      obtain ⟨rest', rfl, hrest⟩ := eq_cons_of_normalizeLines h (by decide)
      cases rest' with
      | nil => cases hrest
      | cons d rest' => exact hnone d rest' rfl
    rw [readFraction, readFraction]
    · exact hnone
    · exact hnone'

/-- Whether a dash stands in front of the digits of an exponent, and what follows the sign. -/
def exponentSign : Text → Bool × Text
  | CodePoint.plus :: rest => (false, rest)
  | CodePoint.dash :: rest => (true, rest)
  | rest => (false, rest)

/-- The digits of an exponent behind its sign. -/
def exponentDigits? (negative : Bool) (t : Text) : Option (Int × Text) :=
  match readDigits t with
  | ([], _) => none
  | (ds, rest) => some (if negative then -(Decimal.ofDigits ds : Int) else Decimal.ofDigits ds, rest)

theorem readExponent?_cons (e : CodePoint) (rest : Text) :
    readExponent? (e :: rest) =
      if e = CodePoint.letterE ∨ e = CodePoint.capitalE then exponentDigits? (exponentSign rest).1 (exponentSign rest).2
      else none := by
  fun_cases exponentSign rest with
  | case1 rest => rfl
  | case2 rest => rfl
  | case3 _ hplus hdash =>
    rw [readExponent?]
    · rfl
    · exact hplus
    · exact hdash

/-- The sign of an exponent is the same. -/
theorem exponentSign_normalizeLines (t : Text) :
    exponentSign (normalizeLines t) = ((exponentSign t).1, normalizeLines (exponentSign t).2) := by
  fun_cases exponentSign t with
  | case1 rest => rw [normalizeLines_cons (by decide), exponentSign]
  | case2 rest => rw [normalizeLines_cons (by decide), exponentSign]
  | case3 _ hplus hdash =>
    rw [exponentSign]
    · exact fun rest => normalizeLines_ne_cons hplus (by decide)
    · exact fun rest => normalizeLines_ne_cons hdash (by decide)

/-- The exponent is the same. -/
theorem readExponent?_normalizeLines (t : Text) :
    readExponent? (normalizeLines t) = (readExponent? t).map fun (x, rest) => (x, normalizeLines rest) := by
  rcases normalizeLines_front t with ⟨rfl, h⟩ | ⟨e, rest, he, rfl, h⟩ | ⟨rest, rest', rfl, h⟩
  · rfl
  · rw [h, readExponent?_cons, readExponent?_cons, exponentSign_normalizeLines]
    split
    · unfold exponentDigits?
      rw [readDigits_normalizeLines]
      rcases readDigits (exponentSign rest).2 with ⟨_ | ⟨d, ds⟩, rest⟩ <;> rfl
    · rfl
  · rw [h]
    rfl

/-- A number without its sign is read alike, if there is one. -/
theorem readMagnitude_normalizeLines (negative : Bool) (t : Text) :
    Option.Rel EvenReading (readMagnitude negative t) (readMagnitude negative (normalizeLines t)) := by
  unfold readMagnitude
  rw [readWhole?_normalizeLines]
  cases readWhole? t with
  | none => exact .none
  | some w =>
    obtain ⟨whole, rest⟩ := w
    simp only [Option.map_some, Option.bind_eq_bind, Option.bind_some, readFraction_normalizeLines, readExponent?_normalizeLines]
    generalize readFraction rest = f
    obtain ⟨fraction, rest⟩ := f
    cases fraction with
    | nil =>
      cases readExponent? rest with
      | none =>
        dsimp only [Option.map_none]
        split
        · exact .some (.error rfl)
        · exact .some (.ok _ _)
      | some x => exact .some (.ok _ _)
    | cons d fraction =>
      cases readExponent? rest with
      | none => exact .some (.ok _ _)
      | some x => exact .some (.ok _ _)

/-- Numbers are read alike. -/
theorem readsEven_readNumber : ReadsEven readNumber := by
  intro t
  have hmagnitude : ∀ negative t' u u', EvenReading ((readMagnitude negative t').getD (complain .valueExpected u))
      ((readMagnitude negative (normalizeLines t')).getD (complain .valueExpected u')) := by
    intro negative t' u u'
    have hrel := readMagnitude_normalizeLines negative t'
    generalize readMagnitude negative t' = x at hrel
    generalize readMagnitude negative (normalizeLines t') = y at hrel
    cases hrel with
    | none => exact .complain _ _ _
    | some h => exact h
  unfold readNumber
  split
  · rw [normalizeLines_cons (by decide)]
    exact hmagnitude _ _ _ _
  · next hdash =>
    split
    · next h => exact absurd h (normalizeLines_ne_cons hdash (by decide))
    · exact hmagnitude _ _ _ _

/-! ### String literals -/

/-- The value that some hexadecimal digits in front of a text go on with, and what is left. -/
def hexFront? : Nat → Nat → Text → Option (CodePoint × Text)
  | 0, value, t => some (value, t)
  | _ + 1, _, [] => none
  | digits + 1, value, c :: t => c.hexValue?.bind fun d => hexFront? digits (value * 16 + d) t

/-- What is left begins behind the digits. -/
theorem eq_append_of_hexFront? {digits value : Nat} {x : CodePoint} (h : hexFront? digits value t = some (x, rest)) :
    ∃ front, front.length = digits ∧ t = front ++ rest := by
  induction digits generalizing value t with
  | zero =>
    cases h
    exact ⟨[], rfl, rfl⟩
  | succ digits ih =>
    cases t with
    | nil => cases h
    | cons c t =>
      obtain ⟨d, _, h⟩ := Option.bind_eq_some_iff.1 h
      obtain ⟨front, rfl, rfl⟩ := ih h
      exact ⟨c :: front, rfl, rfl⟩

/-- An escape of four digits is read where four digits and something else follow. -/
theorem readStringFrom_letterU (opening : Text) (afterHigh : Bool) (passed t : Text) :
    readStringFrom opening afterHigh passed (CodePoint.backslash :: CodePoint.letterU :: t) =
      match hexFront? 4 0 t with
      | some (x, next :: rest) => readStringFrom opening x.isHighSurrogate (pushEscaped afterHigh x passed) (next :: rest)
      | _ => complain .badUnicodeEscape (CodePoint.letterU :: t) := by
  by_cases hlong : ∃ a b c d next rest, t = a :: b :: c :: d :: next :: rest
  · obtain ⟨a, b, c, d, next, rest, rfl⟩ := hlong
    rw [readStringFrom]
    simp only [unicodeEscape?, hexFront?, Option.bind_eq_bind, Nat.zero_mul, Nat.zero_add]
    cases a.hexValue? <;> cases b.hexValue? <;> cases c.hexValue? <;> cases d.hexValue? <;> rfl
  · rw [readStringFrom]
    · split
      · next x next rest h =>
        obtain ⟨front, hfront, ht⟩ := eq_append_of_hexFront? h
        match front, hfront with
        | [a, b, c, d], _ => exact absurd ⟨a, b, c, d, next, rest, ht⟩ hlong
      · rfl
    · exact fun a b c d next rest h => hlong ⟨a, b, c, d, next, rest, h⟩

/-- Digits in front are the same, however many. -/
theorem hexFront?_normalizeLines (digits : Nat) : ∀ (value : Nat) (t : Text),
    hexFront? digits value (normalizeLines t) = (hexFront? digits value t).map fun (x, rest) => (x, normalizeLines rest) := by
  induction digits with
  | zero => exact fun _ _ => rfl
  | succ digits ih =>
    intro value t
    rcases normalizeLines_front t with ⟨rfl, h⟩ | ⟨c, rest, _, rfl, h⟩ | ⟨rest, rest', rfl, h⟩
    · rfl
    · rw [h, hexFront?, hexFront?]
      cases c.hexValue? with
      | none => rfl
      | some d => exact ih _ rest
    · rw [h]
      rfl

/-- An escape of a letter other than u. -/
theorem readStringFrom_letter (opening : Text) (afterHigh : Bool) (passed : Text) {c : CodePoint} (hc : c ≠ CodePoint.letterU)
    (rest : Text) :
    readStringFrom opening afterHigh passed (CodePoint.backslash :: c :: rest) =
      (shortEscape? c).elim (complain .unknownEscape (CodePoint.backslash :: c :: rest)) fun x =>
        readStringFrom opening false (x :: passed) rest := by
  rw [readStringFrom]
  · cases shortEscape? c <;> rfl
  · exact fun _ _ _ _ _ _ h => absurd h hc
  · exact hc

/-- A code point without a meaning of its own. -/
theorem readStringFrom_raw (opening : Text) (afterHigh : Bool) (passed : Text) {c : CodePoint} (hquote : c ≠ CodePoint.quote)
    (hbackslash : c ≠ CodePoint.backslash) (rest : Text) :
    readStringFrom opening afterHigh passed (c :: rest) =
      if c < 0x20 then complain .rawControl (c :: rest) else readStringFrom opening false (c :: passed) rest := by
  rw [readStringFrom] <;> simp [hquote, hbackslash]

/-- String literals are read alike, from any place in them on. -/
theorem evenReading_readStringFrom (opening opening' : Text) : ∀ (n : Nat) (afterHigh : Bool) (passed t : Text), t.length ≤ n →
    EvenReading (readStringFrom opening afterHigh passed t) (readStringFrom opening' afterHigh passed (normalizeLines t)) := by
  -- on a bound of the length, as an escape takes several code points in one step
  intro n
  induction n with
  | zero =>
    intro afterHigh passed t ht
    obtain rfl := List.length_eq_zero_iff.1 (Nat.le_zero.1 ht)
    exact .complain _ _ _
  | succ n ih =>
    intro afterHigh passed t ht
    rcases normalizeLines_front t with ⟨rfl, h⟩ | ⟨c, rest, _, rfl, h⟩ | ⟨rest, rest', rfl, h⟩
    · exact .complain _ _ _
    · rw [List.length_cons] at ht
      by_cases hquote : c = CodePoint.quote
      · subst hquote
        rw [h, readStringFrom, readStringFrom]
        exact .ok _ _
      by_cases hbackslash : c = CodePoint.backslash
      · subst hbackslash
        rw [h]
        rcases normalizeLines_front rest with ⟨rfl, hrest⟩ | ⟨c, rest, _, rfl, hrest⟩ | ⟨rest, rest', rfl, hrest⟩
        · exact .complain _ _ _
        · rw [List.length_cons] at ht
          rw [hrest]
          by_cases hletter : c = CodePoint.letterU
          · subst hletter
            rw [readStringFrom_letterU, readStringFrom_letterU, hexFront?_normalizeLines]
            cases hfront : hexFront? 4 0 rest with
            | none => exact .complain _ _ _
            | some front =>
              obtain ⟨x, behind⟩ := front
              obtain ⟨digits, hdigits, rfl⟩ := eq_append_of_hexFront? hfront
              rw [List.length_append] at ht
              cases behind with
              | nil => exact .complain _ _ _
              | cons next behind =>
                have hnext := ih x.isHighSurrogate (pushEscaped afterHigh x passed) (next :: behind) (by omega)
                have hne : normalizeLines (next :: behind) ≠ [] := mt normalizeLines_eq_nil_iff.1 (List.cons_ne_nil _ _)
                obtain ⟨next', behind', hbehind⟩ := List.exists_cons_of_ne_nil hne
                rw [hbehind] at hnext
                simp only [Option.map_some, hbehind]
                exact hnext
          · rw [readStringFrom_letter _ _ _ hletter, readStringFrom_letter _ _ _ hletter]
            cases shortEscape? c with
            | none => exact .complain _ _ _
            | some x => exact ih _ _ _ (by omega)
        · rw [hrest, readStringFrom_letter _ _ _ (by decide), readStringFrom_letter _ _ _ (by decide)]
          exact .complain _ _ _
      · rw [h, readStringFrom_raw _ _ _ hquote hbackslash, readStringFrom_raw _ _ _ hquote hbackslash]
        split
        · exact .complain _ _ _
        · exact ih _ _ _ (by omega)
    · rw [h, readStringFrom_raw _ _ _ (by decide) (by decide), readStringFrom_raw _ _ _ (by decide) (by decide)]
      exact .complain _ _ _

/-- String literals are read alike. -/
theorem readsEven_readString : ReadsEven readString := fun t =>
  evenReading_readStringFrom _ _ t.length false [] t (Nat.le_refl _)

/-! ### Containers -/

/-- The items of arrays are read alike. -/
theorem readsEven_readItems (hone : ReadsEven readOne) : ∀ (bound : Nat) (passed : List Json),
    ReadsEven (readItems readOne bound passed) := by
  intro bound
  induction bound with
  | zero => exact fun _ _ => .complain _ _ _
  | succ bound ih =>
    have hitem : ∀ passed, ReadsEven (afterItem readOne bound passed) := by
      intro passed rest
      unfold afterItem
      rw [skipBlanks_normalizeLines]
      generalize skipBlanks rest = s
      split
      · rw [normalizeLines_cons (by decide)]
        exact (ih passed).skipBlanks _
      · rw [normalizeLines_cons (by decide)]
        exact .ok _ _
      · next hcomma hclose =>
        split
        · next h => exact absurd h (normalizeLines_ne_cons hcomma (by decide))
        · next h => exact absurd h (normalizeLines_ne_cons hclose (by decide))
        · exact .complain _ _ _
    intro passed t
    rw [readItems_succ, readItems_succ]
    exact (hone t).bind fun v => hitem (v :: passed)

/-- The pairs of objects are read alike. -/
theorem readsEven_readPairs (hone : ReadsEven readOne) : ∀ (bound : Nat) (passed : Entries Json),
    ReadsEven (readPairs readOne bound passed) := by
  intro bound
  induction bound with
  | zero => exact fun _ _ => .complain _ _ _
  | succ bound ih =>
    have hpair : ∀ passed, ReadsEven (afterPair readOne bound passed) := by
      intro passed rest
      unfold afterPair
      rw [skipBlanks_normalizeLines]
      generalize skipBlanks rest = s
      split
      · rw [normalizeLines_cons (by decide)]
        exact (ih passed).skipBlanks _
      · rw [normalizeLines_cons (by decide)]
        exact .ok _ _
      · next hcomma hclose =>
        split
        · next h => exact absurd h (normalizeLines_ne_cons hcomma (by decide))
        · next h => exact absurd h (normalizeLines_ne_cons hclose (by decide))
        · exact .complain _ _ _
    have hkey : ∀ passed key, ReadsEven (afterKey readOne bound passed key) := by
      intro passed key rest
      unfold afterKey
      rw [skipBlanks_normalizeLines]
      generalize skipBlanks rest = s
      split
      · rw [normalizeLines_cons (by decide)]
        exact (hone.skipBlanks _).bind fun v => hpair ((key, v) :: passed)
      · next hcolon =>
        split
        · next h => exact absurd h (normalizeLines_ne_cons hcolon (by decide))
        · exact .complain _ _ _
    intro passed t
    by_cases hquote : ∃ rest, t = CodePoint.quote :: rest
    · obtain ⟨rest, rfl⟩ := hquote
      rw [normalizeLines_cons (by decide), readPairs_quote, readPairs_quote]
      exact (readsEven_readString rest).bind (hkey passed)
    · have hnone : ∀ rest, t = CodePoint.quote :: rest → False := fun rest h => hquote ⟨rest, h⟩
      rw [readPairs_of_not_quote _ _ hnone, readPairs_of_not_quote _ _ fun rest => normalizeLines_ne_cons hnone (by decide)]
      exact .complain _ _ _

/-- The rest of an array is read alike. -/
theorem readsEven_readArray (hone : ReadsEven readOne) (bound : Nat) : ReadsEven (readArray readOne bound) := by
  intro t
  unfold readArray
  rw [skipBlanks_normalizeLines]
  generalize skipBlanks t = s
  split
  · rw [normalizeLines_cons (by decide)]
    exact .ok _ _
  · next hclose =>
    split
    · next h => exact absurd h (normalizeLines_ne_cons hclose (by decide))
    · exact (readsEven_readItems hone bound [] s).map Json.array

/-- The rest of an object is read alike. -/
theorem readsEven_readObject (hone : ReadsEven readOne) (bound : Nat) : ReadsEven (readObject readOne bound) := by
  intro t
  unfold readObject
  rw [skipBlanks_normalizeLines]
  generalize skipBlanks t = s
  split
  · rw [normalizeLines_cons (by decide)]
    exact .ok _ _
  · next hclose =>
    split
    · next h => exact absurd h (normalizeLines_ne_cons hclose (by decide))
    · exact (readsEven_readPairs hone bound [] s).map fun pairs => Json.object (Entries.putAll [] pairs)

/-! ### Values -/

/-- A value is read alike, given that the rest of an array and the rest of an object are. -/
theorem readsEven_readValueBy (harray : ReadsEven array) (hobject : ReadsEven object) : ReadsEven (readValueBy array object) := by
  intro t
  unfold readValueBy
  split
  · rw [normalizeLines_cons (by decide)]
    exact (readsEven_readString _).map Json.string
  · rw [normalizeLines_cons (by decide)]
    exact harray _
  · rw [normalizeLines_cons (by decide)]
    exact hobject _
  · next hquote hbracket hbrace =>
    split
    · next h => exact absurd h (normalizeLines_ne_cons hquote (by decide))
    · next h => exact absurd h (normalizeLines_ne_cons hbracket (by decide))
    · next h => exact absurd h (normalizeLines_ne_cons hbrace (by decide))
    · rw [readWord?_normalizeLines]
      cases readWord? t with
      | none => exact readsEven_readNumber t
      | some w => exact .ok w.1 w.2

/-- Values are read alike, however deep they are nested. -/
theorem readsEven_readValue (bound depth : Nat) : ReadsEven (readValue bound depth) := by
  induction depth with
  | zero => exact readsEven_readValueBy (fun _ => .error rfl) (fun _ => .error rfl)
  | succ depth ih => exact readsEven_readValueBy (readsEven_readArray ih bound) (readsEven_readObject ih bound)

/-! ### Whole texts -/

/-- A text without a byte order mark in front is one value with white space around it. -/
theorem readWhole_of_unmarked (h : ∀ tail, t = CodePoint.byteOrderMark :: tail → False) :
    readWhole t =
      match readValue t.length greatestDepth (skipBlanks t) with
      | .error fault => .error fault
      | .ok (v, rest) =>
        match skipBlanks rest with
        | [] => .ok v
        | rest => .error (.malformed .extraText rest.length) := by
  unfold readWhole
  split
  · next tail => exact absurd rfl (h tail)
  · rfl

/-- A whole text is read alike. -/
theorem readWhole_normalizeLines (t : Text) :
    Outcome.Alike Fault.SameButPlace (readWhole t) (readWhole (normalizeLines t)) := by
  by_cases hmark : ∃ tail, t = CodePoint.byteOrderMark :: tail
  · obtain ⟨tail, rfl⟩ := hmark
    rw [normalizeLines_cons (by decide)]
    exact .error rfl
  · have hunmarked : ∀ tail, t = CodePoint.byteOrderMark :: tail → False := fun tail h => hmark ⟨tail, h⟩
    have hvalue := readsEven_readValue t.length greatestDepth (skipBlanks t)
    have hlength : (normalizeLines (skipBlanks t)).length ≤ (normalizeLines t).length := by
      rw [← skipBlanks_normalizeLines]
      exact length_skipBlanks_le _
    -- the bound on items is the length of the text, and line ends in pairs make the second one shorter
    rw [readWhole_of_unmarked hunmarked,
      readWhole_of_unmarked fun tail => normalizeLines_ne_cons hunmarked (by decide), skipBlanks_normalizeLines,
      readValue_bound hlength (Nat.le_trans hlength (length_normalizeLines_le t))]
    generalize readValue t.length greatestDepth (skipBlanks t) = x at hvalue
    generalize readValue t.length greatestDepth (normalizeLines (skipBlanks t)) = y at hvalue
    cases hvalue with
    | error h => exact .error h
    | ok v rest =>
      dsimp only
      rw [skipBlanks_normalizeLines]
      cases skipBlanks rest with
      | nil => exact .ok v
      | cons c s =>
        have hne : normalizeLines (c :: s) ≠ [] := mt normalizeLines_eq_nil_iff.1 (List.cons_ne_nil c s)
        obtain ⟨c', s', heven⟩ := List.exists_cons_of_ne_nil hne
        rw [heven]
        exact .error rfl

/-- A text and the text with even line ends are read to the same value, or to the same fault at places that may differ. -/
theorem read_normalizeLines (t : Text) : Outcome.Alike Fault.SameButPlace (read t) (read (normalizeLines t)) := by
  have hshown : ∀ (fault : Fault Nat) (place : Nat → Position), (fault.mapPlace place).SameButPlace fault := by
    intro fault place
    cases fault <;> rfl
  have hwhole := readWhole_normalizeLines t
  unfold read
  generalize readWhole t = x at hwhole
  generalize readWhole (normalizeLines t) = y at hwhole
  cases hwhole with
  | ok v => exact .ok v
  | error h => exact .error ((hshown _ _).trans (h.trans (hshown _ _).symm))

end Descriptors.Json

/-! ## Line ends in descriptors

A descriptor and the same text with even line ends give the same rows, or none for the same cause: only the place of a fault in
the text may differ (`Group.rows_normalizeLines`, `MainConfiguration.rows_normalizeLines`).
-/

namespace Descriptors

/-- The same cause, wherever in the text it is. -/
def DescriptorCause.SameButPlace : DescriptorCause → DescriptorCause → Prop
  | unreadable fault, unreadable fault' => fault.SameButPlace fault'
  | cause, cause' => cause = cause'

/-- The same failure, wherever in the text its cause is. -/
def DescriptorFault.SameButPlace (fault fault' : DescriptorFault) : Prop :=
  fault.part = fault'.part ∧ fault.cause.SameButPlace fault'.cause

theorem DescriptorCause.sameButPlace_refl (cause : DescriptorCause) : cause.SameButPlace cause := by
  cases cause <;> rfl

/-- The document is the same. -/
theorem Document.read_normalizeLines (t : Text) :
    Outcome.Alike DescriptorCause.SameButPlace (Document.read t) (Document.read t.normalizeLines) := by
  have hread := Json.read_normalizeLines t
  unfold Document.read
  generalize Json.read t = x at hread
  generalize Json.read t.normalizeLines = y at hread
  cases hread with
  | error h => exact .error h
  | ok v => exact Outcome.Alike.refl DescriptorCause.sameButPlace_refl (asObject v)

/-- A group has the same rows. -/
theorem Group.rows_normalizeLines (group : Text) (form : GroupForm) (t : Text) :
    Outcome.Alike DescriptorFault.SameButPlace (Group.rows group form t) (Group.rows group form t.normalizeLines) := by
  have hrows := (Document.read_normalizeLines t).bind DescriptorCause.sameButPlace_refl (rowsIn group form)
  unfold Group.rows
  generalize Document.read t >>= rowsIn group form = x at hrows
  generalize Document.read t.normalizeLines >>= rowsIn group form = y at hrows
  cases hrows with
  | ok rows => exact .ok rows
  | error h => exact .error ⟨rfl, h⟩

/-- The main configuration has the same rows. -/
theorem MainConfiguration.rows_normalizeLines (t : Text) :
    Outcome.Alike DescriptorFault.SameButPlace (MainConfiguration.rows t) (MainConfiguration.rows t.normalizeLines) := by
  have hrows := (Document.read_normalizeLines t).bind DescriptorCause.sameButPlace_refl rowsIn
  unfold MainConfiguration.rows
  generalize Document.read t >>= rowsIn = x at hrows
  generalize Document.read t.normalizeLines >>= rowsIn = y at hrows
  cases hrows with
  | ok rows => exact .ok rows
  | error h => exact .error ⟨rfl, h⟩

end Descriptors
