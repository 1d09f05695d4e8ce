import Descriptors.Proofs.Json.Parts
import Descriptors.Proofs.Json.RoundTrip
import Descriptors.Proofs.Text.ControlEscape

/-!
# Written JSON whose controls are escaped

A cell with an object is compact JSON that is escaped once more, and the escape does not know the backslashes of JSON. What it
finds inside a string literal is either the escape of a line feed, a carriage return or a tab, or a written backslash in front of
a letter r, n or t. By doubling one backslash it turns the first into a written backslash with a letter, and the second into a
backslash with a control: the two change places (`Text.exchangeControls`). So the escaped text of a value is the text of the value
with this exchange in every string and key (`Json.escapeControls_write`), it is read back as that (`Json.read_escapeControls`), and
no value becomes another one's (`Text.exchangeControls_injective`).
-/

namespace Descriptors

namespace Text

variable {c : CodePoint} {t rest : Text}

/-- A control that JSON writes with one of the letters r, n and t: a tab, a line feed or a carriage return. -/
def isLineControl (c : CodePoint) : Bool := c == CodePoint.tab || (c == CodePoint.lineFeed || c == CodePoint.carriageReturn)

/-- The text with a backslash and a letter in place of each tab, line feed and carriage return, and such a control in place of the
letter where a backslash stands in front of it. -/
def exchangeControls : Text → Text
  | CodePoint.backslash :: c :: rest =>
    if isControlLetter c then CodePoint.backslash :: (Json.shortEscape? c).getD c :: exchangeControls rest
    else CodePoint.backslash :: exchangeControls (c :: rest)
  | c :: rest => (if isLineControl c then Json.escapedCodePoint c else [c]) ++ exchangeControls rest
  | [] => []

/-- A text in which there is nothing to exchange: no tab, line feed or carriage return, and nowhere a backslash directly in front of
r, n or t. -/
def Steady (t : Text) : Prop :=
  (∀ c ∈ t, isLineControl c = false) ∧ ∀ letter, isControlLetter letter = true → ¬ [CodePoint.backslash, letter] <:+: t

/-! ## Controls and their letters -/

/-- Each of the three letters stands for one of the three controls. -/
theorem exists_shortEscape? (h : isControlLetter c = true) :
    ∃ control, Json.shortEscape? c = some control ∧ isLineControl control = true ∧
      Json.escapedCodePoint control = [CodePoint.backslash, c] := by
  simp only [isControlLetter, Bool.or_eq_true, beq_iff_eq] at h
  rcases h with rfl | rfl | rfl <;> exact ⟨_, rfl, rfl, rfl⟩

/-- Each of the three controls is written with one of the three letters. -/
theorem exists_escapedCodePoint (h : isLineControl c = true) :
    ∃ letter, isControlLetter letter = true ∧ Json.escapedCodePoint c = [CodePoint.backslash, letter] := by
  simp only [isLineControl, Bool.or_eq_true, beq_iff_eq] at h
  rcases h with rfl | rfl | rfl <;> exact ⟨_, rfl, rfl⟩

/-- A letter is written as it is. -/
theorem escapedCodePoint_of_isControlLetter (h : isControlLetter c = true) : Json.escapedCodePoint c = [c] := by
  simp only [isControlLetter, Bool.or_eq_true, beq_iff_eq] at h
  rcases h with rfl | rfl | rfl <;> rfl

/-- What is written for a code point other than a letter starts with no letter. -/
theorem head?_escapedCodePoint (h : isControlLetter c = false) (t : Text) :
    (Json.escapedCodePoint c ++ t).head?.any isControlLetter = false := by
  rcases Json.escapedCodePoint_cases c with ⟨letter, _, _, _, hc⟩ | ⟨_, hc⟩ | ⟨_, _, _, hc⟩
  · rw [hc]; rfl
  · rw [hc]; rfl
  · rw [hc]; exact h

/-! ## One code point -/

/-- The written form of one of the three controls has its backslash doubled. -/
theorem escapeControls_lineControl (h : isLineControl c = true) (t : Text) :
    escapeControls (Json.escapedCodePoint c ++ t) = CodePoint.backslash :: Json.escapedCodePoint c ++ escapeControls t := by
  obtain ⟨letter, hletter, hc⟩ := exists_escapedCodePoint h
  rw [hc, List.cons_append, List.singleton_append, escapeControls_backslash hletter]
  rfl

/-- The written form of any other code point stays, unless it is that of a backslash in front of one of the letters. -/
theorem escapeControls_escapedCodePoint (h : isLineControl c = false)
    (hnext : c = CodePoint.backslash → t.head?.any isControlLetter = false) :
    escapeControls (Json.escapedCodePoint c ++ t) = Json.escapedCodePoint c ++ escapeControls t := by
  rcases Json.escapedCodePoint_cases c with ⟨letter, _, _, hvalue, hc⟩ | ⟨hcontrol, hc⟩ | ⟨_, _, hbackslash, hc⟩
  · have hletter : isControlLetter letter = false := by
      by_contra hletter
      obtain ⟨control, hcontrol, hline, _⟩ := exists_shortEscape? (eq_true_of_ne_false hletter)
      rw [hvalue] at hcontrol
      rw [Option.some.inj hcontrol, hline] at h
      cases h
    rw [hc, List.cons_append, List.singleton_append, escapeControls_backslash_of_not (by exact hletter)]
    by_cases hb : letter = CodePoint.backslash
    · subst hb
      rw [escapeControls_backslash_of_not (hnext (Option.some.inj hvalue).symm)]
      rfl
    · rw [escapeControls_cons hb]
      rfl
  · have hdigits : ∀ c < 0x20, CodePoint.backslash ∉ CodePoint.letterU :: hexDigits 4 c := by decide
    rw [hc, List.cons_append, escapeControls_backslash_of_not rfl, escapeControls_append_of_notMem (hdigits c hcontrol)]
    rfl
  · rw [hc, List.singleton_append, escapeControls_cons hbackslash, List.singleton_append]

/-! ## The exchange -/

/-- The escape of what stands between quotes is what stands there for the exchanged text. -/
theorem escapeControls_flatMap (t : Text) : escapeControls (t.flatMap Json.escapedCodePoint ++ CodePoint.quote :: rest) =
    t.exchangeControls.flatMap Json.escapedCodePoint ++ CodePoint.quote :: escapeControls rest := by
  have hquote : escapeControls (CodePoint.quote :: rest) = CodePoint.quote :: escapeControls rest :=
    escapeControls_cons (by decide) rest
  have hback : Json.escapedCodePoint CodePoint.backslash = [CodePoint.backslash, CodePoint.backslash] := rfl
  fun_induction exchangeControls t with
  | case1 c t hletter ih =>
    -- the second of the two backslashes that are written is doubled
    obtain ⟨control, hcontrol, _, hwritten⟩ := exists_shortEscape? hletter
    have hraw := escapedCodePoint_of_isControlLetter hletter
    rw [hcontrol, Option.getD_some]
    simp only [List.flatMap_cons, hback, hraw, hwritten, List.cons_append, List.nil_append]
    rw [escapeControls_backslash_of_not rfl, escapeControls_backslash hletter, ih]
  | case2 c t hletter ih =>
    have hnext := head?_escapedCodePoint (eq_false_of_ne_true hletter)
      (t.flatMap Json.escapedCodePoint ++ CodePoint.quote :: rest)
    rw [← List.append_assoc, ← List.flatMap_cons] at hnext
    rw [List.flatMap_cons, List.append_assoc, escapeControls_escapedCodePoint rfl fun _ => hnext, ih, List.flatMap_cons,
      List.append_assoc]
  | case3 c t hpair ih =>
    rw [List.flatMap_cons, List.append_assoc]
    cases hline : isLineControl c with
    | true =>
      obtain ⟨letter, hletter, hc⟩ := exists_escapedCodePoint hline
      rw [escapeControls_lineControl hline, ih, if_pos rfl, hc]
      simp only [List.cons_append, List.nil_append, List.flatMap_cons, hback, escapedCodePoint_of_isControlLetter hletter]
    | false =>
      have hnext : c = CodePoint.backslash →
          (t.flatMap Json.escapedCodePoint ++ CodePoint.quote :: rest).head?.any isControlLetter = false := by
        intro hc
        cases t with
        | nil => rfl
        | cons d t => exact absurd rfl (hpair d t hc)
      rw [escapeControls_escapedCodePoint hline hnext, ih, if_neg (by simp), List.singleton_append, List.flatMap_cons,
        List.append_assoc]
  | case4 => exact hquote

/-- No two texts are exchanged for one. -/
theorem exchangeControls_injective : Function.Injective exchangeControls := by
  intro s t h
  have hescaped : escapeControls (s.flatMap Json.escapedCodePoint ++ [CodePoint.quote]) =
      escapeControls (t.flatMap Json.escapedCodePoint ++ [CodePoint.quote]) := by
    rw [escapeControls_flatMap, escapeControls_flatMap, h]
  have hread : Json.readString (s.flatMap Json.escapedCodePoint ++ [CodePoint.quote]) = .ok (s, []) := Json.readString_write s
  rw [escapeControls_injective hescaped, Json.readString_write] at hread
  exact (congrArg Prod.fst (Except.ok.inj hread)).symm

/-- Steadiness, code point by code point. -/
theorem steady_cons_iff : Steady (c :: t) ↔
    isLineControl c = false ∧ (c = CodePoint.backslash → t.head?.any isControlLetter = false) ∧ Steady t := by
  have hpair : (∀ letter, isControlLetter letter = true → ¬ [CodePoint.backslash, letter] <+: c :: t) ↔
      (c = CodePoint.backslash → t.head?.any isControlLetter = false) := by
    constructor
    · rintro h rfl
      cases t with
      | nil => rfl
      | cons d t =>
        by_contra hletter
        exact h d (eq_true_of_ne_false hletter) ⟨t, rfl⟩
    · rintro h letter hletter ⟨rest, hrest⟩
      obtain ⟨rfl, rfl⟩ := List.cons.inj hrest
      exact absurd (h rfl) (ne_false_of_eq_true hletter)
  simp only [Steady, List.forall_mem_cons, List.infix_cons_iff, not_or]
  rw [← hpair]
  constructor
  · rintro ⟨⟨hc, ht⟩, h⟩
    exact ⟨hc, fun letter hletter => (h letter hletter).1, ht, fun letter hletter => (h letter hletter).2⟩
  · rintro ⟨hc, hfront, ht, h⟩
    exact ⟨⟨hc, ht⟩, fun letter hletter => ⟨hfront letter hletter, h letter hletter⟩⟩

/-- Exactly the steady texts are left as they are. -/
theorem exchangeControls_eq_self_iff (t : Text) : t.exchangeControls = t ↔ t.Steady := by
  fun_induction exchangeControls t with
  | case1 c t hletter ih =>
    obtain ⟨control, hcontrol, hline, _⟩ := exists_shortEscape? hletter
    have hne : control ≠ c := by
      rintro rfl
      simp only [isControlLetter, Bool.or_eq_true, beq_iff_eq] at hletter
      rcases hletter with rfl | rfl | rfl <;> cases hline
    rw [hcontrol, Option.getD_some, steady_cons_iff]
    refine iff_of_false (fun h => hne (List.cons.inj (List.cons.inj h).2).1) fun h => ?_
    have hnot := h.2.1 rfl
    rw [List.head?_cons, Option.any_some, hletter] at hnot
    cases hnot
  | case2 c t hletter ih =>
    rw [List.cons.injEq, eq_self_iff_true, true_and, ih, steady_cons_iff (c := CodePoint.backslash)]
    exact ⟨fun h => ⟨rfl, fun _ => eq_false_of_ne_true hletter, h⟩, fun h => h.2.2⟩
  | case3 c t hpair ih =>
    cases hline : isLineControl c with
    | true =>
      obtain ⟨letter, _, hc⟩ := exists_escapedCodePoint hline
      rw [if_pos rfl, hc, steady_cons_iff, hline]
      refine iff_of_false (fun h => ?_) fun h => absurd h.1 Bool.noConfusion
      rw [← (List.cons.inj h).1] at hline
      cases hline
    | false =>
      have hnext : c = CodePoint.backslash → t.head?.any isControlLetter = false := by
        intro hc
        cases t with
        | nil => rfl
        | cons d t => exact absurd rfl (hpair d t hc)
      rw [if_neg (by simp), List.singleton_append, List.cons.injEq, eq_self_iff_true, true_and, ih, steady_cons_iff, hline]
      exact ⟨fun h => ⟨rfl, hnext, h⟩, fun h => h.2.2⟩
  | case4 => simp [Steady]

end Text

namespace Json

variable {v : Json}

/-- A value with the controls and the written controls of every string and key exchanged. -/
def exchangeControls (v : Json) : Json := v.mapText Text.exchangeControls

/-- A value with nothing to exchange: every string and every key of it is steady, at every depth. -/
def Steady (v : Json) : Prop := v.Each (fun w => ∀ t, w = .string t → t.Steady) Text.Steady

/-- Exactly the steady values are left as they are. -/
theorem exchangeControls_eq_self_iff (hkeys : v.KeysDistinct) : v.exchangeControls = v ↔ v.Steady :=
  mapText_eq_self_iff Text.exchangeControls_eq_self_iff hkeys

/-- The escape of a string literal is the literal of the exchanged text. -/
theorem escapeControls_writeString (t : Text) : (writeString t).escapeControls = writeString t.exchangeControls := by
  rw [writeString, List.cons_append, Text.escapeControls_cons (by decide), Text.escapeControls_flatMap, writeString,
    List.cons_append]
  rfl

/-- In an integer there is no backslash. -/
theorem backslash_notMem_ofInt (i : Int) : CodePoint.backslash ∉ Text.ofInt i := by
  have hnat : ∀ n, CodePoint.backslash ∉ Text.ofNat n := by
    intro n h
    obtain ⟨d, hd, heq⟩ := List.mem_map.1 h
    have hdigits : ∀ d < 10, 0x30 + d ≠ CodePoint.backslash := by decide
    exact hdigits d (Decimal.lt_ten_of_mem_digits n d hd) heq
  cases i with
  | ofNat n => exact hnat n
  | negSucc n =>
    rintro (_ | ⟨_, h⟩)
    exact hnat (n + 1) h

/-- What is written for a scalar without a float is escaped to what is written for it with its text exchanged. -/
theorem escapeControls_write_scalar (hv : v.IsScalar) (hfloat : v.FloatFree) :
    (write v).escapeControls = write v.exchangeControls := by
  rw [FloatFree, each_of_isScalar hv] at hfloat
  cases v with
  | null => exact Text.escapeControls_of_notMem (by decide)
  | bool b => cases b <;> exact Text.escapeControls_of_notMem (by decide)
  | int i => exact Text.escapeControls_of_notMem (backslash_notMem_ofInt i)
  | float x => exact absurd rfl (hfloat x)
  | string t => rw [write, escapeControls_writeString, exchangeControls, mapText, write]
  | array items => cases hv
  | object entries => cases hv

/-- What is written for a value without floats is escaped to what is written for the value with its texts exchanged. -/
theorem escapeControls_write (hkeys : v.KeysDistinct) : v.FloatFree → (write v).escapeControls = write v.exchangeControls := by
  have hcomma : ∀ pieces, (Text.joinWith [CodePoint.comma] pieces).escapeControls =
      Text.joinWith [CodePoint.comma] (pieces.map Text.escapeControls) :=
    Text.escapeControls_joinWith (by decide) (by decide)
  have hall : Inherited fun v => v.FloatFree → (write v).escapeControls = write v.exchangeControls := by
    refine .of_isScalar (fun v hv => escapeControls_write_scalar hv) (fun items ih hfloat => ?_)
      (fun entries _ ih hfloat => ?_)
    · rw [FloatFree, each_array_iff] at hfloat
      have hitems : items.map (Text.escapeControls ∘ write) = items.map (write ∘ mapText Text.exchangeControls) :=
        List.map_congr_left fun v hv => ih v hv (hfloat v hv)
      rw [exchangeControls, mapText_array, write, write, List.cons_append, Text.escapeControls_cons (by decide),
        Text.escapeControls_append rfl, writeItems_eq_joinWith, writeItems_eq_joinWith, hcomma, List.map_map, List.map_map,
        hitems]
      rfl
    · rw [FloatFree, each_object_iff] at hfloat
      have hentries : entries.map (Text.escapeControls ∘ writeEntry) =
          entries.map (writeEntry ∘ mapTextEntry Text.exchangeControls) := by
        refine List.map_congr_left fun e he => ?_
        rw [Function.comp_apply, writeEntry, Text.escapeControls_append rfl, Text.escapeControls_cons (by decide),
          escapeControls_writeString, ih e he (hfloat e he).2]
        rfl
      rw [exchangeControls, mapText_object, write, write, List.cons_append, Text.escapeControls_cons (by decide),
        Text.escapeControls_append rfl, writeEntries_eq_joinWith, writeEntries_eq_joinWith, hcomma, List.map_map, List.map_map,
        hentries]
      rfl
  exact hall.of_keysDistinct v hkeys

/-- The escaped text of a value without floats is read back, within the limits, as the value with its texts exchanged. -/
theorem read_escapeControls (hkeys : v.KeysDistinct) (hfloat : v.FloatFree) (hlimits : v.WithinLimits) :
    Json.read (write v).escapeControls = .ok v.exchangeControls := by
  have hexact := (exact_of_floatFree hkeys hfloat).2 hlimits.readable
  rw [escapeControls_write hkeys hfloat]
  exact read_write (keysDistinct_mapText Text.exchangeControls_injective hkeys) ((exact_mapText_iff _ hkeys).2 hexact)
    ((nesting_mapText_le_iff _ hkeys _).2 hlimits.nesting)

/-- The escaped text of a value without floats is read back as the value itself exactly when the value is steady and within the
limits. -/
theorem read_escapeControls_iff (hkeys : v.KeysDistinct) (hfloat : v.FloatFree) :
    Json.read (write v).escapeControls = .ok v ↔ v.Steady ∧ v.WithinLimits := by
  constructor
  · intro h
    have hlimits := withinLimits_of_read h
    rw [read_escapeControls hkeys hfloat hlimits] at h
    exact ⟨(exchangeControls_eq_self_iff hkeys).1 (Except.ok.inj h), hlimits⟩
  · rintro ⟨hsteady, hlimits⟩
    rw [read_escapeControls hkeys hfloat hlimits, (exchangeControls_eq_self_iff hkeys).2 hsteady]

end Json

end Descriptors
