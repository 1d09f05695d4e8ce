import Descriptors.Proofs.CommandLine.Argument
import Mathlib.Data.List.Forall2
import Mathlib.Data.List.TakeWhile

/-!
# What a command line asks for

The settings are those of the flags that are read (`Settings.ofFlags`): of a flag with a value the last one counts, and nothing
else in a command line changes them (`Progress.Reads.takeAll`). So a call is made of its flags, its command and its operands
(`Request.isAskedBy_of_ofTexts`), and the rows of a property to be described are always taken property by property, as the only flag
that changes this is none of that command (`Request.describe_part`).
-/

namespace Descriptors.CommandLine

variable {s : Scope} {t : Text} {f : Flag} {a : Argument} {arguments : List Argument} {texts : List Text}

/-! ## What flags set -/

/-- The values that are given for a flag, in order. -/
def valuesOf (f : Flag) (flags : List (Flag × Option Text)) : List Text :=
  flags.filterMap fun e => if e.1 = f then e.2 else none

/-- The settings that flags give: the last log level and the last group count, and a flag without a value counts where it stands at
all. -/
def Settings.ofFlags (flags : List (Flag × Option Text)) : Settings where
  logLevel := (((valuesOf .logLevel flags).filterMap LogLevel.ofName?).getLast?).getD .warning
  group := ((valuesOf .group flags).getLast?).getD Group.properties
  form := bif flags.any (·.1 = .noFlatten) then .attributes else .properties
  inMainConfiguration := flags.any (·.1 = .mainConfiguration)

/-- An operand of a command stands for a text: it has this text, or has none where the text is a separator. -/
def StandsFor (operand : Option Text) (t : Text) : Prop := operand = some t ∨ operand = none ∧ t = separator

/-- How far the reading has come after some flags and operands: they are all taken, unless something is left over. -/
structure Progress.Reads (p : Progress) (flags : List (Flag × Option Text)) (texts : List Text) : Prop where
  settings : p.settings = Settings.ofFlags flags
  operands : p.leftOver = [] → List.Forall₂ StandsFor p.operands texts

namespace Progress

variable {p p' : Progress} {needed : Nat} {value : Option Text} {flags : List (Flag × Option Text)}

/-- A flag changes the settings as flags do, and nothing else. -/
theorem takeFlag_ok (hp : p.settings = Settings.ofFlags flags) (h : p.takeFlag s f value = .ok p') :
    p' = { p with settings := Settings.ofFlags (flags ++ [(f, value)]) } := by
  cases f with
  | help | version => cases value <;> cases h
  | noFlatten | mainConfiguration =>
    cases value <;> cases h
    simp [hp, Settings.ofFlags, valuesOf]
  | group =>
    cases value <;> cases h
    simp [hp, Settings.ofFlags, valuesOf]
  | logLevel =>
    cases value with
    | none => cases h
    | some name =>
      simp only [takeFlag] at h
      split at h <;> cases h
      next l hl => simp [hp, Settings.ofFlags, valuesOf, hl]

/-- What a reading has taken, an argument adds to. -/
theorem Reads.take (hp : p.Reads flags texts) (ha : a.texts ≠ []) (h : take s needed p a = .ok p') :
    p'.Reads (flags ++ a.flags) (texts ++ a.operands) := by
  unfold Progress.take at h
  unfold Argument.flags Argument.operands
  split at h
  · next f value hword =>
    have hp' := takeFlag_ok (p := { p with behindOperand := false }) hp.settings h
    subst hp'
    rw [hword]
    exact ⟨rfl, fun hnone => (List.append_nil texts).symm ▸ hp.operands hnone⟩
  · split at h <;> cases h
  · next t hword =>
    rw [hword]
    split at h <;> cases h
    · exact ⟨(List.append_nil flags).symm ▸ hp.settings, fun hnone =>
        List.rel_append (hp.operands hnone) (.cons (Or.inl rfl) .nil)⟩
    · exact ⟨(List.append_nil flags).symm ▸ hp.settings, fun hnone => absurd (List.append_eq_nil_iff.1 hnone).2 ha⟩
  · next hword =>
    cases h
    rw [hword]
    exact ⟨(List.append_nil flags).symm ▸ hp.settings, fun hnone => absurd (List.append_eq_nil_iff.1 hnone).2 ha⟩
  · next hword =>
    cases h
    rw [hword]
    exact ⟨(List.append_nil flags).symm ▸ hp.settings, fun hnone => absurd (List.append_eq_nil_iff.1 hnone).2 ha⟩

/-- Arguments add all that they hold. -/
theorem Reads.foldlM_take : ∀ {arguments : List Argument} {p : Progress} {flags : List (Flag × Option Text)} {texts : List Text},
    p.Reads flags texts → (∀ a ∈ arguments, a.texts ≠ []) → arguments.foldlM (Progress.take s needed) p = .ok p' →
    p'.Reads (flags ++ arguments.flatMap Argument.flags) (texts ++ arguments.flatMap Argument.operands) := by
  intro arguments
  induction arguments with
  | nil =>
    intro p flags texts hp _ h
    cases h
    simpa using hp
  | cons a arguments ih =>
    intro p flags texts hp ha h
    obtain ⟨ha, harguments⟩ := List.forall_mem_cons.1 ha
    rw [List.foldlM_cons] at h
    obtain ⟨q, hq, h⟩ := Outcome.bind_ok_iff.1 h
    rw [List.flatMap_cons, List.flatMap_cons, ← List.append_assoc, ← List.append_assoc]
    exact ih (hp.take ha hq) harguments h

/-- Texts behind the separator stand for operands, but the separator counts as none. -/
theorem forall₂_textBehindSeparator (texts : List Text) : List.Forall₂ StandsFor (texts.map textBehindSeparator) texts := by
  induction texts with
  | nil => exact .nil
  | cons t texts ih =>
    refine .cons ?_ ih
    unfold textBehindSeparator
    split
    · next h => exact Or.inr ⟨rfl, h⟩
    · exact Or.inl rfl

/-- What stands behind the separator is added to the operands. -/
theorem Reads.takeSeparated (hp : p.Reads flags texts) (needed : Nat) (behind : List Text) :
    (p.takeSeparated needed behind).Reads flags (texts ++ behind) := by
  have hall : ∀ {n : Nat} {rest : List Text}, rest.drop n = [] →
      (rest.take n).map textBehindSeparator = rest.map textBehindSeparator :=
    fun h => by rw [List.take_of_length_le (List.drop_eq_nil_iff.1 h)]
  unfold Progress.takeSeparated
  dsimp only
  split
  · refine ⟨hp.settings, fun hnone => ?_⟩
    obtain ⟨hleft, hdrop⟩ := List.append_eq_nil_iff.1 hnone
    rw [hall hdrop]
    exact List.rel_append (hp.operands hleft) (forall₂_textBehindSeparator behind)
  · split
    · next t behind _ =>
      refine ⟨hp.settings, fun hnone => ?_⟩
      obtain ⟨hleft, hdrop⟩ := List.append_eq_nil_iff.1 hnone
      rw [hall hdrop]
      exact List.rel_append (hp.operands hleft) (.cons (Or.inl rfl) (forall₂_textBehindSeparator behind))
    · exact ⟨hp.settings, fun hnone => nomatch (List.append_eq_nil_iff.1 hnone).2⟩

end Progress

/-- All arguments of a command add what they hold. -/
theorem Progress.Reads.takeAll {p p' : Progress} {needed : Nat} {flags : List (Flag × Option Text)} (hp : p.Reads flags texts)
    (hstand : Argument.Stand arguments) (h : p.takeAll s needed arguments = .ok p') :
    p'.Reads (flags ++ arguments.flatMap Argument.flags) (texts ++ arguments.flatMap Argument.operands) := by
  have htexts := hstand.texts_ne_nil
  unfold Progress.takeAll at h
  dsimp only at h
  have hsplit := List.takeWhile_append_dropWhile (p := fun a : Argument => a.word != .separator) (l := arguments)
  split at h
  · exact hp.foldlM_take htexts h
  · next a separated hdrop =>
    obtain ⟨q, hq, rfl⟩ := Outcome.map_ok_iff.1 h
    have hreads := hp.foldlM_take (fun a ha => htexts a (List.takeWhile_subset _ ha)) hq
    -- the separator itself holds nothing, and what stands behind it are operands
    have hword : a.word = .separator := by
      have hhead := List.head?_dropWhile_not (fun a : Argument => a.word != .separator) arguments
      rw [hdrop] at hhead
      simpa using hhead
    rw [hdrop] at hsplit
    rw [← hsplit] at hstand
    obtain ⟨behind, rfl⟩ := hstand.of_append.2.1 hword
    have hflags : a.flags = [] := by rw [Argument.flags, hword]
    have hoperands : a.operands = [] := by rw [Argument.operands, hword]
    rw [← hsplit, List.flatMap_append, List.flatMap_append, List.flatMap_cons, List.flatMap_cons, hflags, hoperands,
      Argument.flatMap_flags_ofOperand, Argument.flatMap_operands_ofOperand, List.append_nil, List.nil_append, List.append_nil,
      ← List.append_assoc, Argument.flatMap_texts_ofOperand]
    exact hreads.takeSeparated needed behind

/-! ## What a call is made of -/

/-- The flags of some arguments, with their values. -/
def flagsOf (arguments : List Argument) : List (Flag × Option Text) := arguments.flatMap Argument.flags

/-- A call is asked for by texts: a command is named behind arguments of the program, none of which is a command; the settings are
those of the flags before and behind the command, and the operands stand for all operands behind it, in order. -/
def Call.IsAskedBy (c : Call) (texts : List Text) : Prop :=
  ∃ k before behind rest arguments operands, Argument.read .program texts = .ok (before ++ behind) ∧
    (∀ a ∈ before, Request.startsCommand a = false) ∧ behind.flatMap (·.texts) = Command.name k :: rest ∧
    Argument.read (.command k) rest = .ok arguments ∧ List.Forall₂ StandsFor operands (arguments.flatMap Argument.operands) ∧
    Call.ofOperands? k (Settings.ofFlags (flagsOf before ++ flagsOf arguments)) operands = some c

namespace Progress

variable {p : Progress} {needed : Nat}

/-- What a flag is answered with at once is help or the version, never a command. -/
theorem takeFlag_answered {value : Option Text} {r : Request} (h : p.takeFlag s f value = .error (.answered r)) (c : Call) :
    r ≠ .call c := by
  cases f with
  | help | version =>
    cases value <;> cases h
    exact nofun
  | logLevel =>
    cases value with
    | none => cases h
    | some name =>
      simp only [takeFlag] at h
      split at h <;> cases h
  | noFlatten | group | mainConfiguration => cases value <;> cases h

/-- What an argument is answered with at once is no command. -/
theorem take_answered {r : Request} (h : take s needed p a = .error (.answered r)) (c : Call) : r ≠ .call c := by
  unfold take at h
  split at h
  · exact takeFlag_answered h c
  · split at h <;> cases h
    exact nofun
  · split at h <;> cases h
  · cases h
  · cases h

/-- Where the reading of arguments ends early, it does not lead to a command. -/
theorem request_ne_call {ending : Ending} (h : arguments.foldlM (take s needed) p = .error ending) (c : Call) (s' : Scope) :
    ending.request s' ≠ .ok (.call c) := by
  obtain ⟨q, a, _, hstep⟩ := Outcome.foldlM_error h
  cases ending with
  | refused cause => exact nofun
  | answered r => exact fun hr => take_answered hstep c (Except.ok.inj hr)

/-- The same for all arguments of a command. -/
theorem request_takeAll_ne_call {ending : Ending} (h : p.takeAll s needed arguments = .error ending) (c : Call) (s' : Scope) :
    ending.request s' ≠ .ok (.call c) := by
  unfold takeAll at h
  dsimp only at h
  split at h
  · exact request_ne_call h c s'
  · exact request_ne_call (Outcome.map_error_iff.1 h) c s'

end Progress

namespace Request

variable {c : Call} {k : Command} {p : Progress}

/-- A request of a whole reading is what was read, with nothing left over. -/
theorem unlessLeftOver_ok {leftOver : List Text} {r r' : Request} (h : unlessLeftOver leftOver r = .ok r') :
    r = r' ∧ leftOver = [] := by
  unfold unlessLeftOver at h
  split at h
  · next hempty =>
    cases h
    exact ⟨rfl, List.isEmpty_iff.1 hempty⟩
  · cases h

/-- A command has the name by which it is found. -/
theorem name_of_ofName? {name : Text} (h : Command.ofName? name = some k) : Command.name k = name := by
  simpa using List.find?_some h

/-- A call of a command has its operands, after all its arguments were read and nothing was left over. -/
theorem ofCommandArguments_call (h : ofCommandArguments k p texts = .ok (.call c)) :
    ∃ arguments p', Argument.read (.command k) texts = .ok arguments ∧
      p.takeAll (.command k) k.operandNames.length arguments = .ok p' ∧ p'.leftOver = [] ∧
      Call.ofOperands? k p'.settings p'.operands = some c := by
  unfold ofCommandArguments at h
  split at h
  · cases h
  split at h
  · next hread _ _ htake => exact absurd h (Progress.request_takeAll_ne_call htake c _)
  split at h
  · cases h
  · next hread _ _ htake _ _ hoperands =>
    obtain ⟨heq, hleft⟩ := unlessLeftOver_ok h
    cases heq
    exact ⟨_, _, hread, htake, hleft, hoperands⟩

/-- Arguments that do not name a command hold no operand. -/
theorem operands_eq_nil (h : ∀ a ∈ arguments, startsCommand a = false) : arguments.flatMap Argument.operands = [] := by
  refine List.flatMap_eq_nil_iff.2 fun a ha => ?_
  have hstarts := h a ha
  unfold Argument.operands
  unfold startsCommand at hstarts
  split <;> simp_all

/-- A call is asked for by the texts that lead to it. -/
theorem isAskedBy_of_ofTexts (h : ofTexts texts = .ok (.call c)) : c.IsAskedBy texts := by
  unfold ofTexts at h
  split at h
  · cases h
  next arguments hread =>
  have hstand := (Argument.stand_of_read hread).1
  split at h
  · next htake => exact absurd h (Progress.request_ne_call htake c _)
  next p htake =>
  have hsplit := List.takeWhile_append_dropWhile (p := fun a => !startsCommand a) (l := arguments)
  have hbefore : ∀ a ∈ arguments.takeWhile (!startsCommand ·), startsCommand a = false := fun a ha => by
    simpa using List.mem_takeWhile_imp ha
  have hreads : p.Reads (flagsOf (arguments.takeWhile (!startsCommand ·))) [] := by
    have hstart : Progress.Reads {} [] [] := ⟨rfl, fun _ => .nil⟩
    have hall := hstart.foldlM_take (fun a ha => hstand.texts_ne_nil a (List.takeWhile_subset _ ha)) htake
    rwa [operands_eq_nil hbefore] at hall
  split at h
  · exact nomatch (unlessLeftOver_ok h).1
  next name rest hbehind =>
  split at h
  · exact nomatch (unlessLeftOver_ok h).1
  unfold ofCommand at h
  split at h
  · cases h
  next k hname =>
  obtain ⟨commandArguments, p', hread', htake', hleft, hoperands⟩ := ofCommandArguments_call h
  have hreads' := hreads.takeAll (Argument.stand_of_read hread').1 htake'
  rw [hreads'.settings] at hoperands
  refine ⟨k, _, _, rest, commandArguments, p'.operands, hread.trans (congrArg Except.ok hsplit.symm), hbefore, ?_, hread', ?_,
    hoperands⟩
  · rw [hbehind, name_of_ofName? hname]
  · exact hreads'.operands hleft

/-- A property is described from the main configuration, or from a group whose rows are taken property by property. -/
theorem describe_part {part : Part} {name : Option Text} (h : ofTexts texts = .ok (.call c)) (hc : c.task = .describe part name) :
    part = .mainConfiguration ∨ ∃ group, part = .group group .properties := by
  obtain ⟨k, before, behind, rest, arguments, operands, hread, _, _, hread', _, hoperands⟩ := isAskedBy_of_ofTexts h
  unfold Call.ofOperands? at hoperands
  split at hoperands
  · cases hoperands
    cases hc
  · cases hoperands
    cases hc
    -- neither the program nor the command that describes has the flag for the other form
    have hform : ∀ {s : Scope} {arguments : List Argument}, .noFlatten ∉ s.flags → (∀ a ∈ arguments, a.word.IsOf s) →
        (flagsOf arguments).any (·.1 = .noFlatten) = false := by
      intro s arguments hs hof
      rw [List.any_eq_false]
      intro e he
      obtain ⟨a, ha, he⟩ := List.mem_flatMap.1 he
      unfold Argument.flags at he
      split at he
      · next f value hword =>
        obtain rfl := List.mem_singleton.1 he
        have hf := hof a ha f value hword
        simp only [decide_eq_true_eq]
        rintro rfl
        exact hs hf
      · cases he
    have hprogram := Argument.read_isOf hread
    have hsettings : (Settings.ofFlags (flagsOf before ++ flagsOf arguments)).form = .properties := by
      rw [Settings.ofFlags]
      dsimp only
      rw [List.any_append, hform (by decide) (fun a ha => hprogram a (List.mem_append_left _ ha)),
        hform (by decide) (Argument.read_isOf hread')]
      rfl
    rw [Settings.part, hsettings]
    split
    · exact Or.inl rfl
    · exact Or.inr ⟨_, rfl⟩
  · cases hoperands
    cases hc
  · cases hoperands

end Request

end Descriptors.CommandLine
