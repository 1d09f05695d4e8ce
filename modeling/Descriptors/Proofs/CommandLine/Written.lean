import Descriptors.Proofs.CommandLine.Request

/-!
# Command lines that are written out

Every command with its flags and operands can be asked for: the flags in their long spellings with their values behind equals
signs, before and behind the command as they belong there, and the operands behind the separator (`Request.ofTexts_written`).
-/

namespace Descriptors.CommandLine

variable {s : Scope} {f : Flag}

/-- The long spelling of a flag. -/
def Flag.longSpelling (f : Flag) : Text := f.spellings.getLastD []

/-- A flag in its long spelling, with its value behind an equals sign. -/
def writtenFlag (e : Flag × Option Text) : Text :=
  match e.2 with
  | none => e.1.longSpelling
  | some value => e.1.longSpelling ++ CodePoint.equalsSign :: value

/-- A flag that a scope takes, with a value where one belongs to it. -/
structure Takes (s : Scope) (e : Flag × Option Text) : Prop where
  mem : e.1 ∈ s.flags
  unanswered : e.1 ≠ .help ∧ e.1 ≠ .version
  value : e.2.isSome = e.1.takesValue
  level : e.1 = .logLevel → ∃ name l, e.2 = some name ∧ LogLevel.ofName? name = some l

/-- A text is cut at its first equals sign. -/
theorem cutAtEqualsSign_append {front : Text} (h : CodePoint.equalsSign ∉ front) (value : Text) :
    cutAtEqualsSign (front ++ CodePoint.equalsSign :: value) = (front, some value) := by
  have hfront : ∀ c ∈ front, (c != CodePoint.equalsSign) = true := fun c hc => by
    simpa using fun heq : c = CodePoint.equalsSign => h (heq ▸ hc)
  have hdrop : (front ++ CodePoint.equalsSign :: value).dropWhile (· != CodePoint.equalsSign) = CodePoint.equalsSign :: value := by
    rw [List.dropWhile_append_of_pos hfront]
    rfl
  have htake : (front ++ CodePoint.equalsSign :: value).takeWhile (· != CodePoint.equalsSign) = front := by
    rw [List.takeWhile_append_of_pos hfront]
    simp
  rw [cutAtEqualsSign, hdrop]
  exact congrArg (·, some value) htake

namespace Scope

/-- No spelling of a flag has an equals sign. -/
theorem flag?_append_equalsSign (s : Scope) (front value : Text) : s.flag? (front ++ CodePoint.equalsSign :: value) = none := by
  have hspelled : ∀ e ∈ s.spelled, CodePoint.equalsSign ∉ e.1 := by
    rcases s with _ | k
    · decide
    · cases k <;> decide
  rw [flag?, List.lookup_eq_none_iff]
  intro e he
  refine bne_iff_ne.2 fun heq => hspelled e he ?_
  rw [← heq]
  simp

/-- The long spelling of a flag of a scope is one of its spellings there. -/
theorem flag?_longSpelling (h : f ∈ s.flags) : s.flag? f.longSpelling = some f := by
  revert h
  rcases s with _ | k
  · cases f <;> decide
  · cases k <;> cases f <;> decide

/-- A flag that is written out is no operand. -/
theorem word_writtenFlag_eq (s : Scope) (e : Flag × Option Text) :
    s.word (writtenFlag e) =
      match s.flag? (writtenFlag e) with
      | some f => .ok (.flag f none)
      | none =>
        match cutAtEqualsSign (writtenFlag e) with
        | (name, some value) =>
          match s.flag? name with
          | some f => .ok (.flag f (some value))
          | none => s.unspelledWord (writtenFlag e)
        | (_, none) => s.unspelledWord (writtenFlag e) := by
  have hlong : ∀ f : Flag, f.longSpelling.head? = some CodePoint.dash ∧ 1 < f.longSpelling.length := by
    intro f
    cases f <;> decide
  have hhead : (writtenFlag e).head? = some CodePoint.dash := by
    unfold writtenFlag
    split
    · exact (hlong e.1).1
    · rw [List.head?_append, (hlong e.1).1, Option.some_or]
  have hlength : (writtenFlag e).length ≠ 1 := by
    have hlonger := (hlong e.1).2
    unfold writtenFlag
    split
    · omega
    · rw [List.length_append, List.length_cons]
      omega
  have hword : ¬((writtenFlag e).head? != some CodePoint.dash || (writtenFlag e).length == 1) = true := by simp [hhead, hlength]
  rewrite [word, if_neg hword]
  rfl

/-- A flag that a scope takes is read as it is written out. -/
theorem word_writtenFlag {e : Flag × Option Text} (h : Takes s e) : s.word (writtenFlag e) = .ok (.flag e.1 e.2) := by
  obtain ⟨f, value⟩ := e
  rw [word_writtenFlag_eq]
  cases value with
  | none => rw [writtenFlag, flag?_longSpelling h.mem]
  | some value =>
    have hequals : CodePoint.equalsSign ∉ f.longSpelling := by cases f <;> decide
    simp only [writtenFlag]
    rw [flag?_append_equalsSign, cutAtEqualsSign_append hequals]
    simp only [flag?_longSpelling h.mem]

/-- The program reads a flag that a command takes as an argument of some sort. -/
theorem word_program_writtenFlag {k : Command} {e : Flag × Option Text} (h : Takes (.command k) e) :
    ∃ w, program.word (writtenFlag e) = .ok w := by
  obtain ⟨f, value⟩ := e
  cases value with
  | none =>
    have hmem := h.mem
    have hunanswered := h.unanswered
    have hvalue := h.value
    revert hmem hunanswered hvalue
    cases f with
    | noFlatten | mainConfiguration => exact fun _ _ _ => ⟨.unknown, by decide⟩
    | _ => cases k <;> simp [Flag.takesValue, flags]
  | some value =>
    have hgroup : f = .group := by
      have hmem := h.mem
      have hvalue := h.value
      revert hmem hvalue
      cases k <;> cases f <;> simp [Flag.takesValue, flags]
    subst hgroup
    have hequals : CodePoint.equalsSign ∉ Flag.group.longSpelling := by decide
    have hname : program.flag? Flag.group.longSpelling = none := by decide
    have hshort : program.abbreviated (Flag.group.longSpelling ++ CodePoint.equalsSign :: value) = [] := by
      have hlong : Flag.group.longSpelling = CodePoint.dash :: CodePoint.dash :: Text.ofString "group" := by decide
      have hspelled : program.spelled.filter (fun e => Flag.group.longSpelling.isPrefixOf e.1) = [] := by decide
      have hcut := cutAtEqualsSign_append hequals value
      rw [hlong, List.cons_append, List.cons_append] at hcut ⊢
      rw [abbreviated, hcut]
      dsimp only
      rw [← hlong, hspelled]
      rfl
    rw [word_writtenFlag_eq]
    simp only [writtenFlag]
    rw [flag?_append_equalsSign, cutAtEqualsSign_append hequals]
    simp only [hname]
    rw [unspelledWord, hshort]
    exact ⟨_, rfl⟩

/-- A flag that is written out is not the separator. -/
theorem writtenFlag_ne_separator (e : Flag × Option Text) : writtenFlag e ≠ separator := by
  have hlong : ∀ f : Flag, 2 < f.longSpelling.length := by
    intro f
    cases f <;> decide
  intro h
  have hlength := congrArg List.length h
  have htwo : separator.length = 2 := by decide
  have hlonger := hlong e.1
  unfold writtenFlag at hlength
  split at hlength
  · omega
  · rw [List.length_append] at hlength
    omega

/-- The argument that a flag is where it is written out. -/
def writtenArgument (e : Flag × Option Text) : Argument := ⟨[writtenFlag e], .flag e.1 e.2⟩

/-- Flags that a scope takes are read in order, as they are written out. -/
theorem words_writtenFlags {written : List (Flag × Option Text)} (h : ∀ e ∈ written, Takes s e) (rest : List Text) :
    s.words (written.map writtenFlag ++ rest) = (s.words rest).map (written.map writtenArgument ++ ·) := by
  induction written with
  | nil =>
    rw [List.map_nil, List.nil_append]
    cases s.words rest <;> rfl
  | cons e written ih =>
    obtain ⟨he, hwritten⟩ := List.forall_mem_cons.1 h
    rw [List.map_cons, List.cons_append, words, if_neg (writtenFlag_ne_separator e), word_writtenFlag he, ih hwritten]
    cases s.words rest <;> rfl

/-- Texts that are each an argument are arguments together, with operands behind the separator. -/
theorem words_ok {front : List Text} (h : ∀ t ∈ front, ∃ w, s.word t = .ok w) (operands : List Text) :
    ∃ arguments, s.words (front ++ separator :: operands) = .ok arguments := by
  induction front with
  | nil => exact ⟨_, by rw [List.nil_append, words, if_pos rfl]⟩
  | cons t front ih =>
    obtain ⟨⟨w, hw⟩, hfront⟩ := List.forall_mem_cons.1 h
    obtain ⟨arguments, harguments⟩ := ih hfront
    rw [List.cons_append, words]
    split
    · exact ⟨_, rfl⟩
    · rw [hw, harguments]
      exact ⟨_, rfl⟩

end Scope

open Scope

namespace Argument

/-- A flag that has its value, or needs none, has nothing joined to it. -/
theorem joinValues_writtenArguments {written : List (Flag × Option Text)} (h : ∀ e ∈ written, Takes s e) (rest : List Argument) :
    joinValues (written.map writtenArgument ++ rest) = written.map writtenArgument ++ joinValues rest := by
  induction written with
  | nil => rfl
  | cons e written ih =>
    obtain ⟨he, hwritten⟩ := List.forall_mem_cons.1 h
    rw [List.map_cons, List.cons_append, List.cons_append, joinValues_cons, ih hwritten]
    intro f hword
    obtain ⟨f', value⟩ := e
    cases hword
    exact he.value.symm

end Argument

/-- The operands of a command that all stand behind the separator: the first one is what it is. -/
def separatedOperands : List Text → List (Option Text)
  | [] => []
  | t :: texts => some t :: texts.map textBehindSeparator

namespace Progress

variable {p : Progress} {needed : Nat} {flags : List (Flag × Option Text)}

/-- A flag that a scope takes is taken. -/
theorem take_writtenArgument {e : Flag × Option Text} (h : Takes s e) (hp : p.settings = Settings.ofFlags flags) :
    take s needed p (writtenArgument e) = .ok { p with settings := Settings.ofFlags (flags ++ [e]), behindOperand := false } := by
  obtain ⟨f, value⟩ := e
  have htaken : ∃ p', takeFlag { p with behindOperand := false } s f value = .ok p' := by
    have hunanswered := h.unanswered
    have hvalue := h.value
    have hlevel := h.level
    cases f with
    | help => exact absurd rfl hunanswered.1
    | version => exact absurd rfl hunanswered.2
    | noFlatten | mainConfiguration =>
      cases value with
      | none => exact ⟨_, rfl⟩
      | some value => cases hvalue
    | group =>
      cases value with
      | none => cases hvalue
      | some value => exact ⟨_, rfl⟩
    | logLevel =>
      obtain ⟨name, l, hname, hl⟩ := hlevel rfl
      cases hname
      rw [takeFlag, hl]
      exact ⟨_, rfl⟩
  obtain ⟨p', hp'⟩ := htaken
  have heq := takeFlag_ok (p := { p with behindOperand := false }) hp hp'
  subst heq
  exact hp'

/-- Flags that a scope takes are taken one after the other. -/
theorem foldlM_take_writtenArguments : ∀ {written flags : List (Flag × Option Text)} {p : Progress},
    (∀ e ∈ written, Takes s e) → p.settings = Settings.ofFlags flags → p.behindOperand = false →
    (written.map writtenArgument).foldlM (take s needed) p = .ok { p with settings := Settings.ofFlags (flags ++ written) } := by
  intro written
  induction written with
  | nil =>
    intro flags p _ hp _
    rw [List.append_nil, ← hp]
    rfl
  | cons e written ih =>
    intro flags p h hp hbehind
    obtain ⟨he, hwritten⟩ := List.forall_mem_cons.1 h
    rw [List.map_cons, List.foldlM_cons, take_writtenArgument he hp]
    have hrest := @ih (flags ++ [e]) { p with settings := Settings.ofFlags (flags ++ [e]), behindOperand := false } hwritten rfl rfl
    rw [List.append_assoc, List.singleton_append] at hrest
    rw [← hbehind] at hrest ⊢
    exact hrest

/-- All operands stand behind the separator. -/
theorem takeSeparated_eq {operands : List Text} (hoperands : p.operands = []) (hleft : p.leftOver = [])
    (hbehind : p.behindOperand = false) (hneeded : operands.length = needed) (hpos : 0 < needed) :
    p.takeSeparated needed operands = { p with operands := separatedOperands operands } := by
  obtain ⟨t, texts, rfl⟩ := List.exists_cons_of_length_pos (hneeded ▸ hpos)
  obtain rfl : texts.length + 1 = needed := hneeded
  obtain ⟨settings, operands', leftOver, behindOperand⟩ := p
  cases hoperands
  cases hleft
  cases hbehind
  simp [takeSeparated, separatedOperands]

end Progress

namespace Request

variable {k : Command} {before behind : List (Flag × Option Text)} {operands : List Text}

/-- The program reads its flags, the command, and something behind that. -/
theorem read_program_written (hbefore : ∀ e ∈ before, Takes .program e) (hbehind : ∀ e ∈ behind, Takes (.command k) e)
    (operands : List Text) :
    ∃ rest, Argument.read .program (before.map writtenFlag ++ k.name :: (behind.map writtenFlag ++ separator :: operands)) =
        .ok (before.map writtenArgument ++ Argument.ofOperand k.name :: rest) ∧
      rest.flatMap (·.texts) = behind.map writtenFlag ++ separator :: operands := by
  have hname : Scope.program.word k.name = .ok (.operand k.name) := by cases k <;> decide
  have hne : k.name ≠ separator := by cases k <;> decide
  have hwords : ∀ t ∈ behind.map writtenFlag, ∃ w, Scope.program.word t = .ok w := by
    intro t ht
    obtain ⟨e, he, rfl⟩ := List.mem_map.1 ht
    exact word_program_writtenFlag (hbehind e he)
  obtain ⟨rest, hrest⟩ := words_ok hwords operands
  obtain ⟨hstand, htexts⟩ := Argument.stand_of_words hrest
  refine ⟨Argument.joinValues rest, ?_, ((Argument.joins_joinValues rest).stand hstand).2.trans htexts⟩
  rw [Argument.read, words_writtenFlags hbefore, Scope.words, if_neg hne, hname, hrest]
  change Except.ok (Argument.joinValues (before.map writtenArgument ++ Argument.ofOperand k.name :: rest)) = _
  rw [Argument.joinValues_writtenArguments hbefore, Argument.joinValues_cons (by simp [Argument.ofOperand])]

/-- A command reads its flags and the operands behind the separator. -/
theorem read_command_written (hbehind : ∀ e ∈ behind, Takes (.command k) e) (operands : List Text) :
    Argument.read (.command k) (behind.map writtenFlag ++ separator :: operands) =
      .ok (behind.map writtenArgument ++ ⟨[separator], .separator⟩ :: operands.map Argument.ofOperand) := by
  rw [Argument.read, words_writtenFlags hbehind, Scope.words, if_pos rfl]
  change Except.ok (Argument.joinValues
    (behind.map writtenArgument ++ ⟨[separator], .separator⟩ :: operands.map Argument.ofOperand)) = _
  rw [Argument.joinValues_writtenArguments hbehind, Argument.joinValues_separated]

/-- A command takes its flags and the operands behind the separator. -/
theorem takeAll_written (hbehind : ∀ e ∈ behind, Takes (.command k) e) (hoperands : operands.length = k.operandNames.length) :
    Progress.takeAll (.command k) k.operandNames.length { settings := Settings.ofFlags before }
        (behind.map writtenArgument ++ ⟨[separator], .separator⟩ :: operands.map Argument.ofOperand) =
      .ok { settings := Settings.ofFlags (before ++ behind), operands := separatedOperands operands } := by
  have hflags : ∀ a ∈ behind.map writtenArgument, (a.word != .separator) = true := by
    intro a ha
    obtain ⟨e, _, rfl⟩ := List.mem_map.1 ha
    rfl
  have hdrop : ∀ rest : List Argument, List.dropWhile (fun a : Argument => a.word != .separator)
      (⟨[separator], .separator⟩ :: rest) = ⟨[separator], .separator⟩ :: rest := fun _ => rfl
  have htake : ∀ rest : List Argument, List.takeWhile (fun a : Argument => a.word != .separator)
      (⟨[separator], .separator⟩ :: rest) = [] := fun _ => rfl
  have hfold : (behind.map writtenArgument).foldlM (Progress.take (.command k) k.operandNames.length)
      { settings := Settings.ofFlags before } = .ok { settings := Settings.ofFlags (before ++ behind) } :=
    Progress.foldlM_take_writtenArguments hbehind rfl rfl
  rw [Progress.takeAll, List.dropWhile_append_of_pos hflags, List.takeWhile_append_of_pos hflags, hdrop, htake, List.append_nil,
    hfold]
  dsimp only
  rw [Argument.flatMap_texts_ofOperand]
  exact congrArg Except.ok (Progress.takeSeparated_eq rfl rfl rfl hoperands (by cases k <;> decide))

/-- A command that is written out with flags before and behind it, and with its operands behind the separator, is asked for. -/
theorem ofTexts_written {c : Call} (hbefore : ∀ e ∈ before, Takes .program e) (hbehind : ∀ e ∈ behind, Takes (.command k) e)
    (hoperands : operands.length = k.operandNames.length)
    (hcall : Call.ofOperands? k (Settings.ofFlags (before ++ behind)) (separatedOperands operands) = some c) :
    ofTexts (before.map writtenFlag ++ k.name :: (behind.map writtenFlag ++ separator :: operands)) = .ok (.call c) := by
  have hcommand : ofCommand { settings := Settings.ofFlags before } k.name (behind.map writtenFlag ++ separator :: operands) =
      .ok (.call c) := by
    have hfound : Command.ofName? k.name = some k := by cases k <;> decide
    rw [ofCommand, hfound]
    dsimp only
    rw [ofCommandArguments, read_command_written hbehind]
    dsimp only
    rw [takeAll_written hbehind hoperands]
    dsimp only
    rw [hcall]
    rfl
  obtain ⟨rest, hread, htexts⟩ := read_program_written hbefore hbehind operands
  have hstarts : ∀ a ∈ before.map writtenArgument, (!startsCommand a) = true := by
    intro a ha
    obtain ⟨e, _, rfl⟩ := List.mem_map.1 ha
    rfl
  have hdrop : ∀ rest : List Argument, List.dropWhile (fun a => !startsCommand a) (Argument.ofOperand k.name :: rest) =
      Argument.ofOperand k.name :: rest := fun _ => rfl
  have htake : ∀ rest : List Argument, List.takeWhile (fun a => !startsCommand a) (Argument.ofOperand k.name :: rest) = [] :=
    fun _ => rfl
  have hfold : (before.map writtenArgument).foldlM (Progress.take .program 0) {} =
      .ok { settings := Settings.ofFlags ([] ++ before) } :=
    Progress.foldlM_take_writtenArguments hbefore rfl rfl
  have hne : k.name ≠ separator := by cases k <;> decide
  rw [List.nil_append] at hfold
  rw [ofTexts, hread]
  dsimp only
  rw [List.takeWhile_append_of_pos hstarts, List.dropWhile_append_of_pos hstarts, hdrop, htake, List.append_nil, hfold,
    List.flatMap_cons, htexts]
  dsimp only [Argument.ofOperand, List.singleton_append]
  rw [if_neg (fun h => hne h.1)]
  exact hcommand

end Request

end Descriptors.CommandLine
