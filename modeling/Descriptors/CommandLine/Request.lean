import Descriptors.CommandLine.Argument
import Descriptors.Descriptor.Rows

/-!
# Requests

A command line asks for a command on a file, for help, or for the version. The arguments are read from the left: a flag changes
the settings, an operand goes to the command as long as it needs one, and what nothing asks for is left over. Help and the
version are given at once, whatever stands behind.
-/

namespace Descriptors.CommandLine

/-- The part of a descriptor whose rows are taken. -/
inductive Part where
  | group (name : Text) (form : GroupForm)
  | mainConfiguration
  deriving DecidableEq

/-- A command with what it needs beside the file. -/
inductive Task where
  | rows (part : Part)
  /-- The summary of a property. There is no name where a second `--` stands in its place. -/
  | describe (part : Part) (name : Option Text)
  | component
  deriving DecidableEq

/-- A command on a file. -/
structure Call where
  logLevel : LogLevel
  file : Path
  task : Task
  deriving DecidableEq

/-- What a command line asks for. -/
inductive Request where
  | call (c : Call)
  | help (s : Scope)
  | version
  /-- No command is named. -/
  | noCommand
  deriving DecidableEq

/-- What the flags set. -/
structure Settings where
  logLevel : LogLevel := .warning
  group : Text := Group.properties
  form : GroupForm := .properties
  inMainConfiguration : Bool := false

/-- The part that is set. -/
def Settings.part (s : Settings) : Part := if s.inMainConfiguration then .mainConfiguration else .group s.group s.form

/-- Why the reading of arguments ends before their end. -/
inductive Ending where
  | answered (r : Request)
  | refused (cause : UsageCause)

/-- How far the reading of arguments has come. -/
structure Progress where
  settings : Settings := {}
  /-- The operands of the command. One that is only a separator counts as given, but has no text. -/
  operands : List (Option Text) := []
  leftOver : List Text := []
  /-- Whether the last argument went to the command. -/
  behindOperand : Bool := false

/-- What is refused right behind a short flag, where more short flags may stand: a dash, and a value for the last flag. -/
def refusedTail : Text → Option Text
  | [] => none
  | CodePoint.equalsSign :: value => some value
  | CodePoint.dash :: tail => some (CodePoint.dash :: tail)
  | c :: tail => if Flag.help.spellings.contains [CodePoint.dash, c] then refusedTail tail else none

/-- The text of an operand behind the separator to which the separator does not belong: a second `--` in its place gives none. -/
def textBehindSeparator (t : Text) : Option Text := if t = separator then none else some t

namespace Progress

/-- Reads a flag with its value. -/
def takeFlag (p : Progress) (s : Scope) (f : Flag) (value : Option Text) : Except Ending Progress :=
  match f, value with
  | .help, none => .error (.answered (.help s))
  | .version, none => .error (.answered .version)
  | .noFlatten, none => .ok { p with settings := { p.settings with form := .attributes } }
  | .mainConfiguration, none => .ok { p with settings := { p.settings with inMainConfiguration := true } }
  | .logLevel, some name =>
    match LogLevel.ofName? name with
    | some l => .ok { p with settings := { p.settings with logLevel := l } }
    | none => .error (.refused (.unknownLogLevel name))
  | .group, some name => .ok { p with settings := { p.settings with group := name } }
  | f, none => .error (.refused (.valueMissing f))
  | f, some value => .error (.refused (.valueUnexpected f value))

/-- Reads an argument before the separator, for a command that needs a number of operands. -/
def take (s : Scope) (needed : Nat) (p : Progress) (a : Argument) : Except Ending Progress :=
  match a.word with
  | .flag f value => { p with behindOperand := false }.takeFlag s f value
  | .helpWith tail =>
    match refusedTail tail with
    | some value => .error (.refused (.valueUnexpected .help value))
    | none => .error (.answered (.help s))
  | .operand t =>
    if p.operands.length < needed then .ok { p with operands := p.operands ++ [some t], behindOperand := true }
    else .ok { p with leftOver := p.leftOver ++ a.texts, behindOperand := false }
  | .unknown => .ok { p with leftOver := p.leftOver ++ a.texts, behindOperand := false }
  | .separator => .ok { p with leftOver := p.leftOver ++ a.texts, behindOperand := false }

/-- Reads the separator and all that stands behind it. The separator belongs to the operand before it, or else to the one behind
it; where neither goes to the command, it is left over as well. -/
def takeSeparated (needed : Nat) (p : Progress) (texts : List Text) : Progress :=
  let missing := needed - p.operands.length
  if p.behindOperand then
    { p with
      operands := p.operands ++ (texts.take missing).map textBehindSeparator
      leftOver := p.leftOver ++ texts.drop missing }
  else match missing, texts with
    | missing + 1, t :: texts =>
      { p with
        operands := p.operands ++ some t :: (texts.take missing).map textBehindSeparator
        leftOver := p.leftOver ++ texts.drop missing }
    | _, _ => { p with leftOver := p.leftOver ++ separator :: texts }

/-- Reads all arguments of a command. -/
def takeAll (s : Scope) (needed : Nat) (p : Progress) (arguments : List Argument) : Except Ending Progress :=
  let isBefore (a : Argument) : Bool := a.word != .separator
  match arguments.dropWhile isBefore with
  | [] => arguments.foldlM (take s needed) p
  | _ :: separated =>
    ((arguments.takeWhile isBefore).foldlM (take s needed) p).map fun p =>
      p.takeSeparated needed (separated.flatMap (·.texts))

end Progress

/-- The request that an early end leads to. -/
def Ending.request (s : Scope) : Ending → Except UsageFault Request
  | .answered r => .ok r
  | .refused cause => .error ⟨s, cause⟩

/-- The call of a command with its operands, if they are all there. -/
def Call.ofOperands? (c : Command) (s : Settings) (operands : List (Option Text)) : Option Call :=
  match c, operands with
  | .rows, [some file] => some ⟨s.logLevel, Path.ofText file, .rows s.part⟩
  | .describe, [some file, name] => some ⟨s.logLevel, Path.ofText file, .describe s.part name⟩
  | .component, [some file] => some ⟨s.logLevel, Path.ofText file, .component⟩
  | _, _ => none

namespace Request

/-- The request of a whole reading: nothing may be left over. -/
def unlessLeftOver (leftOver : List Text) (r : Request) : Except UsageFault Request :=
  if leftOver.isEmpty then .ok r else .error ⟨.program, .leftOver leftOver⟩

/-- The request of a command, from the arguments behind it. -/
def ofCommandArguments (c : Command) (p : Progress) (texts : List Text) : Except UsageFault Request :=
  match Argument.read (.command c) texts with
  | .error cause => .error ⟨.command c, cause⟩
  | .ok arguments =>
    match p.takeAll (.command c) c.operandNames.length arguments with
    | .error ending => ending.request (.command c)
    | .ok p =>
      match Call.ofOperands? c p.settings p.operands with
      | none => .error ⟨.command c, .operandsMissing (c.operandNames.drop p.operands.length)⟩
      | some complete => unlessLeftOver p.leftOver (.call complete)

/-- The request of a command name, with the arguments behind it. -/
def ofCommand (p : Progress) (name : Text) (texts : List Text) : Except UsageFault Request :=
  match Command.ofName? name with
  | none => .error ⟨.program, .unknownCommand name⟩
  | some c => ofCommandArguments c p texts

/-- Whether an argument can be the name of a command. The separator counts as one where anything stands behind it. -/
def startsCommand (a : Argument) : Bool :=
  match a.word with
  | .operand _ => true
  | .separator => true
  | _ => false

/-- What a command line asks for. -/
def ofTexts (texts : List Text) : Except UsageFault Request :=
  match Argument.read .program texts with
  | .error cause => .error ⟨.program, cause⟩
  | .ok arguments =>
    match (arguments.takeWhile (!startsCommand ·)).foldlM (Progress.take .program 0) {} with
    | .error ending => ending.request .program
    | .ok p =>
      match (arguments.dropWhile (!startsCommand ·)).flatMap (·.texts) with
      | [] => unlessLeftOver p.leftOver .noCommand
      | name :: texts =>
        if name = separator ∧ texts = [] then unlessLeftOver (p.leftOver ++ [separator]) .noCommand
        else ofCommand p name texts

end Request

end Descriptors.CommandLine
