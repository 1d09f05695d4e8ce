import Descriptors.Log

/-!
# The vocabulary of the command line

Commands, flags and operands, what is said of a command line that is at fault, and the help texts.
-/

/-! ## Commands and flags

A command line names one of three commands. Flags stand before the command, where they are the program's, or behind it, where they
are the command's. What a command line consists of beside its flags are its operands.
-/

namespace Descriptors.CommandLine

/-- What the program does with a descriptor. -/
inductive Command where
  /-- Prints the rows of a part. -/
  | rows
  /-- Prints the summary of one property. -/
  | describe
  /-- Prints the summary of the component. -/
  | component
  deriving DecidableEq

namespace Command

/-- The name of a command. -/
def name : Command → Text
  | rows => "rows"
  | describe => "describe"
  | component => "component"

/-- All commands. -/
def all : List Command := [rows, describe, component]

/-- The command of a name. -/
def ofName? (t : Text) : Option Command := all.find? fun c => c.name == t

/-- The names of the operands of a command, which must all be given. -/
def operandNames : Command → List Text
  | rows => ["file"]
  | describe => ["file", "name"]
  | component => ["file"]

end Command

/-- A flag. -/
inductive Flag where
  | help
  | version
  | logLevel
  | group
  | noFlatten
  | mainConfiguration
  deriving DecidableEq

namespace Flag

/-- The spellings of a flag. -/
def spellings : Flag → List Text
  | help => ["-h", "--help"]
  | version => ["--version"]
  | logLevel => ["--log-level"]
  | group => ["--group"]
  | noFlatten => ["--no-flatten"]
  | mainConfiguration => ["--main"]

/-- Whether a value belongs to a flag. -/
def takesValue : Flag → Bool
  | logLevel => true
  | group => true
  | _ => false

/-- The flag, as messages give it. -/
def title (f : Flag) : Text := Text.joinWith "/" f.spellings

end Flag

/-- Where arguments stand: before the command, or behind it. -/
inductive Scope where
  | program
  | command (c : Command)
  deriving DecidableEq

namespace Scope

/-- The name of the program. -/
def programName : Text := "propcatalog"

/-- The scope, as messages give it. -/
def title : Scope → Text
  | program => programName
  | command c => programName ++ CodePoint.space :: c.name

/-- The flags that are known in a scope. -/
def flags : Scope → List Flag
  | program => [.help, .version, .logLevel]
  | command .rows => [.help, .group, .noFlatten, .mainConfiguration]
  | command .describe => [.help, .group, .mainConfiguration]
  | command .component => [.help]

/-- The flags of a scope under all their spellings. -/
def spelled (s : Scope) : List (Text × Flag) := s.flags.flatMap fun f => f.spellings.map fun t => (t, f)

/-- The flag of a spelling. -/
def flag? (s : Scope) (t : Text) : Option Flag := s.spelled.lookup t

end Scope

end Descriptors.CommandLine

/-! ## What is wrong with a command line

A faulty command line is refused with one message. An argument that is short for several flags of its scope comes first, then
whatever is wrong first from the left, then operands that are missing, and at last arguments that nothing asks for.
-/

namespace Descriptors.CommandLine

/-- What is wrong with a command line. -/
inductive UsageCause where
  /-- An argument that is short for more than one flag. -/
  | ambiguous (argument : Text) (spellings : List Text)
  /-- A flag without the value that belongs to it. -/
  | valueMissing (f : Flag)
  /-- A flag with a value that does not belong to it. -/
  | valueUnexpected (f : Flag) (value : Text)
  /-- A name that no log level has. -/
  | unknownLogLevel (name : Text)
  /-- A name that no command has. -/
  | unknownCommand (name : Text)
  /-- Operands that are not given. -/
  | operandsMissing (names : List Text)
  /-- Arguments that nothing asks for. -/
  | leftOver (arguments : List Text)
  deriving DecidableEq

namespace UsageCause

/-- What is said of a value that is none of some names. -/
def invalidChoice (argument value : Text) (names : List Text) : Text :=
  Text.ofString "argument " ++ argument ++ Text.ofString ": invalid choice: " ++ value.quoted ++
    Text.ofString " (choose from " ++ Text.joinWith ", " (names.map Text.quoted) ++ Text.ofString ")"

/-- The cause, as messages give it. -/
def message : UsageCause → Text
  | ambiguous argument spellings =>
    Text.ofString "ambiguous option: " ++ argument ++ Text.ofString " could match " ++ Text.joinWith ", " spellings
  | valueMissing f => Text.ofString "argument " ++ f.title ++ Text.ofString ": expected one argument"
  | valueUnexpected f value =>
    Text.ofString "argument " ++ f.title ++ Text.ofString ": ignored explicit argument " ++ value.quoted
  | unknownLogLevel name => invalidChoice Flag.logLevel.title name (LogLevel.all.map LogLevel.name)
  | unknownCommand name => invalidChoice "command" name (Command.all.map Command.name)
  | operandsMissing names => Text.ofString "the following arguments are required: " ++ Text.joinWith ", " names
  | leftOver arguments => Text.ofString "unrecognized arguments: " ++ Text.joinWith " " arguments

end UsageCause

/-- What is wrong with a command line, and where. -/
structure UsageFault where
  scope : Scope
  cause : UsageCause
  deriving DecidableEq

/-- The fault, as it is told. -/
def UsageFault.message (fault : UsageFault) : Text :=
  fault.scope.title ++ Text.ofString ": error: " ++ fault.cause.message

end Descriptors.CommandLine

/-! ## Help texts

The help of the program and of each command: how it is called, its operands and its flags.
-/

namespace Descriptors.CommandLine

/-- The lines of the help of a scope. -/
def Scope.helpLines : Scope → List String
  | program => [
    "usage: propcatalog [-h] [--version] [--log-level \x7bDEBUG,INFO,WARNING,ERROR\x7d]",
    "                   \x7brows,describe,component\x7d ...",
    "",
    "propcatalog: Parse and query component metadata descriptors",
    "",
    "positional arguments:",
    "  \x7brows,describe,component\x7d",
    "                        Available commands",
    "    rows                Print the parsed rows of a descriptor, one JSON object",
    "                        per line",
    "    describe            Print a typed summary of one property",
    "    component           Print a typed summary of the component group",
    "",
    "options:",
    "  -h, --help            show this help message and exit",
    "  --version             show program's version number and exit",
    "  --log-level \x7bDEBUG,INFO,WARNING,ERROR\x7d",
    "                        Logging level (default: WARNING)"]
  | command .rows => [
    "usage: propcatalog rows [-h] [--group GROUP] [--no-flatten] [--main] file",
    "",
    "positional arguments:",
    "  file           Path to descriptor JSON",
    "",
    "options:",
    "  -h, --help     show this help message and exit",
    "  --group GROUP  Group to parse (default: properties)",
    "  --no-flatten   Read the group as a single map, one row per key",
    "  --main         Parse the file as a main configuration descriptor"]
  | command .describe => [
    "usage: propcatalog describe [-h] [--group GROUP] [--main] file name",
    "",
    "positional arguments:",
    "  file           Path to descriptor JSON",
    "  name           Property name (optionally prefixed)",
    "",
    "options:",
    "  -h, --help     show this help message and exit",
    "  --group GROUP  Group holding the property (default: properties)",
    "  --main         Parse the file as a main configuration descriptor"]
  | command .component => [
    "usage: propcatalog component [-h] file",
    "",
    "positional arguments:",
    "  file        Path to descriptor JSON",
    "",
    "options:",
    "  -h, --help  show this help message and exit"]

/-- The help of a scope. -/
def Scope.help (s : Scope) : Text := s.helpLines.flatMap fun line => Text.ofString line ++ [CodePoint.lineFeed]

/-- The version, as the program tells it. -/
def versionLine : Text := Scope.programName ++ Text.ofString " 1.0.0\n"

end Descriptors.CommandLine
