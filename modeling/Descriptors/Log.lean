import Descriptors.FileSystem
import Descriptors.Kind

/-!
# What is logged

Absence and unreadable files are not errors: the answer is nothing, and a line of the log says why. A text whose rows are
taken is logged, too. A step that logs gives its outcome together with the events, in order.
-/

namespace Descriptors

/-- How grave an event is, the least grave first. -/
inductive LogLevel where
  | debug
  | info
  | warning
  | error
  deriving DecidableEq

namespace LogLevel

/-- The name of a level. -/
def name : LogLevel → Text
  | debug => "DEBUG"
  | info => "INFO"
  | warning => "WARNING"
  | error => "ERROR"

/-- All levels, the least grave first. -/
def all : List LogLevel := [debug, info, warning, error]

/-- The level of a name. -/
def ofName? (t : Text) : Option LogLevel := all.find? fun l => l.name == t

/-- How grave a level is. -/
def gravity : LogLevel → Nat
  | debug => 10
  | info => 20
  | warning => 30
  | error => 40

end LogLevel

/-- What is logged. -/
inductive LogEvent where
  /-- No file lies at a path. -/
  | noFile (path : Path)
  /-- A name that could lead outside its directory was not looked up. -/
  | nameRejected (name : Text)
  /-- The file at a path has no text. -/
  | unreadable (path : Path) (fault : ReadFault)
  /-- The catalog has no descriptor of a kind and name. -/
  | noDescriptor (kind : Kind) (name : Text)
  /-- Rows were taken from a group. -/
  | groupParsed (count : Nat) (group : Text)
  /-- Rows were taken from the main configuration. -/
  | mainConfigurationParsed (count : Nat)
  deriving DecidableEq

namespace LogEvent

/-- How grave an event is. -/
def level : LogEvent → LogLevel
  | unreadable .. => .warning
  | _ => .debug

/-- The part of the program that logs an event. -/
def logger : LogEvent → Text
  | noFile _ => "propcatalog.source"
  | nameRejected _ => "propcatalog.source"
  | unreadable .. => "propcatalog.source"
  | noDescriptor .. => "propcatalog.api"
  | groupParsed .. => "propcatalog.kernel.parser"
  | mainConfigurationParsed _ => "propcatalog.kernel.parser"

/-- The event in words. -/
def message : LogEvent → Text
  | noFile path => Text.ofString "No descriptor at " ++ path.toText
  | nameRejected name => Text.ofString "Rejecting artifact name " ++ name.quoted
  | unreadable path fault =>
    Text.ofString "Cannot read descriptor " ++ path.toText ++ Text.ofString ": " ++ fault.message path
  | noDescriptor kind name =>
    Text.ofString "No " ++ kind.name ++ Text.ofString " descriptor named '" ++ name ++ Text.ofString "'"
  | groupParsed count group =>
    Text.ofString "Parsed " ++ Text.ofNat count ++ Text.ofString " rows from group '" ++ group ++ Text.ofString "'"
  | mainConfigurationParsed count =>
    Text.ofString "Parsed " ++ Text.ofNat count ++ Text.ofString " rows from main json schema"

/-- The line of an event. -/
def line (e : LogEvent) : Text :=
  e.level.name ++ CodePoint.space :: e.logger ++ Text.ofString ": " ++ e.message

end LogEvent

/-- The outcome of a step, with what it logged. -/
structure Logged (ε α : Type) where
  outcome : Except ε α
  log : List LogEvent

namespace Logged

variable {ε α β : Type}

/-- A result without a log. -/
def ok (a : α) : Logged ε α := ⟨.ok a, []⟩

/-- A failure without a log. -/
def error (e : ε) : Logged ε α := ⟨.error e, []⟩

/-- Goes on with a result; a failure stays what it is. The log of the second step follows that of the first. -/
def andThen (x : Logged ε α) (f : α → Logged ε β) : Logged ε β :=
  match x.outcome with
  | .ok a => ⟨(f a).outcome, x.log ++ (f a).log⟩
  | .error e => ⟨.error e, x.log⟩

/-- The same step with its failures seen as failures of another sort. -/
def mapError {δ : Type} (f : ε → δ) (x : Logged ε α) : Logged δ α := ⟨x.outcome.mapError f, x.log⟩

/-- The lines of the log. -/
def lines (x : Logged ε α) : List Text := x.log.map LogEvent.line

end Logged

end Descriptors
