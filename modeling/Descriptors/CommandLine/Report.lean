import Descriptors.Catalog
import Descriptors.CommandLine.Request
import Descriptors.CommandLine.Vocabulary

/-!
# Reports

A run of the program ends in a report: an exit code, what is printed, and what is told beside it. The rows or the summary are
printed whole or not at all: a printer that has no bytes for some of them refuses them all. The code is 0 where they are printed,
1 where a property is not found, and 2 where the command line is faulty, the file has no text, or its rows cannot be taken.
Messages about a document of another shape may refer to an address for more, which is a parameter.
-/

namespace Descriptors.CommandLine

/-- Why a task has no result. -/
inductive TaskFault where
  | descriptor (fault : DescriptorFault)
  | propertyNotFound (name : Text)
  /-- The property is not named. -/
  | nameMissing
  deriving DecidableEq

/-- The rows of a part of a descriptor. -/
def Part.load (part : Part) (t : Text) : Logged TaskFault (List Row) :=
  match part with
  | group name form => (Group.load name form t).mapError .descriptor
  | mainConfiguration => (MainConfiguration.load t).mapError .descriptor

/-- A value in canonical form, on one line. -/
def canonicalLine (v : Json) : Text := v.writeCanonical ++ [CodePoint.lineFeed]

/-- The summary of a property, as it is printed. -/
def describedLine (rows : Table) : Option Text → Logged TaskFault Text
  | none => .error .nameMissing
  | some name =>
    match rows.describe? name with
    | none => .error (.propertyNotFound name)
    | some summary => .ok (canonicalLine summary.toJson)

/-- What a task prints, for the text of a descriptor. -/
def Task.print (task : Task) (t : Text) : Logged TaskFault Text :=
  match task with
  | rows part => (part.load t).andThen fun rows => .ok (Row.toLines rows)
  | describe part name => (part.load t).andThen fun rows => describedLine rows name
  | component =>
    ((Group.load Group.component .attributes t).mapError .descriptor).andThen fun rows =>
      .ok (canonicalLine (Table.describeComponent rows).toJson)

/-- What a run leaves. -/
structure Report where
  exitCode : Nat
  /-- What is printed. -/
  output : Text
  /-- What is told beside it. -/
  errors : Text
  deriving DecidableEq

/-- Why a run ends without a report. -/
inductive RunFault where
  /-- A NUL stands in the path of the file. -/
  | nullInPath
  /-- The path of the file stands for no bytes. -/
  | pathUnencodable (fault : EncodeFault)
  /-- The property to be described is not named. -/
  | nameMissing
  /-- The printer refuses what is to be printed, as it tells. -/
  | outputRefused (reason : Text)
  deriving DecidableEq

/-- Where the program prints: what is said of a text that is refused. Nothing is never refused. -/
structure Printer where
  refuse? : Text → Option Text
  nothing : refuse? [] = none

/-- A printer of UTF-8, which has no bytes for surrogates. -/
def Printer.utf8 : Printer := ⟨fun t => (Utf8.encodeFault? t).map (·.message), rfl⟩

namespace Report

/-- The report of a failure, with the lines that were told before. -/
def failure (exitCode : Nat) (told : Text) (message : Text) : Report :=
  ⟨exitCode, [], told ++ Text.ofString "Error: " ++ message ++ [CodePoint.lineFeed]⟩

/-- The report of a file that has no text. -/
def unreadable (path : Path) (reason : Text) : Report :=
  failure 2 [] (Text.ofString "Cannot read " ++ path.toText ++ Text.ofString ": " ++ reason)

/-- The report of a run whose output has been printed. -/
def printedOn (p : Printer) (r : Report) : Except RunFault Report :=
  match p.refuse? r.output with
  | none => .ok r
  | some reason => .error (.outputRefused reason)

end Report

namespace Call

/-- The lines of the events that are grave enough to be told. -/
def told (c : Call) (events : List LogEvent) : Text :=
  (events.filter fun e => c.logLevel.gravity ≤ e.level.gravity).flatMap fun e => e.line ++ [CodePoint.lineFeed]

/-- The report of a call, from the text of its file. -/
def reportOf (reference? : Option Text) (c : Call) (t : Text) : Except RunFault Report :=
  let result := c.task.print t
  match result.outcome with
  | .ok output => .ok ⟨0, output, c.told result.log⟩
  | .error (.descriptor fault) => .ok (Report.failure 2 (c.told result.log) (fault.message reference?))
  | .error (.propertyNotFound name) =>
    .ok (Report.failure 1 (c.told result.log) (Text.ofString "Property '" ++ name ++ Text.ofString "' not found"))
  | .error .nameMissing => .error .nameMissing

/-- Why the path of the file of a call cannot be looked up at all. -/
def pathFault? (c : Call) : Option RunFault :=
  match FileName.fault? c.file.toText with
  | some fault => some (.pathUnencodable fault)
  | none => if c.file.holdsNull then some .nullInPath else none

/-- The text of a file in UTF-8, from what reading it gives. -/
def textOf (content : Except ReadFault (List Byte)) : Except ReadFault Text :=
  content >>= fun bytes => ((Utf8.decode bytes).mapError .undecodable).map Text.normalizeLines

/-- The report of a call, from what reading its file gives. -/
def report (reference? : Option Text) (c : Call) (content : Except ReadFault (List Byte)) : Except RunFault Report :=
  match c.pathFault? with
  | some fault => .error fault
  | none =>
    match textOf content with
    | .error fault => .ok (Report.unreadable c.file (fault.message c.file))
    | .ok t => c.reportOf reference? t

end Call

/-- The report of a request, from what reading a file gives. -/
def Request.report (reference? : Option Text) (r : Request) (readFile : Path → Except ReadFault (List Byte)) :
    Except RunFault Report :=
  match r with
  | call c => c.report reference? (readFile c.file)
  | help s => .ok ⟨0, s.help, []⟩
  | version => .ok ⟨0, versionLine, []⟩
  | noCommand => .ok ⟨1, Scope.program.help, []⟩

/-- The report of a faulty command line. -/
def UsageFault.report (fault : UsageFault) : Report := ⟨2, [], fault.message ++ [CodePoint.lineFeed]⟩

/-- The report of a command line, before anything is printed. -/
def reportOf (reference? : Option Text) (readFile : Path → Except ReadFault (List Byte)) (texts : List Text) :
    Except RunFault Report :=
  match Request.ofTexts texts with
  | .error fault => .ok fault.report
  | .ok r => r.report reference? readFile

/-- The report of a run in a file system. -/
def run (p : Printer) (reference? : Option Text) (files : FileSystem) (texts : List Text) : Except RunFault Report :=
  reportOf reference? files.read texts >>= Report.printedOn p

end Descriptors.CommandLine
