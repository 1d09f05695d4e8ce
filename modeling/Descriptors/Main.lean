import Descriptors.CommandLine.Report

/-!
# The program

Reads the file that the command line names, prints the report and ends with its exit code.
-/

namespace Descriptors

/-- What an error of the system says of a file. -/
def FileFault.ofError : IO.Error → FileFault
  | .noFileOrDirectory .. => .notFound
  | .inappropriateType _ code description => ofCode code description
  | .invalidArgument _ code description => ofCode code description
  | .permissionDenied _ code description => ofCode code description
  | .otherError code description => ofCode code description
  | e => .other 5 e.toString
where
  /-- A code is the number of a fault, or its negative. -/
  ofCode (code : UInt32) (description : String) : FileFault :=
    let number := code.toInt32.toInt.natAbs
    if number = notDirectory.number then .notDirectory
    else if number = isDirectory.number then .isDirectory
    else if number = nameTooLong.number then .nameTooLong
    else .other number description

/-- Reads a file. -/
def readFile (path : Path) : IO (Except ReadFault (List Byte)) := do
  try
    let bytes ← IO.FS.readBinFile path.toText.toString
    return .ok (bytes.toList.map (·.toNat))
  catch e => return .error (.notOpened (FileFault.ofError e))

/-- The report of a command line. A file is read only for a command. -/
def reportOf (texts : List Text) : IO (Except CommandLine.RunFault CommandLine.Report) := do
  match CommandLine.Request.ofTexts texts with
  | .error fault => return .ok fault.report
  | .ok (.call c) =>
    if let some fault := c.pathFault? then return .error fault
    let content ← readFile c.file
    return c.report none content
  | .ok r => return r.report none fun _ => .error (.notOpened .notFound)

/-- What is said of a run without a report. -/
def faultMessage : CommandLine.RunFault → Text
  | .nullInPath => "embedded null byte"
  | .pathUnencodable fault => fault.message
  | .nameMissing => "the property is not named"
  | .outputRefused reason => reason

end Descriptors

/-- Runs the program. -/
def main (arguments : List String) : IO UInt32 := do
  let outcome ← Descriptors.reportOf (arguments.map Descriptors.Text.ofString)
  match outcome >>= Descriptors.CommandLine.Report.printedOn .utf8 with
  | .ok report =>
    IO.eprint report.errors.toString
    IO.print report.output.toString
    return report.exitCode.toUInt32
  | .error fault =>
    IO.eprintln (Descriptors.faultMessage fault).toString
    return 1
