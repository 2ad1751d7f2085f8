import PageBuilder.CommandLine.Run
import PageBuilder.Drawing.Listing
import PageBuilder.Json.Printer

/-! # The program

The command line on real files. Everything that is decided is decided by `runCommandLine`; here the
files that a command line names are read, and its report is printed and written.

## Implementation notes

There is no image encoder: a picture is written as the list of its draw calls. -/

namespace PageBuilder.Main

/-- What a path name leads to on disk. A directory is opened and then not read, so that its fault
does not name it; a path through a file is not opened. -/
def probe (p : PathName) : IO (Except FileFault Entry) := do
  if p.text.toList.contains '\x00' then return .error .nullInName
  try
    return .ok (.content (← IO.FS.readBinFile p.text).toList)
  catch e =>
    match e with
    | .noFileOrDirectory .. => return .error .absent
    | .inappropriateType (some _) .. => return .error .notADirectory
    | .inappropriateType none .. => return .ok .directory
    | .invalidArgument .. => return .error .nameTooLong
    | _ => throw e

/-- What the path names that a command line reads lead to. -/
def lookAround (words : List String) : IO Look := do
  let paths := (Invocation.parse words).elim [] fun i => i.document :: i.config.toList
  let states ← paths.mapM fun p => return (p, ← probe p)
  return fun p => (states.lookup p).getD (.error .absent)

/-- The settings let advice through. -/
def showsAdvice : LogLevel → Bool
  | .debug | .info | .warning => true
  | .error | .critical => false

/-- Write a file and the directories above it. -/
def write (p : PathName) (text : String) : IO Unit := do
  IO.FS.createDirAll p.parent.text
  IO.FS.writeFile p.text text

/-- The words about a run that breaks off. -/
def describe : RunError → String
  | .config e => e.message?.getD "settings file cannot be read"
  | .file fault => fault.reason
  | .number _ => "number out of range"
  | .paint _ => "page cannot be drawn"
  | .overrun _ => "a text cannot be read"

def usage : String :=
  "usage: page-builder [--config FILE] [--log-level LEVEL] (normalize|preview|pages) FILE [...]"

/-- Print and write what a run does. -/
def carryOut (report : Report) : IO UInt32 := do
  if showsAdvice report.logLevel then
    for advice in report.advice do
      IO.eprintln ("WARNING " ++ advice.message)
  for (path, text) in report.written do
    write path text
  if let some (path, painted) := report.picture then
    match painted with
    | .error _ => throw (.userError "page cannot be drawn")
    | .ok calls => write path ((Json.arr (calls.map DrawCall.toJson)).compactText ++ "\n")
  IO.print report.output
  IO.eprint report.complaint
  match report.exit with
  | .status code => return code.toUInt32
  | .refused =>
    IO.eprintln usage
    return 2
  | .stopped message =>
    IO.eprintln message
    return 1

end PageBuilder.Main

def main (words : List String) : IO UInt32 := do
  match PageBuilder.runCommandLine (← PageBuilder.Main.lookAround words) words with
  | .ok report => PageBuilder.Main.carryOut report
  | .error e =>
    IO.eprintln (PageBuilder.Main.describe e)
    return 1
