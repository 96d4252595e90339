-- The program. It reads the files that a command looks at, runs the command on them, and writes the
-- files that the run changed.
import EntityPipeline.CommandLine.Commands

namespace EntityPipeline.Program

/-- A text about the command line. -/
def usage : String := Report.lines [
  "Prepare entity definitions and keep their snapshots in sync",
  "",
  "Usage: entigen [OPTIONS] <COMMAND>",
  "",
  "Commands:",
  "  generate    Run the full pipeline and write entity snapshots",
  "  entities    Prepare entities without writing anything and print them",
  "  priorities  Print the resolved priority order",
  "  version     Show version and build information",
  "  help        Print this message or the help of the given command"]

/-- The name of a run made from a number: thirty-two hexadecimal digits in five groups. -/
def runName (n : Nat) : String :=
  let digits := Nat.toDigits 16 n
  let padded := List.replicate (30 - digits.length) '0' ++ digits
  let part := fun start length => (padded.drop start).take length
  String.ofList (part 0 8 ++ '-' :: part 8 4 ++ '-' :: '4' :: part 12 3 ++ '-' :: '8' ::
    part 15 3 ++ '-' :: part 18 12)

/-- The tree with what is at a path on the disk. -/
def load (files : FileTree) (path : String) : IO FileTree := do
  let file := (← IO.currentDir) / path
  let content : Option Content ←
    if ← file.isDir then pure (some .folder)
    else if ← file.pathExists then
      try
        let bytes ← IO.FS.readBinFile file
        pure (some (match String.fromUTF8? bytes with
          | some text => .text text
          | none => .binary))
      catch _ => pure (some .binary)
    else pure none
  match content with
  | none => return files
  | some content => return ((files.place path content).toOption).getD files

/-- The tree with the files of a folder on the disk. -/
def loadFolder (files : FileTree) (path : String) : IO FileTree := do
  let files ← load files path
  let folder := (← IO.currentDir) / path
  if ← folder.isDir then
    (← folder.readDir).foldlM (fun files entry => load files (Path.join path entry.fileName)) files
  else return files

/-- Writes a file of a tree to the disk. -/
def save (files : FileTree) (path : String) : IO Unit := do
  let file := (← IO.currentDir) / path
  match files.read path with
  | .error _ => pure ()
  | .ok text =>
    if let some folder := file.parent then IO.FS.createDirAll folder
    IO.FS.writeFile file text

/-- Prints the warnings of a run. -/
def warn (events : List Event) : IO Unit :=
  events.forM fun
    | .warned message subject => IO.eprintln ("WARN " ++ message ++ ": " ++ subject)
    | .blueprintIgnored name =>
      IO.eprintln ("WARN Blueprint already composed, ignoring duplicate: " ++ name)
    | _ => pure ()

/-- Runs a command on the disk. -/
def perform (command : Command) : IO UInt32 := do
  let info : BuildInfo := {
    target := (← IO.getEnv "TARGET").getD "unknown"
    date := (← IO.getEnv "BUILD_DATE").getD "unknown"
    correlation := runName (← IO.rand 0 (Nat.pow 16 30 - 1)) }
  let (paths, folder) := command.inputs
  let files ← paths.foldlM load {}
  let files ← match folder with
    | some folder => loadFolder files folder
    | none => pure files
  let files ← (outputPaths (command.unchecked.run info files).events).foldlM load files
  let done := command.run info files
  warn done.events
  (changedPaths done.events).forM (save done.files)
  match done.result with
  | .ok text =>
    if text != "" then IO.println text
    return 0
  | .error e =>
    IO.eprintln ("Error: " ++ e.message.getD "a file cannot be read")
    return 1

end EntityPipeline.Program

open EntityPipeline in
/-- Runs the program. -/
def main (arguments : List String) : IO UInt32 := do
  match Invocation.parse arguments with
  | .ok invocation => Program.perform invocation.command
  | .error .helpWanted => IO.println Program.usage; return 0
  | .error .versionWanted => IO.println "entigen 0.3.0"; return 0
  | .error _ => IO.eprintln Program.usage; return 2
