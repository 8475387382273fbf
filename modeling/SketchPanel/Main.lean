/-
The program: files on disk, the log on the error stream, the answer on the output stream. Images are written in one
form whatever the ending of their path.
-/
import SketchPanel.CommandLine.Run
import SketchPanel.Imaging.Png
import SketchPanel.Log.Format
import Std.Time.DateTime.Timestamp

namespace SketchPanel.Program

open Files

/-- the trouble behind an error of the system -/
def troubleOf (error : IO.Error) : Trouble :=
  match error with
  | .noFileOrDirectory .. => .missing
  | .alreadyExists .. => .occupied
  | .inappropriateType _ code _ => if code = 21 ∨ code = -21 then .folder else .notFolder
  | .invalidArgument _ code _ => if code = 36 then .tooLong else .other (toString error)
  | other => .other (toString other)

/-- an action at a path, its error taken as a fault -/
def attempt {α : Type} (path : String) (action : IO α) : IO (Except Fault α) := do
  try return .ok (← action)
  catch error => return .error ⟨troubleOf error, path⟩

/-- whether there is anything at a path -/
def isPresent (path : String) : IO (Except Fault Bool) := do
  let result ← attempt path (do let _ ← IO.FS.Handle.mk path .read)
  return match result with
    | .ok () => .ok true
    | .error ⟨.missing, _⟩ | .error ⟨.notFolder, _⟩ => .ok false
    | .error ⟨.tooLong, path⟩ => .error ⟨.tooLong, path⟩
    | .error _ => .ok true

/-- whether there is a folder at a path: it can be opened but not read -/
def isFolderAt (path : String) : IO (Except Fault Bool) := do
  let result ← attempt path (do
    let file ← IO.FS.Handle.mk path .read
    let _ ← file.read 1)
  return match result with
    | .ok () => .ok false
    | .error ⟨.tooLong, path⟩ => .error ⟨.tooLong, path⟩
    | .error fault => .ok (fault.trouble = .folder)

/-- the files on disk -/
def disk : Files IO where
  read path := attempt path (IO.FS.readFile path)
  write path
    | .text text => attempt path (IO.FS.writeFile path text)
    | .image image => attempt path (IO.FS.writeBinFile path (Imaging.Png.encode image))
  openToAdd path := attempt path do let _ ← IO.FS.Handle.mk path .append
  makeFolder path := attempt path (IO.FS.createDir path)
  remove path := attempt path (IO.FS.removeFile path)
  present := isPresent
  isFolder := isFolderAt

/-- writes lines to one outlet of the log -/
def pour (lines : List String) : Log.Outlet → IO Unit
  | .console => do
    let stderr ← IO.getStderr
    for line in lines do stderr.putStrLn line
  | .file path => do
    let file ← IO.FS.Handle.mk path .append
    for line in lines do file.putStrLn line

/-- tells how a session went -/
def tell (session : CommandLine.Session) : IO UInt32 := do
  let now ← Std.Time.Timestamp.now
  let millis := now.toMillisecondsSinceUnixEpoch.val.toNat
  for record in session.early do
    if record.passes Log.warning then (← IO.getStderr).putStrLn record.message
  let setup := session.setup
  let lines := (setup.kept session.report.records).map (Log.Record.written setup.structured millis)
  for outlet in setup.outlets do pour lines outlet
  (← IO.getStdout).putStr session.report.printed
  return session.report.code.toUInt32

/-- the font of the program, as long as there are no glyphs to measure -/
local instance : Imaging.Metrics := .halves

/-- what the program does with its arguments -/
def run (arguments : List String) : IO UInt32 := do
  match CommandLine.read arguments with
  | .error .help => IO.println CommandLine.usage; return 0
  | .error .misuse => IO.eprintln CommandLine.usage; return 2
  | .ok invocation =>
    match ← CommandLine.run disk (← IO.getEnv "LOG_LEVEL") invocation with
    | .error fault => IO.eprintln fault.message; return 1
    | .ok session => tell session

end SketchPanel.Program

def main (arguments : List String) : IO UInt32 := SketchPanel.Program.run arguments
