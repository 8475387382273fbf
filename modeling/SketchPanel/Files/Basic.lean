/-
Files as the library uses them: reading and writing whole files, making folders, and seeing whether something is there.
Where they are kept is left open; everything that uses files takes these operations as an argument.
-/
import SketchPanel.Imaging.Image
import SketchPanel.Text.LineEnd
import SketchPanel.Text.Quoted

namespace SketchPanel

namespace Files

/-- reasons why something cannot be done to a file -/
inductive Trouble where
  | missing
  | occupied
  | notFolder
  | folder
  | tooLong
  /-- the path holds the character with the code nought -/
  | badPath
  /-- anything else, in the words of whoever keeps the files -/
  | other (reason : String)
  deriving DecidableEq, Repr

/-- something that cannot be done to the file at a path -/
structure Fault where
  trouble : Trouble
  path : String
  deriving DecidableEq, Repr

/-- what is said of it -/
def Fault.message (fault : Fault) : String :=
  match fault.trouble with
  | .missing => "[Errno 2] No such file or directory: " ++ Text.quoted fault.path
  | .occupied => "[Errno 17] File exists: " ++ Text.quoted fault.path
  | .notFolder => "[Errno 20] Not a directory: " ++ Text.quoted fault.path
  | .folder => "[Errno 21] Is a directory: " ++ Text.quoted fault.path
  | .tooLong => "[Errno 36] File name too long: " ++ Text.quoted fault.path
  | .badPath => "embedded null byte"
  | .other reason => reason

/-- the word for the kind of a fault -/
def Fault.kind (fault : Fault) : String :=
  match fault.trouble with
  | .missing => "FileNotFoundError"
  | .occupied => "FileExistsError"
  | .notFolder => "NotADirectoryError"
  | .folder => "IsADirectoryError"
  | .tooLong | .other _ => "OSError"
  | .badPath => "ValueError"

/-- what a file holds -/
inductive Content where
  | text (text : String)
  | image (image : Imaging.Image)

end Files

/-- operations on files -/
structure Files (m : Type → Type) where
  read : String → m (Except Files.Fault String)
  write : String → Files.Content → m (Except Files.Fault Unit)
  /-- opens a file to add to it; a new one is empty -/
  openToAdd : String → m (Except Files.Fault Unit)
  /-- makes one folder, in a folder that is there -/
  makeFolder : String → m (Except Files.Fault Unit)
  remove : String → m (Except Files.Fault Unit)
  /-- whether there is anything at a path -/
  present : String → m (Except Files.Fault Bool)
  /-- whether there is a folder at a path -/
  isFolder : String → m (Except Files.Fault Bool)

namespace Files

variable {m : Type → Type} [Monad m]

/-- the text of a file, with even line ends -/
def readText (files : Files m) (path : String) : m (Except Fault String) := do
  return (← files.read path).map fun text => .ofList (Text.evenLineEnds text.toList)

end Files

end SketchPanel
