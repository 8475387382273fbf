/-
Finished surfaces as files (`save_image`, `SurfaceError`). A vector surface is saved as markup, an image in the form
that the ending of the path names. The folder of the path is made first, and only then is it seen whether the ending is
known. Some forms are only known for reading, and some turn out to hold no image of three channels once the file is
open; such a file is not kept.
-/
import SketchPanel.Files.Making
import SketchPanel.Imaging.Endings
import SketchPanel.Surface.Basic
import SketchPanel.Text.Case

namespace SketchPanel

open Text Imaging

namespace Surface

/-- the ending of markup -/
def markupEnding : List Char := ".svg".toList

/-- reasons why a surface is not saved -/
inductive SaveFault where
  | form (fault : FormFault)
  /-- marks have no other form than markup -/
  | markupOnly
  | files (fault : Files.Fault)
  deriving DecidableEq, Repr

/-- the word for the kind of such a reason -/
def SaveFault.kind : SaveFault → String
  | .form fault => fault.kind
  | .markupOnly => "SurfaceError"
  | .files fault => fault.kind

/-- what is said of a surface that is not saved -/
def SaveFault.message : SaveFault → String
  | .form fault => fault.message
  | .markupOnly => "Could not rasterize SVG frame: marks are only saved as markup"
  | .files fault => fault.message

/-- whether it only turns out once the file is open -/
def SaveFault.isLate : SaveFault → Bool
  | .form fault => fault.isLate
  | _ => false

/-- whether a path asks for markup -/
def asksForMarkup (path : Files.Path) : Bool :=
  lower (.ofList (Files.Path.suffix path.name)) == String.ofList markupEnding

/-- what the file at a path holds once the surface is saved there -/
def contentFor (s : Surface) (path : Files.Path) : Except SaveFault Files.Content :=
  match s.sheet with
  | .vector marks => if asksForMarkup path then .ok (.text (picture s.width s.height marks)) else .error .markupOnly
  | .raster image _ =>
    match formFault? (lower (.ofList (Files.Path.extension path.name))) with
    | none => .ok (.image image)
    | some fault => .error (.form fault)

/-- the part of the library that tells of a saved surface -/
def Sheet.source : Sheet → Log.Source
  | .vector _ => .vectorSheet
  | .raster .. => .rasterSheet

/-- the note that a surface is saved -/
def savedNote (s : Surface) (path : Files.Path) : Log.Record :=
  Log.note Log.info s.sheet.source ("Frame saved to " ++ path.text)

variable {m : Type → Type} [Monad m]

/-- opens a file for writing and gives it up again; a new one does not stay -/
def openedInVain (files : Files m) (path : String) : m (Except Files.Fault Unit) := do
  let there ← files.thereAt path
  match ← files.write path (.text "") with
  | .error fault => return .error fault
  | .ok () => if there then return .ok () else files.remove path

/-- saves a surface -/
def save (files : Files m) (s : Surface) (path : Files.Path) : m (Except SaveFault Unit) := do
  match ← files.makeFolders path.parent with
  | .error fault => return .error (.files fault)
  | .ok () =>
    match s.contentFor path with
    | .ok content => return (← files.write path.text content).mapError .files
    | .error fault =>
      if fault.isLate then
        match ← openedInVain files path.text with
        | .error fault => return .error (.files fault)
        | .ok () => return .error fault
      else return .error fault

end Surface

end SketchPanel
