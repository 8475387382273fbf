/-
Folders made together with those on the way to them. What is there already stays; what is there and is no folder is in
the way.
-/
import SketchPanel.Files.Basic
import SketchPanel.Files.Path

namespace SketchPanel.Files

variable {m : Type → Type} [Monad m]

/-! ## Along a path -/

/-- a fault of making a folder, forgiven if the folder is there -/
def unlessThere (files : Files m) (path : String) (fault : Fault) : m (Except Fault Unit) := do
  match ← files.isFolder path with
  | .ok true => return .ok ()
  | .ok false => return .error fault
  | .error other => return .error other

/-- one folder is made in a folder that is there, unless it is there itself -/
def settle (files : Files m) (path : String) : m (Except Fault Unit) := do
  match ← files.makeFolder path with
  | .ok () => return .ok ()
  | .error fault => if fault.trouble = .missing then return .error fault else files.unlessThere path fault

/-- a folder by its steps, the last one first; if the one it stands in is missing, that is made before it -/
def makeUpTo (files : Files m) (root : List Char) : List (List Char) → m (Except Fault Unit)
  | [] => files.settle (Path.text ⟨root, []⟩)
  | last :: before => do
    let path := Path.text ⟨root, (last :: before).reverse⟩
    match ← files.makeFolder path with
    | .ok () => return .ok ()
    | .error fault =>
      if fault.trouble = .missing then
        match ← makeUpTo files root before with
        | .ok () => files.settle path
        | .error fault => return .error fault
      else files.unlessThere path fault

/-- the folder at a path and all on the way to it -/
def makeFolders (files : Files m) (path : Path) : m (Except Fault Unit) := files.makeUpTo path.root path.steps.reverse

/-! ## Along a text -/

/-- whether there is anything at a path; what cannot be asked is not there -/
def thereAt (files : Files m) (path : String) : m Bool := do return (← files.present path).toOption.getD false

/-- one folder is made, unless it is there -/
def ensure (files : Files m) (path : String) : m (Except Fault Unit) := do
  match ← files.makeFolder path with
  | .ok () => return .ok ()
  | .error fault => if (← files.isFolder path).toOption.getD false then return .ok () else return .error fault

/-- the folder that a text names and all that it names before it, as the text spells them; the count bounds the
folders -/
def makeAlong (files : Files m) : Nat → List Char → m (Except Fault Unit)
  | 0, text => files.ensure (.ofList text)
  | count + 1, text => do
    let (before, last) := Path.split text
    if before = [] ∨ last = [] ∨ (← files.thereAt (.ofList before)) then files.ensure (.ofList text)
    else
      match ← makeAlong files count before with
      | .error fault =>
        if fault.trouble ≠ .occupied then return .error fault
        else if last = ['.'] then return .ok ()
        else files.ensure (.ofList text)
      | .ok () => if last = ['.'] then return .ok () else files.ensure (.ofList text)

/-- the folder that a text names, with all on the way to it -/
def makeNamed (files : Files m) (text : List Char) : m (Except Fault Unit) := files.makeAlong text.length text

end SketchPanel.Files
