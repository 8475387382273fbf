/-
A folder held in memory: files and folders by the steps that lead to them. It answers all operations on files.
-/
import SketchPanel.Files.Basic
import SketchPanel.Files.Path

namespace SketchPanel.Files

open Text

/-- the steps from the top to a place -/
abbrev Place := List (List Char)

/-- files and folders by place; the top and the folders on the way to a file are there without being listed -/
structure Folder where
  files : List (Place × Content) := []
  folders : List Place := []

namespace Folder

/-- what a file holds -/
def content? (f : Folder) (place : Place) : Option Content := f.files.lookup place

/-- whether a place is a folder -/
def isFolder (f : Folder) (place : Place) : Bool :=
  place.isEmpty || f.folders.any (place.isPrefixOf ·)
    || f.files.any fun (other, _) => place.isPrefixOf other && place != other

/-- whether there is anything at a place -/
def holds (f : Folder) (place : Place) : Bool := (f.content? place).isSome || f.isFolder place

/-- how many bytes the name of a file may have -/
def maxName : Nat := 255

/-- how many bytes a path may have -/
def maxPath : Nat := 4095

/-- the place that steps lead to from another; every step but the last must lead to a folder -/
def walk (f : Folder) : Place → List (List Char) → Except Trouble Place
  | here, [] => .ok here
  | here, step :: rest =>
    if !f.isFolder here then .error (if (f.content? here).isSome then .notFolder else .missing)
    else if step = ['.'] then f.walk here rest
    else if step = ['.', '.'] then f.walk here.dropLast rest
    else if maxName < (String.ofList step).utf8ByteSize then .error .tooLong
    else f.walk (here ++ [step]) rest

/-- the place that a path leads to; a text that ends in a slash leads to folders only -/
def locate (f : Folder) (path : String) : Except Trouble Place := do
  if path.isEmpty then throw .missing
  if path.toList.contains (Char.ofNat 0) then throw .badPath
  if maxPath < path.utf8ByteSize then throw .tooLong
  let place ← f.walk [] ((pieces '/' path.toList).filter (· ≠ []))
  if path.endsWith "/" && (f.content? place).isSome then throw .notFolder
  return place

/-- a fault at a path -/
def blame {α : Type} (path : String) (result : Except Trouble α) : Except Fault α := result.mapError (⟨·, path⟩)

/-- what a file holds, as a text -/
def textAt (f : Folder) (path : String) : Except Trouble String := do
  let place ← f.locate path
  match f.content? place with
  | some (.text text) => return text
  | some (.image _) => throw (.other "not a text")
  | none => throw (if f.isFolder place then .folder else .missing)

/-- the place where a file can be put -/
def room (f : Folder) (path : String) : Except Trouble Place := do
  let place ← f.locate path
  if f.isFolder place then throw .folder
  return place

/-- the folder with a file put at a place, or in the stead of the one there -/
def put (f : Folder) (place : Place) (content : Content) : Folder :=
  { f with files := f.files.filter (·.1 ≠ place) ++ [(place, content)] }

/-- what was put at a place is there -/
theorem content?_put (f : Folder) (place : Place) (content : Content) :
    (f.put place content).content? place = some content := by
  have hnone : (f.files.filter (·.1 ≠ place)).lookup place = none := by
    rw [List.lookup_eq_none_iff]
    intro entry hentry
    have hother : entry.1 ≠ place := of_decide_eq_true (List.mem_filter.1 hentry).2
    exact bne_iff_ne.2 hother.symm
  rw [content?, put, List.lookup_append, hnone]
  simp

/-- the folder with one more folder in it -/
def withFolder (f : Folder) (path : String) : Except Trouble Folder := do
  let place ← f.locate path
  if f.holds place then throw .occupied
  return { f with folders := f.folders ++ [place] }

/-- the folder without a file -/
def without (f : Folder) (path : String) : Except Trouble Folder := do
  let place ← f.locate path
  if f.isFolder place then throw .folder
  if (f.content? place).isNone then throw .missing
  return { f with files := f.files.filter (·.1 ≠ place) }

/-- what is so of the place that a path leads to; a path that leads nowhere leads to nothing -/
def ask (f : Folder) (look : Place → Bool) (path : String) : Except Trouble Bool :=
  match f.locate path with
  | .ok place => .ok (look place)
  | .error .tooLong => .error .tooLong
  | .error _ => .ok false

/-- a file as it is -/
def peek {α : Type} (look : Folder → α) : StateM Folder α := fun f => pure (look f, f)

/-- a change of the folder, if it can be made -/
def change (path : String) (result : Folder → Except Trouble Folder) : StateM Folder (Except Fault Unit) := fun f =>
  match result f with
  | .ok f => pure (.ok (), f)
  | .error trouble => pure (.error ⟨trouble, path⟩, f)

/-- the folder's answers to all operations -/
def operations : Files (StateM Folder) where
  read path := peek fun f => blame path (f.textAt path)
  write path content := change path fun f => do return f.put (← f.room path) content
  openToAdd path := change path fun f => do
    let place ← f.room path
    return if (f.content? place).isSome then f else f.put place (.text "")
  makeFolder path := change path (·.withFolder path)
  remove path := change path (·.without path)
  present path := peek fun f => blame path (f.ask f.holds path)
  isFolder path := peek fun f => blame path (f.ask f.isFolder path)

end Folder

end SketchPanel.Files
