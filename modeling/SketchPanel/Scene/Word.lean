/-
Words for the members of a small family (`TextAlign`, `TextBaseline`, `Severity`, `StateType`). Each member has a word
of its own, and a value that is no such word stands for no member.
-/
import SketchPanel.Json.Plain

namespace SketchPanel.Scene

/-- a value that is no word of a family -/
structure NoWord where
  family : String
  value : Json

/-- the word for the kind of such a fault -/
def NoWord.kind (_ : NoWord) : String := "ValueError"

/-- what is said of such a value -/
def NoWord.message (fault : NoWord) : String := fault.value.shown ++ " is not a valid " ++ fault.family

/-- the member of a family that a value is the word for -/
def member {α : Type} (family : String) (word : α → String) (members : List α) (value : Json) : Except NoWord α :=
  let found : Option α := match value with
    | .str text => members.find? (word · == text)
    | _ => none
  match found with
  | some a => .ok a
  | none => .error ⟨family, value⟩

end SketchPanel.Scene
