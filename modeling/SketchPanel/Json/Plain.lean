/-
Structured values as messages show them: a text as it is, and inside a list or an object in quotation marks.
-/
import SketchPanel.Json.Basic
import SketchPanel.Number.Shortest
import SketchPanel.Text.Quoted

namespace SketchPanel.Json

open SketchPanel.Text SketchPanel.Number

mutual

/-- a value inside another one -/
def shown : Json → String
  | .null => "None"
  | .bool true => "True"
  | .bool false => "False"
  | .int n => toString n
  | .real x => .ofList (shortest x)
  | .str s => quoted s
  | .arr items => "[" ++ shownItems items ++ "]"
  | .obj fields => "\x7b" ++ shownFields fields ++ "\x7d"

/-- the items of a list with commas between them -/
def shownItems : List Json → String
  | [] => ""
  | [item] => shown item
  | item :: items => shown item ++ ", " ++ shownItems items

/-- the fields of an object with commas between them -/
def shownFields : List (String × Json) → String
  | [] => ""
  | [(key, value)] => quoted key ++ ": " ++ shown value
  | (key, value) :: fields => quoted key ++ ": " ++ shown value ++ ", " ++ shownFields fields

end

/-- a value on its own -/
def plain : Json → String
  | .str s => s
  | value => shown value

end SketchPanel.Json
