/-
Names of fields (`camel_case`, `to_dict`). In a document the fields of a value have the words of their name run
together, each word after the first with a capital; a field without a value is left out.
-/
import SketchPanel.Json.Basic
import SketchPanel.Text.Case
import SketchPanel.Text.Scan

namespace SketchPanel.Scene

open SketchPanel.Text

/-- words between underscores run together, each after the first capitalised -/
def camelCase (name : String) : String :=
  match pieces '_' name.toList with
  | [] => ""
  | first :: words => .ofList (first ++ words.flatMap capitalize)

/-- the fields that have a value, under their names -/
def record (fields : List (String × Option Json)) : Json.Fields :=
  fields.filterMap fun (name, value) => value.map fun v => (camelCase name, v)

end SketchPanel.Scene
