/-
Case of whole texts. Upper case works letter by letter. Lower case does too, but for the capital sigma, which has
a second small form at the end of a word. A capitalised word has its first letter in title case and the rest in
lower case; a field name in camel case is made of such words.
-/
import SketchPanel.Text.Case.Cased
import SketchPanel.Text.Case.Lower
import SketchPanel.Text.Case.Title

namespace SketchPanel.Text

open Case

/-- whether the nearest character that is not passed over is a cased letter -/
def nextIsCased (text : List Char) : Bool :=
  match text.dropWhile isPassedOver with
  | c :: _ => isCased c
  | [] => false

/-- lower case of a text that follows the given characters, nearest first -/
def lowerAfter : List Char → List Char → List Char
  | _, [] => []
  | before, c :: rest =>
    (if c = 'Σ' then (if nextIsCased before && !nextIsCased rest then ['ς'] else ['σ']) else lowerChar c)
      ++ lowerAfter (c :: before) rest

/-- the text in lower case -/
def lower (text : String) : String := .ofList (lowerAfter [] text.toList)

/-- the text in upper case -/
def upper (text : String) : String := .ofList (text.toList.flatMap upperChar)

/-- first letter in title case, the rest in lower case -/
def capitalize : List Char → List Char
  | [] => []
  | c :: rest => titleChar c ++ lowerAfter [c] rest

/-- first letter in upper case, the rest in lower case as a text of its own -/
def upperFirst : List Char → List Char
  | [] => []
  | c :: rest => upperChar c ++ lowerAfter [] rest

end SketchPanel.Text
