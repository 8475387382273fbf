/-
Blank characters of every script and the removal of blanks from the ends of a text. The set holds the plain
space, the controls that move the cursor, the four separators of information, and the spaces and line ends of
the world's scripts; the zero-width space is no blank.
-/
import SketchPanel.Text.Ranges

namespace SketchPanel.Text

/-- where the blanks lie -/
def blankRanges : Ranges := [
  (9, 13), (28, 32), (133, 133), (160, 160), (5760, 5760), (8192, 8202), (8232, 8233), (8239, 8239),
  (8287, 8287), (12288, 12288)]

/-- a character that the ends of a text lose when it is trimmed -/
def isBlank (c : Char) : Bool := blankRanges.has c

/-- the text without the blanks it starts with -/
def trimStart (text : List Char) : List Char := text.dropWhile isBlank

/-- the text without the blanks it ends with -/
def trimEnd (text : List Char) : List Char := (text.reverse.dropWhile isBlank).reverse

/-- the text without the blanks at either end -/
def trim (text : List Char) : List Char := trimEnd (trimStart text)

/-- every run of blanks as one plain space -/
def collapse : List Char → List Char
  | [] => []
  | c :: rest =>
    if isBlank c then
      match rest with
      | d :: _ => if isBlank d then collapse rest else ' ' :: collapse rest
      | [] => [' ']
    else c :: collapse rest

theorem isBlank_space : isBlank ' ' = true := by decide

end SketchPanel.Text
