/-
Quoted texts as they stand in messages. A text is set in apostrophes, or in double quotes when it holds an
apostrophe and no double quote. The mark in use and the backslash are escaped, line ends and tabs have short
escapes, and what cannot be printed is written by its code point in two, four or eight hexadecimal digits.
-/
import SketchPanel.Text.Digit
import SketchPanel.Text.Printable

namespace SketchPanel.Text

/-- the single quotation mark -/
def apostrophe : Char := Char.ofNat 39

/-- the mark that a text is quoted with -/
def quoteMark (text : List Char) : Char :=
  if text.contains apostrophe && !text.contains '"' then '"' else apostrophe

/-- one character inside quotation marks -/
def quotedChar (mark c : Char) : List Char :=
  if c = mark ∨ c = '\\' then ['\\', c]
  else if c = '\n' then ['\\', 'n']
  else if c = '\r' then ['\\', 'r']
  else if c = '\t' then ['\\', 't']
  else if isPrintable c then [c]
  else if c.toNat < 0x100 then ['\\', 'x'] ++ hexPadded 2 c.toNat
  else if c.toNat < 0x10000 then ['\\', 'u'] ++ hexPadded 4 c.toNat
  else ['\\', 'U'] ++ hexPadded 8 c.toNat

/-- the text in quotation marks -/
def quoted (text : String) : String :=
  let mark := quoteMark text.toList
  .ofList (mark :: text.toList.flatMap (quotedChar mark) ++ [mark])

end SketchPanel.Text
