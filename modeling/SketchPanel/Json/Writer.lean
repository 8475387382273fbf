/-
Writing structured values as text, as `save_config`, `run_parse` and `JsonFormatter` do. Only plain characters are
written as they are; a character beyond the first plane is written as a pair. A value may be laid out over lines, each
level two spaces further in, or on one line.
-/
import SketchPanel.Json.Basic
import SketchPanel.Number.Numeral
import SketchPanel.Number.Shortest
import SketchPanel.Text.Digit

namespace SketchPanel.Json

open SketchPanel.Text SketchPanel.Number

/-- a code escape of four digits -/
def codeUnit (n : Nat) : List Char := '\\' :: 'u' :: hexPadded 4 n

/-- one character of a text literal -/
def escaped (c : Char) : List Char :=
  if c = '"' then ['\\', '"']
  else if c = '\\' then ['\\', '\\']
  else if c = '\n' then ['\\', 'n']
  else if c = '\r' then ['\\', 'r']
  else if c = '\t' then ['\\', 't']
  else if c = '\x08' then ['\\', 'b']
  else if c = '\x0c' then ['\\', 'f']
  else if 32 ≤ c.toNat ∧ c.toNat < 127 then [c]
  else if c.toNat < 0x10000 then codeUnit c.toNat
  else codeUnit (0xD800 + (c.toNat - 0x10000) / 0x400) ++ codeUnit (0xDC00 + (c.toNat - 0x10000) % 0x400)

/-- a text literal -/
def literal (s : String) : List Char := '"' :: s.toList.flatMap escaped ++ ['"']

/-- a floating number; what is not finite is named -/
def realText (x : Float) : List Char :=
  match parts x with
  | .undefined => "NaN".toList
  | .infinite true => "-Infinity".toList
  | .infinite false => "Infinity".toList
  | .finite .. => shortest x

/-- how the parts of a list or object are set: on one line, or one to a line at a depth -/
inductive Layout where
  | line
  | block (depth : Nat)

/-- one level further in -/
def Layout.deeper : Layout → Layout
  | .line => .line
  | .block depth => .block (depth + 1)

/-- what stands before the first part -/
def Layout.before : Layout → List Char
  | .line => []
  | .block depth => '\n' :: List.replicate (2 * depth) ' '

/-- what stands between two parts -/
def Layout.between : Layout → List Char
  | .line => [',', ' ']
  | .block depth => ',' :: '\n' :: List.replicate (2 * depth) ' '

mutual

/-- a value as text -/
def write (layout : Layout) : Json → List Char
  | .null => "null".toList
  | .bool true => "true".toList
  | .bool false => "false".toList
  | .int n => (toString n).toList
  | .real x => realText x
  | .str s => literal s
  | .arr [] => ['[', ']']
  | .arr (item :: items) =>
    '[' :: layout.deeper.before ++ write layout.deeper item ++ writeItems layout.deeper items ++ layout.before ++ [']']
  | .obj [] => ['{', '}']
  | .obj ((key, value) :: fields) =>
    '{' :: layout.deeper.before ++ literal key ++ [':', ' '] ++ write layout.deeper value
      ++ writeFields layout.deeper fields ++ layout.before ++ ['}']

/-- the further items of a list -/
def writeItems (layout : Layout) : List Json → List Char
  | [] => []
  | item :: items => layout.between ++ write layout item ++ writeItems layout items

/-- the further fields of an object -/
def writeFields (layout : Layout) : List (String × Json) → List Char
  | [] => []
  | (key, value) :: fields =>
    layout.between ++ literal key ++ [':', ' '] ++ write layout value ++ writeFields layout fields

end

mutual

/-- whether no whole number of a value takes too many digits -/
def writable : Json → Bool
  | .int n => inDigitLimit n
  | .arr items => writableItems items
  | .obj fields => writableFields fields
  | _ => true

/-- whether no whole number of some items takes too many digits -/
def writableItems : List Json → Bool
  | [] => true
  | item :: items => writable item && writableItems items

/-- whether no whole number of some fields takes too many digits -/
def writableFields : List (String × Json) → Bool
  | [] => true
  | (_, value) :: fields => writable value && writableFields fields

end

/-- a value laid out over lines -/
def pretty (value : Json) : String := .ofList (write (.block 0) value)

/-- a value on one line -/
def compact (value : Json) : String := .ofList (write .line value)

end SketchPanel.Json
