/-
Reading structured values from text, as `load_config` does. Blanks are the space, the tab and the two line ends; texts
hold no control characters; the infinities and the undefined number have names. Of two fields with one key the last
counts. Lists and objects stand in one another up to a depth. A fault tells what was expected, and where.
-/
import SketchPanel.Json.Basic
import SketchPanel.Number.Numeral

namespace SketchPanel.Json

open SketchPanel.Text SketchPanel.Number

/-- what is wrong with a text -/
inductive Flaw where
  | value
  | key
  | colon
  | comma
  | controlCharacter
  | unterminated
  | escape
  | codeEscape
  | extra
  | byteOrderMark
  deriving DecidableEq, Repr

/-- a text that is no value -/
inductive Fault where
  /-- a flaw before the given number of remaining characters -/
  | flaw (what : Flaw) (remaining : Nat)
  | tooLong (fault : TooLong)
  /-- a list, or an object, in as many others as there may be -/
  | tooDeep (object : Bool)
  deriving DecidableEq, Repr

/-- what is said of a flaw -/
def Flaw.message : Flaw → String
  | .value => "Expecting value"
  | .key => "Expecting property name enclosed in double quotes"
  | .colon => "Expecting ':' delimiter"
  | .comma => "Expecting ',' delimiter"
  | .controlCharacter => "Invalid control character at"
  | .unterminated => "Unterminated string starting at"
  | .escape => "Invalid \\escape"
  | .codeEscape => "Invalid \\uXXXX escape"
  | .extra => "Extra data"
  | .byteOrderMark => "Unexpected UTF-8 BOM (decode using utf-8-sig)"

/-- what is said of a text that is no value: the flaw with its line, column and place -/
def Fault.message (text : List Char) : Fault → String
  | .tooLong fault => fault.message
  | .tooDeep object =>
    "maximum recursion depth exceeded while decoding a JSON " ++ (if object then "object" else "array")
      ++ " from a unicode string"
  | .flaw what remaining =>
    let before := text.take (text.length - remaining)
    let line := (before.filter (· = '\n')).length + 1
    let column := (before.reverse.takeWhile (· ≠ '\n')).length + 1
    s!"{what.message}: line {line} column {column} (char {before.length})"

/-- a character that may stand between the parts of a value -/
def isGap (c : Char) : Bool := c = ' ' || c = '\t' || c = '\n' || c = '\r'

/-- the text after its gap -/
def afterGap (text : List Char) : List Char := text.dropWhile isGap

/-- a plain decimal digit -/
def isPlainDigit (c : Char) : Bool := '0' ≤ c && c ≤ '9'

/-- the number that four hexadecimal digits spell, and the rest -/
def fourDigits? (text : List Char) : Option (Nat × List Char) :=
  let digits := text.take 4
  if digits.length = 4 ∧ digits.all isHexDigit then some (hexNumber digits, text.drop 4) else none

/-- a flaw right before a text -/
def flawBefore {α : Type} (what : Flaw) (text : List Char) : Except Fault α := .error (.flaw what text.length)

/-- the character that a code escape stands for, after its mark; the second half of a pair may follow the first -/
def codeEscape (mark : Char) (text : List Char) : Except Fault (Char × List Char) :=
  -- a text that ends with the escape has no room for a closing quote
  if (text.drop 4).isEmpty then flawBefore .codeEscape (mark :: text)
  else match fourDigits? text with
  | none => flawBefore .codeEscape (mark :: text)
  | some (high, rest) =>
    let single := Except.ok (Char.ofNat (if 0xD800 ≤ high ∧ high ≤ 0xDFFF then 0xFFFD else high), rest)
    if 0xD800 ≤ high ∧ high ≤ 0xDBFF ∧ rest.drop 6 ≠ [] then
      match rest with
      | '\\' :: 'u' :: more =>
        match fourDigits? more with
        | none => flawBefore .codeEscape ('u' :: more)
        | some (low, after) =>
          if 0xDC00 ≤ low ∧ low ≤ 0xDFFF then
            .ok (Char.ofNat (0x10000 + (high - 0xD800) * 0x400 + (low - 0xDC00)), after)
          else single
      | _ => single
    else single

/-- what a short escape stands for -/
def shortEscape? : Char → Option Char
  | '"' => some '"'
  | '\\' => some '\\'
  | '/' => some '/'
  | 'b' => some '\x08'
  | 'f' => some '\x0c'
  | 'n' => some '\n'
  | 'r' => some '\r'
  | 't' => some '\t'
  | _ => none

/-- the rest of a text literal that was opened at the start of another text -/
def stringRest (opening : List Char) : Nat → List Char → List Char → Except Fault (String × List Char)
  | 0, _, _ => flawBefore .unterminated opening
  | fuel + 1, read, text =>
    match text with
    | [] => flawBefore .unterminated opening
    | '"' :: rest => .ok (.ofList read.reverse, rest)
    | '\\' :: [] => flawBefore .unterminated opening
    | '\\' :: 'u' :: rest => do
      let (c, rest) ← codeEscape 'u' rest
      stringRest opening fuel (c :: read) rest
    | '\\' :: e :: rest =>
      match shortEscape? e with
      | some c => stringRest opening fuel (c :: read) rest
      | none => flawBefore .escape text
    | c :: rest =>
      if c.toNat < 32 then flawBefore .controlCharacter text
      else stringRest opening fuel (c :: read) rest

/-- the whole part of a number: its digits and the rest -/
def wholeDigits? (text : List Char) : Option (List Char × List Char) :=
  match text with
  | '0' :: rest => some (['0'], rest)
  | _ => run? isPlainDigit text

/-- a number; a point or an exponent that no digit follows is not part of it -/
def number (text : List Char) : Except Fault (Json × List Char) :=
  let (negative, body) := match text with
    | '-' :: rest => (true, rest)
    | _ => (false, text)
  match wholeDigits? body with
  | none => flawBefore .value text
  | some (whole, rest) =>
    let (part, rest) : List Char × List Char := match rest with
      | '.' :: more => match run? isPlainDigit more with
        | some (digits, after) => ('.' :: digits, after)
        | none => ([], rest)
      | _ => ([], rest)
    let (power, rest) : List Char × List Char := match rest with
      | e :: more =>
        if e = 'e' ∨ e = 'E' then
          let (sign, digitsAt) := match more with
            | '-' :: after => (['-'], after)
            | '+' :: after => ([], after)
            | _ => ([], more)
          match run? isPlainDigit digitsAt with
          | some (digits, after) => ('e' :: sign ++ digits, after)
          | none => ([], rest)
        else ([], rest)
      | [] => ([], rest)
    if part = [] ∧ power = [] then
      match readDigits whole with
      | .ok n => .ok (.int (if negative then -(n : Int) else n), rest)
      | .error fault => .error (.tooLong fault)
    else
      match unsignedDecimal? negative (whole ++ part ++ power) with
      | some x => .ok (.real x, rest)
      | none => flawBefore .value text

/-- a word that stands for a value -/
def word? (text : List Char) : Option (Json × List Char) :=
  ((after? "null".toList text).map (.null, ·)).orElse fun _ =>
  ((after? "true".toList text).map (.bool true, ·)).orElse fun _ =>
  ((after? "false".toList text).map (.bool false, ·)).orElse fun _ =>
  ((after? "NaN".toList text).map (.real undefinedNumber, ·)).orElse fun _ =>
  ((after? "Infinity".toList text).map (.real (infinity false), ·)).orElse fun _ =>
  (after? "-Infinity".toList text).map (.real (infinity true), ·)

/-- how deep lists and objects may stand in one another -/
def depthLimit : Nat := 990

mutual

/-- one value at the start of the text, and the rest; there is room for so many lists and objects in one another -/
def value (room : Nat) : Nat → List Char → Except Fault (Json × List Char)
  | 0, text => flawBefore .value text
  | fuel + 1, text =>
    match text with
    | [] => flawBefore .value []
    | '"' :: rest => do
      let (s, rest) ← stringRest text fuel [] rest
      return (.str s, rest)
    | '[' :: rest =>
      match room, afterGap rest with
      | 0, _ => .error (.tooDeep false)
      | _, ']' :: after => .ok (.arr [], after)
      | room + 1, first => do
        let (items, rest) ← items room fuel first
        return (.arr items, rest)
    | '{' :: rest =>
      match room, afterGap rest with
      | 0, _ => .error (.tooDeep true)
      | _, '}' :: after => .ok (.obj [], after)
      | room + 1, first => do
        let (pairs, rest) ← pairs room fuel first
        return (.obj (Fields.ofPairs pairs), rest)
    | _ =>
      match word? text with
      | some found => .ok found
      | none => number text

/-- the items of a list up to its closing bracket -/
def items (room : Nat) : Nat → List Char → Except Fault (List Json × List Char)
  | 0, text => flawBefore .value text
  | fuel + 1, text => do
    let (item, rest) ← value room fuel text
    match afterGap rest with
    | ']' :: after => return ([item], after)
    | ',' :: more =>
      let (others, rest) ← items room fuel (afterGap more)
      return (item :: others, rest)
    | other => flawBefore .comma other

/-- the fields of an object up to its closing brace -/
def pairs (room : Nat) : Nat → List Char → Except Fault (List (String × Json) × List Char)
  | 0, text => flawBefore .value text
  | fuel + 1, text =>
    match text with
    | '"' :: rest => do
      let (key, rest) ← stringRest text fuel [] rest
      match afterGap rest with
      | ':' :: more =>
        let (item, rest) ← value room fuel (afterGap more)
        match afterGap rest with
        | '}' :: after => return ([(key, item)], after)
        | ',' :: more =>
          let (others, rest) ← pairs room fuel (afterGap more)
          return ((key, item) :: others, rest)
        | other => flawBefore .comma other
      | other => flawBefore .colon other
    | other => flawBefore .key other

end

/-- the value that a text is -/
def read (text : List Char) : Except Fault Json :=
  match text with
  | '\uFEFF' :: _ => flawBefore .byteOrderMark text
  | _ => do
    let (found, rest) ← value depthLimit (2 * text.length + 2) (afterGap text)
    match afterGap rest with
    | [] => return found
    | extra => flawBefore .extra extra

end SketchPanel.Json
