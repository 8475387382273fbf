/-
Messages with places for values, as the records of the log have them. A place is a percent sign and a mark that says how
a value is written; between the two may stand the name of the value, flags, a width and a precision. Two percent signs
are one. `fill` writes values into the places one after another, and stops at the first that does not fit.
-/
import SketchPanel.Json.Loose
import SketchPanel.Json.Plain
import SketchPanel.Number.Significant

namespace SketchPanel.Log

open Number Text

/-! ## Places -/

/-- which value a place is for -/
inductive Name where
  | next
  | named (name : String)
  /-- a name that nothing closes -/
  | open

/-- a width or a precision -/
inductive Extent where
  | unsaid
  | said (n : Nat)
  | tooBig
  /-- it is the next value -/
  | taken

/-- a place for a value; without a mark it is unfinished -/
structure Place where
  name : Name
  flags : List Char
  width : Extent
  precision : Extent
  mark : Option Char
  /-- how many characters the place takes after its percent sign -/
  size : Nat

/-- the text up to the bracket that closes an open one, and what follows it -/
def upToClosing : Nat → List Char → Option (List Char × List Char)
  | _, [] => none
  | 0, ')' :: rest => some ([], rest)
  | depth + 1, ')' :: rest => (upToClosing depth rest).map fun (name, after) => (')' :: name, after)
  | depth, '(' :: rest => (upToClosing (depth + 1) rest).map fun (name, after) => ('(' :: name, after)
  | depth, c :: rest => (upToClosing depth rest).map fun (name, after) => (c :: name, after)

/-- the name at the start of a place -/
def Name.read : List Char → Name × List Char
  | '(' :: rest =>
    match upToClosing 0 rest with
    | some (name, after) => (.named (.ofList name), after)
    | none => (.open, [])
  | text => (.next, text)

/-- a plain digit -/
def isPlain (c : Char) : Bool := '0' ≤ c && c ≤ '9'

/-- the extent at the start of a text, at most the given one -/
def Extent.read (most : Nat) (text : List Char) : Extent × List Char :=
  match text with
  | '*' :: rest => (.taken, rest)
  | _ =>
    match text.takeWhile isPlain with
    | [] => (.unsaid, text)
    | digits =>
      let n := digits.foldl (fun n c => n * 10 + (c.toNat - 48)) 0
      (if most < n then .tooBig else .said n, text.dropWhile isPlain)

/-- the largest width -/
def maxWidth : Nat := 0x7FFFFFFFFFFFFFFF

/-- the largest precision -/
def maxPrecision : Nat := 0x7FFFFFFF

/-- a precision after its point; without digits it is nought -/
def precisionAt : List Char → Extent × List Char
  | '.' :: rest =>
    match Extent.read maxPrecision rest with
    | (.unsaid, rest) => (.said 0, rest)
    | found => found
  | text => (.unsaid, text)

/-- a character that may stand among the flags -/
def isFlag (c : Char) : Bool := ['-', '+', ' ', '#', '0'].contains c

/-- a text without the letter of a size, which says nothing here -/
def withoutSize : List Char → List Char
  | c :: rest => if c = 'h' ∨ c = 'l' ∨ c = 'L' then rest else c :: rest
  | [] => []

/-- the place at the start of a text that follows a percent sign -/
def Place.read (text : List Char) : Place :=
  let (name, rest) := Name.read text
  let flags := rest.takeWhile isFlag
  let (width, rest) := Extent.read maxWidth (rest.dropWhile isFlag)
  let (precision, rest) := precisionAt rest
  let rest := withoutSize rest
  { name, flags, width, precision, mark := rest.head?, size := text.length - (rest.drop 1).length }

/-- a part of a message -/
inductive Part where
  | char (c : Char)
  /-- a place with the index of its mark -/
  | place (place : Place) (index : Nat)

/-- the parts of a message from an index on -/
def parts (index : Nat) : List Char → List Part
  | [] => []
  | '%' :: '%' :: rest => .char '%' :: parts (index + 2) rest
  | '%' :: rest =>
    let place := Place.read rest
    .place place (index + place.size) :: parts (index + 1 + place.size) (rest.drop place.size)
  | c :: rest => .char c :: parts (index + 1) rest
termination_by text => text.length
decreasing_by all_goals (simp only [List.length_cons, List.length_drop]; omega)

/-! ## Faults -/

/-- reasons why values do not fit a message -/
inductive FillFault where
  | tooFew
  | tooMany
  | notReal (mark : Char) (kind : String)
  | notWhole (mark : Char) (kind : String)
  | notFloating (kind : String)
  | notCharacter
  | noSuchCharacter
  | badMark (mark : Char) (index : Nat)
  | unfinished
  | unfinishedName
  | unnamed
  | missing (name : String)
  /-- a list has no names -/
  | nameless
  | widthTooBig
  | precisionTooBig
  | extentNotWhole
  | widthOutOfRange
  | precisionOutOfRange
  | number (fault : Scalar.Fault)
  deriving DecidableEq

/-- the word for the kind of a fault -/
def FillFault.kind : FillFault → String
  | .badMark .. | .unfinished | .unfinishedName | .widthTooBig | .precisionTooBig => "ValueError"
  | .noSuchCharacter | .widthOutOfRange | .precisionOutOfRange => "OverflowError"
  | .missing _ => "KeyError"
  | .number fault => fault.kind
  | _ => "TypeError"

/-- a mark as it is shown when it means nothing -/
def shownMark (mark : Char) : Char := if 31 ≤ mark.toNat ∧ mark.toNat ≤ 126 then mark else '?'

/-- what is said of values that do not fit -/
def FillFault.message : FillFault → String
  | .tooFew => "not enough arguments for format string"
  | .tooMany => "not all arguments converted during string formatting"
  | .notReal mark kind => "%" ++ mark.toString ++ " format: a real number is required, not " ++ kind
  | .notWhole mark kind => "%" ++ mark.toString ++ " format: an integer is required, not " ++ kind
  | .notFloating kind => "must be real number, not " ++ kind
  | .notCharacter => "%c requires int or char"
  | .noSuchCharacter => "%c arg not in range(0x110000)"
  | .badMark mark index =>
    "unsupported format character '" ++ (shownMark mark).toString ++ "' (0x"
      ++ String.ofList (Nat.toDigits 16 mark.toNat) ++ s!") at index {index}"
  | .unfinished => "incomplete format"
  | .unfinishedName => "incomplete format key"
  | .unnamed => "format requires a mapping"
  | .missing name => quoted name
  | .nameless => "list indices must be integers or slices, not str"
  | .widthTooBig => "width too big"
  | .precisionTooBig => "precision too big"
  | .extentNotWhole => "* wants int"
  | .widthOutOfRange => "Python int too large to convert to C ssize_t"
  | .precisionOutOfRange => "Python int too large to convert to C int"
  | .number fault => fault.message

/-! ## Values -/

/-- values for places: those still to come, and where those with names are found -/
structure Supply where
  coming : List Json
  names : Option Json

/-- the supply of several values -/
def Supply.several (values : List Json) : Supply := ⟨values, none⟩

/-- the supply of one value, which may itself hold values with names -/
def Supply.single (value : Json) : Supply :=
  ⟨[value], match value with
    | .arr _ | .obj _ => some value
    | _ => none⟩

/-- the next value -/
def Supply.next (s : Supply) : Except FillFault (Json × Supply) :=
  match s.coming with
  | [] => .error .tooFew
  | value :: rest => .ok (value, { s with coming := rest })

/-- the supply from which a place takes its value -/
def Supply.chosen (s : Supply) : Name → Except FillFault Supply
  | .next => .ok s
  | .open => .error (if s.names.isSome then .unfinishedName else .unnamed)
  | .named name =>
    match s.names with
    | none => .error .unnamed
    | some (.obj fields) =>
      match fields.lookup name with
      | some value => .ok { s with coming := [value] }
      | none => .error (.missing name)
    | some _ => .error .nameless

/-- an extent with its number filled in from the values if need be; what is out of range is a fault of its own -/
def Supply.extent (s : Supply) (e : Extent) (tooBig outOfRange : FillFault) (most : Nat) :
    Except FillFault (Option Int × Supply) :=
  match e with
  | .unsaid => .ok (none, s)
  | .said n => .ok (some n, s)
  | .tooBig => .error tooBig
  | .taken => do
    let (value, s) ← s.next
    match value.whole? with
    | none => throw .extentNotWhole
    | some n => if (most : Int) < n ∨ n < -(most : Int) - 1 then throw outOfRange else return (some n, s)

/-! ## Writing -/

/-- how a value is written, once all is known -/
structure Form where
  left : Bool
  plus : Bool
  space : Bool
  alternate : Bool
  zero : Bool
  width : Nat
  precision : Option Nat

/-- the form that flags, width and precision come to; a width below nought stands on the left -/
def Form.of (flags : List Char) (width precision : Option Int) : Form where
  left := flags.contains '-' || decide (width.getD 0 < 0)
  plus := flags.contains '+'
  space := flags.contains ' '
  alternate := flags.contains '#'
  zero := flags.contains '0'
  width := (width.getD 0).natAbs
  precision := precision.map Int.toNat

/-- a text in its width -/
def Form.padded (f : Form) (text : List Char) : List Char :=
  let gap := List.replicate (f.width - text.length) ' '
  if f.left then text ++ gap else gap ++ text

/-- sign, mark of the base and digits of a number in their width -/
def Form.number (f : Form) (negative : Bool) (base digits : List Char) : List Char :=
  let sign := if negative then ['-'] else if f.plus then ['+'] else if f.space then [' '] else []
  if f.zero && !f.left then
    sign ++ base ++ List.replicate (f.width - (sign.length + base.length + digits.length)) '0' ++ digits
  else f.padded (sign ++ base ++ digits)

/-- a text cut to the precision, in its width -/
def Form.text (f : Form) (text : String) : List Char :=
  f.padded (match f.precision with
    | some most => text.toList.take most
    | none => text.toList)

/-- digits with zeros before them up to the precision -/
def Form.digits (f : Form) (base n : Nat) : List Char :=
  let digits := Nat.toDigits base n
  List.replicate (f.precision.getD 0 - digits.length) '0' ++ digits

/-- a letter in upper case; anything else stays -/
def capital (c : Char) : Char := c.toUpper

/-- a whole number by its mark -/
def Form.whole (f : Form) (mark : Char) (n : Int) : List Char :=
  let base := if mark = 'o' then 8 else if mark = 'x' ∨ mark = 'X' then 16 else 10
  let digits := f.digits base n.natAbs
  f.number (decide (n < 0)) (if f.alternate && base != 10 then ['0', mark] else [])
    (if mark = 'X' then digits.map capital else digits)

/-- a floating number by its mark, without its sign -/
def Form.magnitude (f : Form) (mark : Char) (x : Float) : List Char :=
  let places := f.precision.getD 6
  let text := match Number.parts x with
    | .undefined => ['n', 'a', 'n']
    | .infinite _ => ['i', 'n', 'f']
    | .finite _ mantissa exponent =>
      let (num, den) := scaled mantissa exponent
      if mark = 'f' ∨ mark = 'F' then fixedPlaces places f.alternate num den
      else if mark = 'e' ∨ mark = 'E' then exponential places f.alternate num den
      else general places f.alternate num den
  if mark = 'F' ∨ mark = 'E' ∨ mark = 'G' then text.map capital else text

/-- whether a floating number has a sign to show -/
def isNegative (x : Float) : Bool :=
  match Number.parts x with
  | .finite negative .. | .infinite negative => negative
  | .undefined => false

/-- a value as a whole number for a mark -/
def wholeFor (mark : Char) (value : Json) : Except FillFault Int :=
  let based := mark = 'o' ∨ mark = 'x' ∨ mark = 'X'
  match value.whole?, value with
  | some n, _ => .ok n
  | none, .real x =>
    if based then .error (.notWhole mark value.kind) else (Scalar.real x).truncate.mapError .number
  | none, _ => .error (if based then .notWhole mark value.kind else .notReal mark value.kind)

/-- a value as a floating number -/
def floatFor (value : Json) : Except FillFault Float :=
  match value.scalar? with
  | some x => x.toFloat.mapError .number
  | none => .error (.notFloating value.kind)

/-- a value as a character: a text of one, or a code -/
def characterFor (value : Json) : Except FillFault Char :=
  match value, value.whole? with
  | .str text, _ => match text.toList with
    | [c] => .ok c
    | _ => .error .notCharacter
  | _, some n => if 0 ≤ n ∧ n < 0x110000 then .ok (Char.ofNat n.toNat) else .error .noSuchCharacter
  | _, none => .error .notCharacter

/-- a character of a quoted text in plain ones -/
def asciiChar (c : Char) : List Char :=
  if c.toNat < 0x80 then [c]
  else if c.toNat < 0x100 then ['\\', 'x'] ++ hexPadded 2 c.toNat
  else if c.toNat < 0x10000 then ['\\', 'u'] ++ hexPadded 4 c.toNat
  else ['\\', 'U'] ++ hexPadded 8 c.toNat

/-- a value by its mark, which stands at an index -/
def Form.value (f : Form) (mark : Char) (index : Nat) (value : Json) : Except FillFault (List Char) :=
  if mark = 's' then .ok (f.text value.plain)
  else if mark = 'r' then .ok (f.text value.shown)
  else if mark = 'a' then .ok (f.text (.ofList (value.shown.toList.flatMap asciiChar)))
  else if ['d', 'i', 'u', 'o', 'x', 'X'].contains mark then return f.whole mark (← wholeFor mark value)
  else if ['e', 'E', 'f', 'F', 'g', 'G'].contains mark then do
    let x ← floatFor value
    return f.number (isNegative x) [] (f.magnitude mark x)
  else if mark = 'c' then return f.padded [← characterFor value]
  else .error (.badMark mark index)

/-- the text of a place whose mark stands at an index, and the values left -/
def Place.filled (p : Place) (index : Nat) (s : Supply) : Except FillFault (List Char × Supply) := do
  let s ← s.chosen p.name
  let (width, s) ← s.extent p.width .widthTooBig .widthOutOfRange maxWidth
  let (precision, s) ← s.extent p.precision .precisionTooBig .precisionOutOfRange maxPrecision
  match p.mark with
  | none => throw .unfinished
  | some mark =>
    let (value, s) ← s.next
    return (← (Form.of p.flags width precision).value mark index value, s)

/-- the text of parts with values in their places; all values must have been used, unless they have names -/
def fillParts : List Part → Supply → Except FillFault (List Char)
  | [], s => if s.names.isNone && !s.coming.isEmpty then .error .tooMany else .ok []
  | .char c :: rest, s => return c :: (← fillParts rest s)
  | .place place index :: rest, s => do
    let (text, s) ← place.filled index s
    return text ++ (← fillParts rest s)

/-- a message with values in its places -/
def fill (message : String) (s : Supply) : Except FillFault String := do
  return .ofList (← fillParts (parts 0 message.toList) s)

end SketchPanel.Log
