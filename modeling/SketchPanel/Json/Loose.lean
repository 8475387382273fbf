/-
Structured values taken for what they should be. Settings are not checked when they are read: a value of the wrong kind
goes where a right one would have gone, and only an operation that cannot be done with it fails. Truth values count as
numbers, and nought and whatever is empty count as no.
-/
import SketchPanel.Json.Basic
import SketchPanel.Number.Scalar

namespace SketchPanel.Json

open Number

/-- the word for the kind of a value -/
def kind : Json → String
  | .null => "NoneType"
  | .bool _ => "bool"
  | .int _ => "int"
  | .real _ => "float"
  | .str _ => "str"
  | .arr _ => "list"
  | .obj _ => "dict"

/-- whether a value counts as yes: it is neither nought nor empty -/
def truthy : Json → Bool
  | .null => false
  | .bool b => b
  | .int n => n != 0
  | .real x => !(x == 0.0)
  | .str s => !s.isEmpty
  | .arr items => !items.isEmpty
  | .obj fields => !fields.isEmpty

/-- a value as a whole number -/
def whole? : Json → Option Int
  | .int n => some n
  | .bool b => some (if b then 1 else 0)
  | _ => none

/-- a value as a number -/
def scalar? : Json → Option Scalar
  | .real x => some (.real x)
  | value => value.whole?.map .whole

/-- a number as a value -/
def ofScalar : Scalar → Json
  | .whole n => .int n
  | .real x => .real x

/-- a value unless it is null -/
def given? : Json → Option Json
  | .null => none
  | value => some value

/-! ## Sameness -/

/-- whether a floating number is another one; the undefined number is itself -/
def sameFloat (x y : Float) : Bool := x == y || x.toBits == y.toBits

mutual

/-- whether two values are the same; numbers are the same if they count the same, whatever their form -/
def same : Json → Json → Bool
  | .null, .null => true
  | .str s, .str t => s == t
  | .arr xs, .arr ys => sameItems xs ys
  | .obj xs, .obj ys => sameFields xs ys
  | .real x, .real y => sameFloat x y
  | x, y =>
    match x.scalar?, y.scalar? with
    | some m, some n => m.same n
    | _, _ => false

/-- whether the items of two lists are the same in turn -/
def sameItems : List Json → List Json → Bool
  | [], [] => true
  | x :: xs, y :: ys => same x y && sameItems xs ys
  | _, _ => false

/-- whether the fields of two objects are the same in turn -/
def sameFields : List (String × Json) → List (String × Json) → Bool
  | [], [] => true
  | (k, x) :: xs, (l, y) :: ys => k == l && same x y && sameFields xs ys
  | _, _ => false

end

/-! ## Mismatches -/

/-- an operation that cannot be done with values of the kinds it meets -/
inductive Mismatch where
  /-- they have no order -/
  | order (sign left right : String)
  /-- they have no sum -/
  | sum (left right : String)
  /-- nothing can be counted by them -/
  | count (kind : String)
  /-- no text has them in it -/
  | part (kind : String)
  /-- no text starts with them -/
  | start (kind : String)
  /-- they are no path -/
  | path (kind : String)
  /-- they are no text, so nothing of the kind can be done to them -/
  | notText (kind operation : String)
  deriving DecidableEq, Repr

/-- the word for the kind of a mismatch -/
def Mismatch.kind : Mismatch → String
  | .notText .. => "AttributeError"
  | _ => "TypeError"

/-- what is said of a mismatch -/
def Mismatch.message : Mismatch → String
  | .order sign left right =>
    "'" ++ sign ++ "' not supported between instances of '" ++ left ++ "' and '" ++ right ++ "'"
  | .sum left right =>
    if left = "list" then "can only concatenate list (not \"" ++ right ++ "\") to list"
    else "unsupported operand type(s) for +: '" ++ left ++ "' and '" ++ right ++ "'"
  | .count kind => "'" ++ kind ++ "' object cannot be interpreted as an integer"
  | .part kind => "'in <string>' requires string as left operand, not " ++ kind
  | .start kind => "startswith first arg must be str or a tuple of str, not " ++ kind
  | .path kind => "expected str, bytes or os.PathLike object, not " ++ kind
  | .notText kind operation => "'" ++ kind ++ "' object has no attribute '" ++ operation ++ "'"

/-- a value as a number that an order with whole numbers is asked of -/
def ordered (sign : String) (value : Json) : Except Mismatch Scalar :=
  match value.scalar? with
  | some n => .ok n
  | none => .error (.order sign value.kind (kind (.int 0)))

end SketchPanel.Json
