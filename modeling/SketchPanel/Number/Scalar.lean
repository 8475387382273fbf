/-
Coordinates: whole numbers of any size, and floating numbers. Arithmetic on whole numbers is exact and stays whole;
as soon as one operand is floating the other is rounded to a floating number, which fails beyond the largest one.
Comparison is always exact.
-/
import SketchPanel.Number.Fixed
import SketchPanel.Number.Shortest

namespace SketchPanel.Number

/-- a whole or a floating number -/
inductive Scalar where
  | whole (n : Int)
  | real (x : Float)

/-- ways in which arithmetic has no answer -/
inductive Scalar.Fault where
  /-- a whole number lies beyond the largest floating one -/
  | tooLarge
  /-- so does the quotient of two whole numbers -/
  | quotientTooLarge
  | dividedByZero
  /-- the undefined number has no whole part -/
  | undefinedPart
  /-- an infinity has no whole part -/
  | infinitePart
  /-- an infinite angle has no sine -/
  | outsideDomain
  deriving DecidableEq

namespace Scalar

instance : Coe Int Scalar := ⟨.whole⟩
instance (n : Nat) : OfNat Scalar n := ⟨.whole n⟩

/-- what is said of arithmetic without an answer -/
def Fault.message : Fault → String
  | .tooLarge => "int too large to convert to float"
  | .quotientTooLarge => "integer division result too large for a float"
  | .dividedByZero => "float division by zero"
  | .undefinedPart => "cannot convert float NaN to integer"
  | .infinitePart => "cannot convert float infinity to integer"
  | .outsideDomain => "math domain error"

/-- the word for the kind of such a fault -/
def Fault.kind : Fault → String
  | .tooLarge | .quotientTooLarge | .infinitePart => "OverflowError"
  | .dividedByZero => "ZeroDivisionError"
  | .undefinedPart | .outsideDomain => "ValueError"

/-- the floating number nearest to the scalar -/
def toFloat : Scalar → Except Fault Float
  | .whole n => match ofWhole? n with
    | some x => .ok x
    | none => .error .tooLarge
  | .real x => .ok x

/-- exact on whole numbers, floating otherwise -/
def lift (exact : Int → Int → Int) (rounded : Float → Float → Float) : Scalar → Scalar → Except Fault Scalar
  | .whole m, .whole n => .ok (.whole (exact m n))
  | a, b => do return .real (rounded (← a.toFloat) (← b.toFloat))

def add : Scalar → Scalar → Except Fault Scalar := lift (· + ·) (· + ·)
def sub : Scalar → Scalar → Except Fault Scalar := lift (· - ·) (· - ·)
def mul : Scalar → Scalar → Except Fault Scalar := lift (· * ·) (· * ·)

/-- the negated scalar -/
def neg : Scalar → Scalar
  | .whole n => .whole (-n)
  | .real x => .real (-x)

/-- the quotient of whole numbers, rounded once -/
def quotient (m n : Int) : Except Fault Float :=
  if n = 0 then .error .dividedByZero
  else match nearest? (decide (m < 0) != decide (n < 0)) m.natAbs n.natAbs with
    | some x => .ok x
    | none => .error .quotientTooLarge

/-- half of the scalar, always floating -/
def half : Scalar → Except Fault Scalar
  | .whole n => return .real (← quotient n 2)
  | .real x => .ok (.real (x / 2))

/-- the remainder of a floored division by a floating number -/
def modulo (a : Scalar) (y : Float) : Except Fault Float := do return remainder (← a.toFloat) y

/-- how a finite floating number compares with a whole one -/
def compareParts (negative : Bool) (mantissa : Nat) (exponent : Int) (n : Int) : Ordering :=
  let (num, den) := scaled mantissa exponent
  compare (if negative then -(num : Int) else num) (n * den)

/-- how a floating number compares with a whole one, none for the undefined number -/
def compareWhole (x : Float) (n : Int) : Option Ordering :=
  match parts x with
  | .undefined => none
  | .infinite negative => some (if negative then .lt else .gt)
  | .finite negative mantissa exponent => some (compareParts negative mantissa exponent n)

/-- the exact order of two scalars, none if one is undefined -/
def order : Scalar → Scalar → Option Ordering
  | .whole m, .whole n => some (compare m n)
  | .real x, .whole n => compareWhole x n
  | .whole m, .real y => (compareWhole y m).map Ordering.swap
  | .real x, .real y => if x < y then some .lt else if y < x then some .gt else if x == y then some .eq else none

def lt (a b : Scalar) : Bool := a.order b == some .lt
def le (a b : Scalar) : Bool := a.order b == some .lt || a.order b == some .eq
def same (a b : Scalar) : Bool := a.order b == some .eq

/-- whether a scalar is the undefined number -/
def undefined (a : Scalar) : Bool := a.order a == none

/-- the first of two scalars unless the second is smaller -/
def smaller (a b : Scalar) : Scalar := if b.lt a then b else a

/-- the first of two scalars unless the second is larger -/
def larger (a b : Scalar) : Scalar := if a.lt b then b else a

/-! ## Whole numbers compared -/

theorem lt_whole (m n : Int) : (whole m).lt (whole n) = decide (m < n) := by
  rw [Bool.eq_iff_iff, decide_eq_true_eq]
  simp only [lt, order, beq_iff_eq, Option.some.injEq, Int.compare_eq_lt]

theorem same_whole (m n : Int) : (whole m).same (whole n) = decide (m = n) := by
  rw [Bool.eq_iff_iff, decide_eq_true_eq]
  simp only [same, order, beq_iff_eq, Option.some.injEq, Int.compare_eq_eq]

theorem le_whole (m n : Int) : (whole m).le (whole n) = decide (m ≤ n) := by
  have hlt := lt_whole m n
  have hsame := same_whole m n
  simp only [lt, same] at hlt hsame
  rw [le, hlt, hsame]
  rw [← Bool.decide_or]
  exact decide_eq_decide.mpr (by omega)

/-- the whole number made of the parts of a floating one by the given rounding of quotients -/
def wholePart (rounding : Bool → Nat → Nat → Int) (x : Float) : Except Fault Int :=
  match parts x with
  | .undefined => .error .undefinedPart
  | .infinite _ => .error .infinitePart
  | .finite negative mantissa exponent =>
    let (num, den) := scaled mantissa exponent
    .ok (rounding negative num den)

/-- a magnitude with its sign -/
def signed (negative : Bool) (n : Nat) : Int := if negative then -(n : Int) else n

/-- the nearest whole number, a tie going to the even one -/
def round : Scalar → Except Fault Int
  | .whole n => .ok n
  | .real x => wholePart (fun negative num den => signed negative (roundHalfEven num den)) x

/-- the whole part, toward zero -/
def truncate : Scalar → Except Fault Int
  | .whole n => .ok n
  | .real x => wholePart (fun negative num den => signed negative (num / den)) x

/-- the least whole number that is not smaller -/
def ceiling : Scalar → Except Fault Int
  | .whole n => .ok n
  | .real x => wholePart (fun negative num den =>
      if negative then -((num / den : Nat) : Int) else ((num + den - 1) / den : Nat)) x

/-- a scalar as it stands in messages -/
def text : Scalar → String
  | .whole n => toString n
  | .real x => .ofList (shortest x)

end Scalar

end SketchPanel.Number
