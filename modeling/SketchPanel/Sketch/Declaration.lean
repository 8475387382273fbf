/-
Declarations of a sketch, each recognised on one line: included headers (`recognize_include`), enumerations
(`recognize_enum`), state bindings (`recognize_state_assignment`), variables (`recognize_variable`), function headers
(`recognize_function`), and the call that sets the rotation (`recognize_rotation`). What is recognised comes with the
rest of the line after it.
-/
import SketchPanel.Number.Numeral
import SketchPanel.Sketch.Statement

namespace SketchPanel.Sketch

open SketchPanel.Text SketchPanel.Number

/-! ## Includes -/

/-- an include directive, whatever its brackets -/
def includeAt (_ : Option Char) (text : Line) : Option (Line × Line) := do
  let text ← after? "#include".toList text
  let inner ← match trimStart text with
    | '<' :: inner => some inner
    | '"' :: inner => some inner
    | _ => none
  let target := inner.takeWhile fun c => c ≠ '>' ∧ c ≠ '"' ∧ c ≠ '\n'
  match inner.dropWhile fun c => c ≠ '>' ∧ c ≠ '"' ∧ c ≠ '\n' with
  | '\n' :: _ => none
  | _ :: rest => some (target, rest)
  | [] => none

/-- the header that a line includes -/
def include? (line : Line) : Option (Line × Line) := search includeAt none line

/-! ## Enumerations -/

/-- an enumeration with its members and what each stands for -/
structure Enumeration where
  name : Line
  members : List (Line × Line)
  deriving DecidableEq, Repr

/-- one member; without an initializer it stands for its own name -/
def member (text : Line) : Line × Line :=
  let name := trim (text.takeWhile (· ≠ '='))
  let initializer := trim ((text.dropWhile (· ≠ '=')).drop 1)
  (name, if initializer = [] then name else initializer)

/-- the members between the braces -/
def members (inner : Line) : List (Line × Line) :=
  (((pieces ',' inner).map trim).filter (· ≠ [])).map member

/-- the text after blanks and an underlying type, if one is given -/
def afterUnderlying? (text : Line) : Option Line :=
  match trimStart text with
  | ':' :: more => (run? isWord (trimStart more)).map fun (_, rest) => trimStart rest
  | other => some other

/-- name, underlying type if any, and braces -/
def enumerationBody (text : Line) : Option (Enumeration × Line) := do
  let (name, text) ← run? isWord text
  let text ← after? ['{'] (← afterUnderlying? text)
  let (inner, text) ← run? (· ≠ '}') text
  let rest ← after? ['}'] text
  return (⟨name, members inner⟩, rest)

/-- an enumeration, scoped or not -/
def enumerationAt (_ : Option Char) (text : Line) : Option (Enumeration × Line) := do
  let text ← after? "enum".toList text
  let text ← blanks? text
  let inClass := (after? "class".toList text).bind blanks? |>.bind enumerationBody
  inClass.orElse fun _ => enumerationBody text

/-- the enumeration on a line -/
def enumeration? (line : Line) : Option (Enumeration × Line) := search enumerationAt none line

/-! ## State bindings -/

/-- a value bound to a name of some type -/
structure Binding where
  type : Line
  name : Line
  value : Line
  deriving DecidableEq, Repr

/-- type, name and value, the last after an equals sign -/
def bindingAt (_ : Option Char) (text : Line) : Option (Binding × Line) := do
  let (type, text) ← run? isWord text
  let (name, text) ← run? isWord (← blanks? text)
  let text ← token? ['='] text
  let (value, rest) ← run? isWord (trimStart text)
  return (⟨type, name, value⟩, rest)

/-- the first binding on a line that speaks of states -/
def stateBinding? (line : Line) : Option (Binding × Line) :=
  if occurs "State".toList line then search bindingAt none line else none

/-! ## Variables and functions -/

/-- the types a variable may have, each a run of words -/
def primitiveTypes : List (List Line) := [
  ["unsigned", "long"], ["unsigned", "int"], ["uint8_t"], ["uint16_t"], ["uint32_t"], ["int8_t"], ["int16_t"],
  ["int32_t"], ["int"], ["long"], ["bool"], ["boolean"], ["float"], ["double"], ["byte"], ["char*"], ["char"],
  ["String"]].map (·.map String.toList)

/-- the types a function may return -/
def returnTypes : List (List Line) := ["void".toList] :: primitiveTypes

/-- the words that may stand before a type -/
def qualifiers : List Line := ["const", "static", "volatile"].map String.toList

/-- the text after the qualifiers it starts with; the count bounds how many are looked for -/
def afterQualifiers : Nat → Line → Line
  | 0, text => text
  | count + 1, text =>
    match qualifiers.findSome? fun q => (after? q text).bind blanks? with
    | some rest => afterQualifiers count rest
    | none => text

/-- the text after words with blanks between them -/
def afterWords? : List Line → Line → Option Line
  | [], text => some text
  | [word], text => after? word text
  | word :: words, text => do afterWords? words (← blanks? (← after? word text))

/-- the words of a type with single spaces between them -/
def typeName (words : List Line) : Line := join [' '] words

/-- blanks, qualifiers, a type and a name at the start of a line, followed by what else is asked for -/
def declared? {α : Type} (types : List (List Line)) (further : Line → Option (α × Line)) (line : Line) :
    Option ((Line × Line × α) × Line) :=
  let text := afterQualifiers line.length (trimStart line)
  types.findSome? fun words => do
    let (name, rest) ← run? isWord (← blanks? (← afterWords? words text))
    let (more, rest) ← further rest
    return ((typeName words, name, more), rest)

/-- type and name of a declared variable -/
structure VariableHeader where
  type : Line
  name : Line
  deriving DecidableEq, Repr

/-- the variable that a line declares -/
def variableHeader? (line : Line) : Option (VariableHeader × Line) :=
  (declared? primitiveTypes (fun rest => some ((), rest)) line).map fun ((type, name, _), rest) => (⟨type, name⟩, rest)

/-- return type, name and parameters of a function -/
structure FunctionHeader where
  returnType : Line
  name : Line
  parameters : List Line
  deriving DecidableEq, Repr

/-- the text between brackets, up to the first that closes -/
def bracketed? (text : Line) : Option (Line × Line) := do
  let text ← token? ['('] text
  let rest ← after? [')'] (text.dropWhile (· ≠ ')'))
  return (text.takeWhile (· ≠ ')'), rest)

/-- the parameters of a list -/
def parameters (list : Line) : List Line :=
  if trim list = [] then [] else (pieces ',' (trim list)).map trim

/-- the function whose header a line is -/
def function? (line : Line) : Option (FunctionHeader × Line) :=
  (declared? returnTypes bracketed? line).map fun ((type, name, list), rest) => (⟨type, name, parameters list⟩, rest)

/-! ## Rotation -/

/-- the call that sets the rotation, with its digits -/
def rotationAt (before : Option Char) (text : Line) : Option (Line × Line) := do
  if before.any isWord then none
  let text ← after? "setRotation".toList text
  let text ← token? ['('] text
  let (digits, text) ← run? isDigit (trimStart text)
  let rest ← token? [')'] text
  return (digits, rest)

/-- the rotation that a line sets -/
def rotation? (line : Line) : Except TooLong (Option (Int × Line)) :=
  match search rotationAt none line with
  | some (digits, rest) => (readDigits digits).map fun n => some ((n : Int), rest)
  | none => .ok none

end SketchPanel.Sketch
