/-
Structured values: null, truth values, whole and floating numbers, texts, lists and objects. The fields of an object
keep their order; putting a field that is there replaces its value where it stands.
-/

namespace SketchPanel

/-- a structured value -/
inductive Json where
  | null
  | bool (b : Bool)
  | int (n : Int)
  | real (x : Float)
  | str (s : String)
  | arr (items : List Json)
  | obj (fields : List (String × Json))
  deriving Inhabited

namespace Json

instance : Coe Bool Json := ⟨.bool⟩
instance : Coe Int Json := ⟨.int⟩
instance : Coe String Json := ⟨.str⟩

/-- the fields of an object in their order -/
abbrev Fields := List (String × Json)

namespace Fields

/-- the value under a key -/
def get? (fields : Fields) (key : String) : Option Json := fields.lookup key

/-- the fields with a value under a key, in its old place or else last -/
def put (key : String) (value : Json) : Fields → Fields
  | [] => [(key, value)]
  | (k, v) :: rest => if k = key then (k, value) :: rest else (k, v) :: put key value rest

/-- the fields of pairs read one after another -/
def ofPairs (pairs : List (String × Json)) : Fields :=
  pairs.foldl (fun fields pair => put pair.1 pair.2 fields) []

end Fields

/-- the fields of an object, none of any other value -/
def fields? : Json → Option Fields
  | .obj fields => some fields
  | _ => none

/-- a value if there is one, else null -/
def ofOption (value : Option Json) : Json := value.getD .null

end Json

end SketchPanel
