/-
The outline of a sketch (`ParsedDisplay`, `Screen`): its screens, states, variables, functions and includes, what was
found wrong with it, and the geometry it was read against.
-/
import SketchPanel.Scene.Element
import SketchPanel.Scene.Zone
import SketchPanel.Colour.Rgb

namespace SketchPanel

namespace Scene

/-- a way from one screen to another -/
structure Transition where
  source : String
  target : String
  trigger : String
  condition : Option String := none
  action : Option String := none
  deriving DecidableEq, Repr

/-- where a state comes from -/
inductive StateKind where
  | enumeration
  | variable
  | constant
  deriving DecidableEq, Repr

/-- a named state -/
structure State where
  name : String
  value : String
  kind : StateKind
  screens : List String := []
  deriving DecidableEq, Repr

/-- a declared variable -/
structure Variable where
  name : String
  type : String
  line : Int
  value : Json := .null
  scope : String := "global"

/-- the header of a function -/
structure Function where
  name : String
  returnType : String
  parameters : List String
  line : Int
  deriving DecidableEq, Repr

/-- how much a finding matters -/
inductive Severity where
  | error
  | warning
  | info
  deriving DecidableEq, Repr

/-- something found wrong, on a line counted from one, or on no line in particular -/
structure Diagnostic where
  message : String
  line : Int := 0
  column : Int := 0
  severity : Severity := .error
  deriving DecidableEq, Repr

/-- the geometry that a sketch was read against -/
structure Geometry where
  rotation : Json
  width : Json
  height : Json

end Scene

open Scene

/-- one frame of the panel -/
structure Screen where
  id : String
  name : String
  elements : List Element := []
  zones : List Zone := []
  background : String := Colour.black
  transitions : List Transition := []

/-- what a sketch turned out to hold -/
structure Outline where
  screens : List Screen := []
  states : List State := []
  declarations : List Variable := []
  functions : List Function := []
  includes : List String := []
  diagnostics : List Diagnostic := []
  geometry : Option Geometry := none

namespace Scene

/-- the word for the origin of a state -/
def StateKind.word : StateKind → String
  | .enumeration => "enum"
  | .variable => "variable"
  | .constant => "constant"

/-- the word for a severity -/
def Severity.word : Severity → String
  | .error => "error"
  | .warning => "warning"
  | .info => "info"

/-- the origin that a value is the word for -/
def StateKind.named : Json → Except NoWord StateKind :=
  member "StateType" StateKind.word [.enumeration, .variable, .constant]

/-- the severity that a value is the word for -/
def Severity.named : Json → Except NoWord Severity := member "Severity" Severity.word [.error, .warning, .info]

def Transition.toJson (t : Transition) : Json := .obj [
  ("source", .str t.source), ("target", .str t.target), ("trigger", .str t.trigger),
  ("condition", .ofOption (t.condition.map .str)), ("action", .ofOption (t.action.map .str))]

def State.toJson (s : State) : Json := .obj [
  ("name", .str s.name), ("value", .str s.value), ("type", .str s.kind.word), ("screens", .arr (s.screens.map .str))]

def Variable.toJson (v : Variable) : Json := .obj [
  ("name", .str v.name), ("type", .str v.type), ("value", v.value), ("scope", .str v.scope), ("line", .int v.line)]

def Function.toJson (f : Function) : Json := .obj [
  ("name", .str f.name), ("returnType", .str f.returnType), ("parameters", .arr (f.parameters.map .str)),
  ("line", .int f.line)]

def Diagnostic.toJson (d : Diagnostic) : Json := .obj [
  ("message", .str d.message), ("line", .int d.line), ("column", .int d.column), ("severity", .str d.severity.word)]

def Geometry.toJson (g : Geometry) : Json := .obj [
  ("rotation", g.rotation), ("width", g.width), ("height", g.height)]

end Scene

/-- the screen in a document -/
def Screen.toJson (s : Screen) : Json := .obj [
  ("id", .str s.id), ("name", .str s.name), ("backgroundColor", .str s.background),
  ("elements", .arr (s.elements.map Element.toJson)), ("touchZones", .arr (s.zones.map Zone.toJson)),
  ("transitions", .arr (s.transitions.map Transition.toJson))]

namespace Outline

/-- whether something is wrong enough to count as an error -/
def hasErrors (o : Outline) : Bool := o.diagnostics.any (·.severity == .error)

/-- whether there is a screen to show and no error -/
def isRenderable (o : Outline) : Bool := !o.hasErrors && !o.screens.isEmpty

/-- the findings that are warnings -/
def warnings (o : Outline) : List Diagnostic := o.diagnostics.filter (·.severity == .warning)

/-- the first screen with an id -/
def screen? (o : Outline) (id : String) : Option Screen := o.screens.find? (·.id == id)

/-- the fields of the outline in a document -/
def fields (o : Outline) : Json.Fields := [
  ("screens", .arr (o.screens.map Screen.toJson)), ("states", .arr (o.states.map State.toJson)),
  ("variables", .arr (o.declarations.map Variable.toJson)), ("functions", .arr (o.functions.map Function.toJson)),
  ("includes", .arr (o.includes.map .str)), ("errors", .arr (o.diagnostics.map Diagnostic.toJson)),
  ("displayConfig", .ofOption (o.geometry.map Geometry.toJson))]

/-- the outline as a document -/
def toJson (o : Outline) : Json := .obj o.fields

end Outline

end SketchPanel
