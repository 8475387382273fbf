/-
What can go wrong while drawing: numbers, colours and radii that are refused, and what the image library refuses.
-/
import SketchPanel.Colour.Styled
import SketchPanel.Imaging.Image
import SketchPanel.Log.Record

namespace SketchPanel

open Number Imaging

namespace Surface

/-! ## Faults -/

/-- reasons why a drawing step stops -/
inductive Fault where
  | number (fault : Scalar.Fault)
  | negativeRadius (radius : Scalar)
  | specifier (fault : SpecifierFault)
  /-- the image library refuses -/
  | imaging (fault : Imaging.Fault)
  /-- a value from the settings that is of no use here -/
  | mismatch (fault : Json.Mismatch)
  /-- a dash pattern that does not get to the end of an edge -/
  | endless

/-- the word for the kind of a fault -/
def Fault.kind : Fault → String
  | .number fault => fault.kind
  | .specifier (.number fault) => fault.kind
  | .imaging fault => fault.kind
  | .mismatch fault => fault.kind
  | .endless => "RuntimeError"
  | .negativeRadius _ | .specifier _ => "ValueError"

/-- what is said of a fault -/
def Fault.message : Fault → String
  | .number fault => fault.message
  | .negativeRadius radius => "Negative arc radius: " ++ radius.text
  | .specifier fault => fault.message
  | .imaging fault => fault.message
  | .mismatch fault => fault.message
  | .endless => "dash pattern never ends"

/-- the fault as a log shows it -/
def Fault.failure (fault : Fault) : Log.Failure := ⟨fault.kind, fault.message⟩

/-- arithmetic as part of drawing -/
def reckon {α : Type} (x : Except Scalar.Fault α) : Except Fault α := x.mapError .number

/-! ## Paints -/

/-- a paint as a text, with blanks at its ends perhaps; nothing else can be read as a colour -/
def paintText (paint : Json) : Except Fault String :=
  match paint with
  | .str text => .ok text
  | other => .error (.mismatch (.notText other.kind "strip"))

/-- the ink of a paint -/
def inkOf (paint : Json) : Except Fault Rgba := do (Colour.toRgba (← paintText paint)).mapError .specifier

end Surface

end SketchPanel
