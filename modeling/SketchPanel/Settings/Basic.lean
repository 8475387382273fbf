/-
Settings (`DEFAULT_CONFIG`, `merge_configs`): an object of named values. Settings from a file are laid over the
defaults, object into object, any other value replacing what was there. Nothing asks whether a value is of the right
kind; a setting only has to be there.
-/
import SketchPanel.Json.Basic
import SketchPanel.Sketch.Command
import SketchPanel.Text.Quoted

namespace SketchPanel

/-- settings by name -/
abbrev Settings := Json.Fields

namespace Settings

/-! ## Layers -/

mutual

/-- a value laid over an old one: an object goes into an object, anything else replaces it -/
def overlaid (old : Option Json) : Json → Json
  | .obj fields =>
    match old with
    | some (.obj under) => .obj (merge under fields)
    | _ => .obj fields
  | value => value

/-- settings with others laid over them -/
def merge (under : Settings) : Settings → Settings
  | [] => under
  | (key, value) :: rest => merge (under.put key (overlaid (under.get? key) value)) rest

end

/-- the settings that hold unless others are given; the level of the log comes from outside -/
def defaults (logLevel : String) : Settings := [
  ("display_width", .int 380), ("display_height", .int 420), ("rotation", .int 1), ("debug_mode", .bool false),
  ("draw_function_prefix", .str "draw"), ("api_prefix", .str "tft."), ("required_include", .str "TFT_eSPI.h"),
  ("default_text_color", .str "#ffffff"), ("default_font_size", .int 16), ("default_font", .str "Arial, sans-serif"),
  ("touch_action_window", .int 4), ("log_level", .str logLevel), ("log_file", .null), ("log_json", .bool false)]

/-! ## Use -/

/-- a setting that is not there -/
inductive Fault where
  | missing (key : String)
  deriving DecidableEq, Repr

/-- what is said of it -/
def Fault.message : Fault → String
  | .missing key => Text.quoted key

/-- the word for its kind -/
def Fault.kind : Fault → String
  | .missing _ => "KeyError"

/-- the value of a setting, whatever it is -/
def value (s : Settings) (key : String) : Except Fault Json :=
  match s.get? key with
  | some value => .ok value
  | none => .error (.missing key)

/-- a value given apart from the settings, or else that of a setting -/
def valueOr (s : Settings) (given : Option Json) (key : String) : Except Fault Json :=
  match given with
  | some value => .ok value
  | none => s.value key

/-- what sketches are read with; the size may be given apart from the settings -/
def readingOptions (s : Settings) (width height : Option Json) : Except Fault Sketch.Options :=
  return {
    width := ← s.valueOr width "display_width"
    height := ← s.valueOr height "display_height"
    drawPrefix := ← s.value "draw_function_prefix"
    apiPrefix := ← s.value "api_prefix"
    requiredInclude := ← s.value "required_include"
    textColour := ← s.value "default_text_color"
    fontSize := ← s.value "default_font_size"
    actionWindow := ← s.value "touch_action_window"
    rotation := s.get? "rotation" }

end Settings

end SketchPanel
