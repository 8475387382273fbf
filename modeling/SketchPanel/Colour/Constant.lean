/-
The colour constants of the panel library (`TFT_COLORS`), in packed form.
-/

namespace SketchPanel.Colour

/-- name and packed value, in the library's order -/
def constants : List (String × Int) := [
  ("TFT_BLACK", 0x0000), ("TFT_WHITE", 0xFFFF), ("TFT_RED", 0xF800), ("TFT_GREEN", 0x07E0),
  ("TFT_BLUE", 0x001F), ("TFT_CYAN", 0x07FF), ("TFT_MAGENTA", 0xF81F), ("TFT_YELLOW", 0xFFE0),
  ("TFT_ORANGE", 0xFD20), ("TFT_DARKGREY", 0x7BEF), ("TFT_DARKGRAY", 0x7BEF), ("TFT_LIGHTGREY", 0xC618),
  ("TFT_LIGHTGRAY", 0xC618), ("TFT_NAVY", 0x000F), ("TFT_DARKGREEN", 0x03E0), ("TFT_DARKCYAN", 0x03EF),
  ("TFT_MAROON", 0x7800), ("TFT_PURPLE", 0x780F), ("TFT_OLIVE", 0x7BE0), ("TFT_PINK", 0xF81F),
  ("TFT_GREENYELLOW", 0xAFE5), ("TFT_BROWN", 0xBC40), ("TFT_GOLD", 0xFEA0), ("TFT_SILVER", 0xC618),
  ("TFT_SKYBLUE", 0x867D), ("TFT_VIOLET", 0x915C)]

/-- the packed value of a constant -/
def constant? (name : String) : Option Int := constants.lookup name

/-- the first constant with a packed value -/
def constantName? (code : Int) : Option String := (constants.find? (·.2 == code)).map (·.1)

end SketchPanel.Colour
