/-
Sketches that come with the library (`get_sample`, `list_samples`). They are asked for by name, and case does not count.
-/
import SketchPanel.Text.Case

namespace SketchPanel.Samples

/-- lines with a line end between neighbours -/
def ofLines (lines : List String) : String := "\n".intercalate lines

/-- two screens, with the touch tests in a function of their own -/
def basic : String := ofLines [
  "// TFT Display Example",
  "#include <TFT_eSPI.h>",
  "",
  "TFT_eSPI tft = TFT_eSPI();",
  "",
  "enum State \x7b HOME, CONFIG, FIRING, DONE \x7d;",
  "State curState = HOME;",
  "",
  "void setup() \x7b",
  "  tft.init();",
  "  tft.setRotation(1);",
  "\x7d",
  "",
  "void loop() \x7b",
  "  if (curState == HOME) \x7b",
  "    drawHome();",
  "  \x7d else if (curState == CONFIG) \x7b",
  "    drawConfig();",
  "  \x7d",
  "",
  "  handleTouch();",
  "\x7d",
  "",
  "void drawHome() \x7b",
  "  tft.fillScreen(TFT_BLACK);",
  "  tft.setTextColor(TFT_WHITE);",
  "  tft.setFreeFont(&FreeSansBold24pt7b);",
  "  tft.drawString(\"TFT SIMULATOR\", 190, 50);",
  "",
  "  // Green button",
  "  tft.fillSmoothRoundRect(65, 200, 250, 55, 15, TFT_GREEN, TFT_BLACK);",
  "  tft.setTextColor(TFT_BLACK);",
  "  tft.drawString(\"START\", 190, 225);",
  "\x7d",
  "",
  "void drawConfig() \x7b",
  "  tft.fillScreen(TFT_DARKGREY);",
  "  tft.setTextColor(TFT_WHITE);",
  "  tft.drawString(\"Configuration\", 190, 50);",
  "",
  "  // Back button",
  "  tft.fillRect(20, 20, 80, 40, TFT_RED);",
  "  tft.setTextColor(TFT_WHITE);",
  "  tft.drawString(\"BACK\", 60, 35);",
  "\x7d",
  "",
  "void handleTouch() \x7b",
  "  uint16_t x, y;",
  "  if (tft.getTouch(&x, &y)) \x7b",
  "    if (curState == HOME) \x7b",
  "      // Start button: x=65-315, y=200-255",
  "      if (x >= 65 && x <= 315 && y >= 200 && y <= 255) \x7b",
  "        curState = CONFIG;",
  "      \x7d",
  "    \x7d else if (curState == CONFIG) \x7b",
  "      // Back button: x=20-100, y=20-60",
  "      if (x >= 20 && x <= 100 && y >= 20 && y <= 60) \x7b",
  "        curState = HOME;",
  "      \x7d",
  "    \x7d",
  "  \x7d",
  "\x7d",
  ""]

/-- several screens of which one is drawn -/
def advanced : String := ofLines [
  "// Advanced TFT Example with multiple screens",
  "#include <TFT_eSPI.h>",
  "",
  "TFT_eSPI tft = TFT_eSPI();",
  "",
  "enum State \x7b MENU, SETTINGS, DISPLAY_TEST, INFO \x7d;",
  "State currentState = MENU;",
  "",
  "void setup() \x7b",
  "  tft.init();",
  "  tft.setRotation(1);",
  "  tft.fillScreen(TFT_BLACK);",
  "\x7d",
  "",
  "void loop() \x7b",
  "  switch(currentState) \x7b",
  "    case MENU: drawMenu(); break;",
  "    case SETTINGS: drawSettings(); break;",
  "    case DISPLAY_TEST: drawDisplayTest(); break;",
  "    case INFO: drawInfo(); break;",
  "  \x7d",
  "  handleTouch();",
  "\x7d",
  "",
  "void drawMenu() \x7b",
  "  tft.fillScreen(TFT_NAVY);",
  "  tft.setTextColor(TFT_WHITE);",
  "  tft.drawString(\"MAIN MENU\", 190, 30);",
  "",
  "  // Menu buttons",
  "  tft.fillRoundRect(50, 100, 280, 50, 10, TFT_BLUE);",
  "  tft.drawString(\"SETTINGS\", 190, 120);",
  "",
  "  tft.fillRoundRect(50, 170, 280, 50, 10, TFT_GREEN);",
  "  tft.drawString(\"DISPLAY TEST\", 190, 190);",
  "",
  "  tft.fillRoundRect(50, 240, 280, 50, 10, TFT_ORANGE);",
  "  tft.drawString(\"INFO\", 190, 260);",
  "\x7d",
  ""]

/-- touch tests inside the drawing functions, so that every screen has zones of its own -/
def interactive : String := ofLines [
  "// Interactive TFT Example",
  "#include <TFT_eSPI.h>",
  "",
  "TFT_eSPI tft = TFT_eSPI();",
  "",
  "enum State \x7b MENU, SETTINGS, DISPLAY_TEST \x7d;",
  "State currentState = MENU;",
  "",
  "void setup() \x7b",
  "  tft.init();",
  "  tft.setRotation(1);",
  "\x7d",
  "",
  "void loop() \x7b",
  "  switch(currentState) \x7b",
  "    case MENU: drawMenu(); break;",
  "    case SETTINGS: drawSettings(); break;",
  "    case DISPLAY_TEST: drawDisplayTest(); break;",
  "  \x7d",
  "\x7d",
  "",
  "void drawMenu() \x7b",
  "  tft.fillScreen(TFT_NAVY);",
  "  tft.drawString(\"MAIN MENU\", 190, 30);",
  "",
  "  tft.fillRoundRect(50, 100, 280, 50, 10, TFT_BLUE);",
  "  tft.drawString(\"SETTINGS\", 190, 125);",
  "  tft.fillRoundRect(50, 170, 280, 50, 10, TFT_GREEN);",
  "  tft.drawString(\"DISPLAY TEST\", 190, 195);",
  "",
  "  uint16_t x, y;",
  "  if (tft.getTouch(&x, &y)) \x7b",
  "    if (x >= 50 && x <= 330 && y >= 100 && y <= 150) \x7b",
  "      currentState = SETTINGS;",
  "    \x7d",
  "    if (x >= 50 && x <= 330 && y >= 170 && y <= 220) \x7b",
  "      currentState = DISPLAY_TEST;",
  "    \x7d",
  "  \x7d",
  "\x7d",
  "",
  "void drawSettings() \x7b",
  "  tft.fillScreen(TFT_DARKGREY);",
  "  tft.drawString(\"Settings\", 190, 30);",
  "  tft.drawLine(20, 60, 360, 60, TFT_WHITE);",
  "  tft.fillCircle(60, 120, 20, TFT_YELLOW);",
  "",
  "  // Back button",
  "  tft.fillRect(20, 350, 80, 40, TFT_RED);",
  "  tft.drawString(\"BACK\", 60, 370);",
  "  if (x >= 20 && x <= 100 && y >= 350 && y <= 390) \x7b currentState = MENU; \x7d",
  "\x7d",
  "",
  "void drawDisplayTest() \x7b",
  "  tft.fillScreen(TFT_BLACK);",
  "  tft.fillRect(0, 0, 95, 420, TFT_RED);",
  "  tft.fillRect(95, 0, 95, 420, TFT_GREEN);",
  "  tft.fillRect(190, 0, 95, 420, TFT_BLUE);",
  "  tft.fillRect(285, 0, 95, 420, TFT_WHITE);",
  "  tft.drawRect(20, 350, 80, 40, TFT_BLACK);",
  "  if (x >= 20 && x <= 100 && y >= 350 && y <= 390) \x7b currentState = MENU; \x7d",
  "\x7d",
  ""]

/-- the sketches by name -/
def all : List (String × String) := [("basic", basic), ("advanced", advanced), ("interactive", interactive)]

/-- the names in order -/
def names : List String := (all.map (·.1)).mergeSort fun a b => decide (a ≤ b)

/-- the sketch of a name -/
def find? (name : String) : Option String := all.lookup (Text.lower name)

/-- what is said of a name without a sketch -/
def unknown (name : String) : String :=
  "Unknown sample '" ++ name ++ "'. Available: " ++ ", ".intercalate names

end SketchPanel.Samples
