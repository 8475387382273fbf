/-
Title case, the form a letter takes at the start of a capitalised word. It is the upper case except for the
letters listed here.
-/
import SketchPanel.Text.Case.Upper

namespace SketchPanel.Text.Case

/-- where letters that keep their own form at the start of a word lie -/
def titleKept : Ranges := [
  (453, 453), (456, 456), (459, 459), (498, 498), (4304, 4346), (4349, 4351), (8072, 8079), (8088, 8095),
  (8104, 8111), (8124, 8124), (8140, 8140), (8188, 8188)]

/-- letters whose form at the start of a word is neither their own nor their upper case -/
def titleWide : List (Nat × List Nat) := [
  (223, [83, 115]), (452, [453]), (454, [453]), (455, [456]), (457, [456]), (458, [459]), (460, [459]),
  (497, [498]), (499, [498]), (1415, [1333, 1410]), (8064, [8072]), (8065, [8073]), (8066, [8074]),
  (8067, [8075]), (8068, [8076]), (8069, [8077]), (8070, [8078]), (8071, [8079]), (8080, [8088]),
  (8081, [8089]), (8082, [8090]), (8083, [8091]), (8084, [8092]), (8085, [8093]), (8086, [8094]),
  (8087, [8095]), (8096, [8104]), (8097, [8105]), (8098, [8106]), (8099, [8107]), (8100, [8108]),
  (8101, [8109]), (8102, [8110]), (8103, [8111]), (8114, [8122, 837]), (8115, [8124]), (8116, [902, 837]),
  (8119, [913, 834, 837]), (8130, [8138, 837]), (8131, [8140]), (8132, [905, 837]), (8135, [919, 834, 837]),
  (8178, [8186, 837]), (8179, [8188]), (8180, [911, 837]), (8183, [937, 834, 837]), (64256, [70, 102]),
  (64257, [70, 105]), (64258, [70, 108]), (64259, [70, 102, 105]), (64260, [70, 102, 108]), (64261, [83, 116]),
  (64262, [83, 116]), (64275, [1348, 1398]), (64276, [1348, 1381]), (64277, [1348, 1387]),
  (64278, [1358, 1398]), (64279, [1348, 1389])]

/-- the form of one character at the start of a capitalised word -/
def titleChar (c : Char) : List Char :=
  if titleKept.has c then [c]
  else match titleWide.lookup c.toNat with
    | some codes => codes.map Char.ofNat
    | none => upperChar c

end SketchPanel.Text.Case
