/-
Forms of image files (`Image.save`), by the ending of a path. Some forms are only known for reading, and some turn out
to hold no image of three channels once the file is open.
-/
import SketchPanel.Text.Quoted

namespace SketchPanel.Imaging

open Text

/-- endings of images that can be written -/
def imageEndings : List (List Char) := [
  ".apng", ".avif", ".avifs", ".bmp", ".bw", ".dds", ".dib", ".eps", ".gif", ".icb", ".icns", ".ico", ".im", ".j2c",
  ".j2k", ".jfif", ".jp2", ".jpc", ".jpe", ".jpeg", ".jpf", ".jpg", ".jpx", ".mpo", ".pbm", ".pcx", ".pdf", ".pfm",
  ".pgm", ".png", ".pnm", ".ppm", ".ps", ".qoi", ".rgb", ".rgba", ".sgi", ".tga", ".tif", ".tiff", ".vda", ".vst",
  ".webp"].map String.toList

/-- endings of forms that are only known for reading -/
def readOnlyEndings : List (String × String) := [
  (".cur", "CUR"), (".dcx", "DCX"), (".fit", "FITS"), (".fits", "FITS"), (".flc", "FLI"), (".fli", "FLI"),
  (".ftc", "FTEX"), (".ftu", "FTEX"), (".gbr", "GBR"), (".iim", "IPTC"), (".mpeg", "MPEG"), (".mpg", "MPEG"),
  (".pcd", "PCD"), (".psd", "PSD"), (".pxr", "PIXAR"), (".ras", "SUN"), (".xpm", "XPM")]

/-- endings of forms that hold images with fewer channels -/
def narrowEndings : List (String × String) := [(".msp", "MSP"), (".palm", "Palm"), (".xbm", "XBM")]

/-- endings of forms that only something from outside could write -/
def foreignEndings : List (String × String) := [
  (".bufr", "BUFR"), (".emf", "WMF"), (".grib", "GRIB"), (".h5", "HDF5"), (".hdf", "HDF5"), (".wmf", "WMF")]

/-- the ending of a form that holds images with a palette -/
def paletteEnding : String := ".blp"

/-- reasons why an image is not saved in a form -/
inductive FormFault where
  | unknownEnding (ending : String)
  | readOnly (form : String)
  | narrow (form : String)
  | foreign (form : String)
  | palette
  deriving DecidableEq, Repr

/-- the word for the kind of such a reason -/
def FormFault.kind : FormFault → String
  | .unknownEnding _ | .palette => "ValueError"
  | .readOnly _ => "KeyError"
  | .narrow _ | .foreign _ => "OSError"

/-- what is said of an image that is not saved in a form -/
def FormFault.message : FormFault → String
  | .unknownEnding ending => "unknown file extension: " ++ ending
  | .readOnly form => quoted form
  | .narrow form => "cannot write mode RGB as " ++ form
  | .foreign form => form ++ " save handler not installed"
  | .palette => "Unsupported BLP image mode"

/-- whether it only turns out once the file is open -/
def FormFault.isLate : FormFault → Bool
  | .narrow _ | .foreign _ | .palette => true
  | _ => false

/-- what keeps an image from being saved with an ending -/
def formFault? (ending : String) : Option FormFault :=
  if imageEndings.contains ending.toList then none
  else if ending = paletteEnding then some .palette
  else ((readOnlyEndings.lookup ending).map .readOnly).orElse fun _ =>
    ((narrowEndings.lookup ending).map .narrow).orElse fun _ =>
    some (((foreignEndings.lookup ending).map .foreign).getD (.unknownEnding ending))

end SketchPanel.Imaging
