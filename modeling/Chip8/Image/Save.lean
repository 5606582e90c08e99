import Chip8.Files
import Chip8.Image.Render
import Chip8.Text.Case

/-!
# Pictures in files

Which pictures are saved is for the library to say that writes them: a `PictureLibrary`
looks at the path, at the scale and at whether the file could be opened. Nothing else is
known of it but that it needs the file.

`PictureLibrary.byExtension` is one such library. The extension of a file name, in any
case, selects the format. Some extensions belong to formats that are only read, or that
cannot hold a picture of the display; the former are refused before the file is opened,
the latter after it.
-/
namespace Chip8

inductive ImageFormat where
  | png | bmp | dib | tiff | ppm | tga | pcx | sgi | dds | gif | im | qoi | jpeg
  deriving DecidableEq, Repr

namespace ImageFormat

def name : ImageFormat → String
  | .png => "PNG"
  | .bmp => "BMP"
  | .dib => "DIB"
  | .tiff => "TIFF"
  | .ppm => "PPM"
  | .tga => "TGA"
  | .pcx => "PCX"
  | .sgi => "SGI"
  | .dds => "DDS"
  | .gif => "GIF"
  | .im => "IM"
  | .qoi => "QOI"
  | .jpeg => "JPEG"

/-- How pixels are kept: as colours, or as places in a table of colours. -/
def mode : ImageFormat → String
  | .gif => "P"
  | _ => "RGB"

end ImageFormat

/-- Why a picture is refused once its file is open. -/
inductive Refusal where
  /-- The format holds no coloured pictures. -/
  | colours (format : String)
  /-- The format holds only pictures with a table of colours. -/
  | noTable
  /-- Nothing is there to write the format. -/
  | noHandler (format : String)
  deriving DecidableEq, Repr

def Refusal.message : Refusal → String
  | .colours format => "cannot write mode RGB as " ++ format
  | .noTable => "Unsupported BLP image mode"
  | .noHandler format => format ++ " save handler not installed"

/-- What becomes of pictures under an extension. -/
inductive Saving where
  | written (f : ImageFormat)
  | refused (r : Refusal)
  /-- Files of this format are only read. -/
  | readOnly (format : String)
  deriving DecidableEq, Repr

def writtenExtensions : List (String × ImageFormat) := [
  (".png", .png), (".apng", .png),
  (".bmp", .bmp), (".dib", .dib),
  (".tif", .tiff), (".tiff", .tiff),
  (".ppm", .ppm), (".pnm", .ppm), (".pgm", .ppm), (".pbm", .ppm), (".pfm", .ppm),
  (".tga", .tga), (".icb", .tga), (".vda", .tga), (".vst", .tga),
  (".pcx", .pcx),
  (".sgi", .sgi), (".rgb", .sgi), (".rgba", .sgi), (".bw", .sgi),
  (".dds", .dds),
  (".gif", .gif),
  (".im", .im),
  (".qoi", .qoi),
  (".jpg", .jpeg), (".jpeg", .jpeg), (".jpe", .jpeg), (".jfif", .jpeg), (".mpo", .jpeg)]

def refusedExtensions : List (String × Refusal) := [
  (".xbm", .colours "XBM"), (".msp", .colours "MSP"), (".palm", .colours "Palm"),
  (".blp", .noTable),
  (".bufr", .noHandler "BUFR"), (".grib", .noHandler "GRIB"),
  (".h5", .noHandler "HDF5"), (".hdf", .noHandler "HDF5"),
  (".wmf", .noHandler "WMF"), (".emf", .noHandler "WMF")]

def readOnlyExtensions : List (String × String) := [
  (".cur", "CUR"), (".dcx", "DCX"), (".fit", "FITS"), (".fits", "FITS"), (".fli", "FLI"),
  (".flc", "FLI"), (".ftc", "FTEX"), (".ftu", "FTEX"), (".gbr", "GBR"), (".iim", "IPTC"),
  (".mpg", "MPEG"), (".mpeg", "MPEG"), (".pcd", "PCD"), (".pxr", "PIXAR"), (".psd", "PSD"),
  (".ras", "SUN"), (".xpm", "XPM")]

def Saving.ofExtension? (ext : String) : Option Saving :=
  ((writtenExtensions.lookup ext).map Saving.written).or <|
    ((refusedExtensions.lookup ext).map Saving.refused).or <|
      (readOnlyExtensions.lookup ext).map Saving.readOnly

/-- The extension of the last component of a path, with its point. Points at the
front of the component do not begin an extension. -/
def extension (path : String) : String :=
  let base := (path.toList.reverse.takeWhile (· != '/')).reverse
  let stem := base.dropWhile (· == '.')
  if stem.contains '.' then
    "." ++ String.ofList (stem.reverse.takeWhile (· != '.')).reverse
  else ""

inductive SaveError where
  | extension (ext : String)
  | readOnly (format : String)
  | unopened (path : String) (e : PathError)
  | refused (r : Refusal)
  /-- Any other failure, by its text. -/
  | other (text : String)
  deriving DecidableEq, Repr

def SaveError.message : SaveError → String
  | .extension ext => "unknown file extension: " ++ ext
  | .readOnly format => Text.quoted format
  | .unopened path e => e.message path
  | .refused r => r.message
  | .other text => text

/-- A library that enlarges pictures and writes them to files: why it does not save a
picture of the given scale under a path, if it does not. The file was, or would be,
opened with the given result; without it nothing is saved. -/
structure PictureLibrary where
  refusal? : (path : String) → (scale : Int) → (target : Except PathError Unit) → Option SaveError
  refusal?_of_unopened : ∀ path scale e, refusal? path scale (.error e) ≠ none

/-- The format for a file name, or why the open file will be refused. -/
def ImageFormat.ofPath (path : String) : Except SaveError (Except Refusal ImageFormat) :=
  let ext := Text.lower (extension path)
  match Saving.ofExtension? ext with
  | some (.written f) => .ok (.ok f)
  | some (.refused r) => .ok (.error r)
  | some (.readOnly format) => .error (.readOnly format)
  | none => .error (.extension ext)

/-- A library that goes by the extension alone and enlarges to any scale. -/
def PictureLibrary.byExtension : PictureLibrary where
  refusal? path _ target :=
    match ImageFormat.ofPath path, target with
    | .error e, _ => some e
    | .ok _, .error e => some (.unopened path e)
    | .ok (.error r), .ok () => some (.refused r)
    | .ok (.ok _), .ok () => none
  refusal?_of_unopened path _ e := by cases ImageFormat.ofPath path <;> nofun

inductive PictureError where
  | scheme (e : SchemeError)
  | render (e : RenderError)
  | save (e : SaveError)
  deriving DecidableEq, Repr

def PictureError.message : PictureError → String
  | .scheme err => err.message
  | .render err => err.message
  | .save err => err.message

/-- `save_frame`: the picture of a display that is saved under a path. -/
def Display.save (d : Display) (pictures : PictureLibrary) (path : String) (scale : Int)
    (scheme : String) (target : Except PathError Unit) : Except PictureError Image :=
  match Palette.ofName scheme with
  | .error e => .error (.scheme e)
  | .ok p =>
    match render d.grid scale p.lit.spec p.dark.spec with
    | .error e => .error (.render e)
    | .ok image =>
      match pictures.refusal? path scale target with
      | some e => .error (.save e)
      | none => .ok image

end Chip8
