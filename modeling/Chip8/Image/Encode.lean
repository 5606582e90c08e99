import Chip8.Image.Bitmap
import Chip8.Image.NetworkGraphic
import Chip8.Image.Packed
import Chip8.Image.Photograph
import Chip8.Image.Plain
import Chip8.Image.Save

/-!
# The bytes of a picture

What a file of each format holds, and which picture it shows. All formats but
photographs keep the colour of every pixel.
-/
namespace Chip8

def ImageFormat.encode (f : ImageFormat) (i : Image) : List UInt8 :=
  match f with
  | .png => NetworkGraphic.encode i
  | .bmp => Bitmap.encode i
  | .dib => Bitmap.deviceIndependent i
  | .tiff => Tagged.encode i
  | .ppm => Pixmap.encode i
  | .tga => Targa.encode i
  | .pcx => Paintbrush.encode i
  | .sgi => Workstation.encode i
  | .dds => Surface.encode i
  | .gif => Interchange.encode i
  | .im => Labelled.encode i
  | .qoi => QuiteOk.encode i
  | .jpeg => Photograph.encode i

/-- The picture that a file of a format shows. -/
def ImageFormat.kept (f : ImageFormat) (i : Image) : Image :=
  match f with
  | .jpeg => Photograph.kept i
  | _ => i

end Chip8
