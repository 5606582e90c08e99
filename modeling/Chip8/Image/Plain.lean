import Chip8.Image.Bytes

/-!
# Pictures behind one header

Formats in which a header of a few fields stands before the pixels as they are:
the portable pixmap, the tagged picture, the Targa picture, the surface, the
workstation's picture, which keeps its three colour parts apart, and the labelled
picture, which keeps them apart in every row.
-/
namespace Chip8

namespace Pixmap

/-- A header in words, then the rows from the top. -/
def encode (i : Image) : List UInt8 :=
  asciiBytes s!"P6\n{i.width} {i.height}\n255\n" ++ i.rows.flatMap (·.flatMap Colour.forward)

end Pixmap

namespace Tagged

/-- A directory entry with a number of two bytes. -/
def short (tag n : Nat) : List UInt8 :=
  littleEndian 2 tag ++ littleEndian 2 3 ++ littleEndian 4 1 ++ littleEndian 4 n

/-- A directory entry with a number of four bytes. -/
def long (tag n : Nat) : List UInt8 :=
  littleEndian 2 tag ++ littleEndian 2 4 ++ littleEndian 4 1 ++ littleEndian 4 n

/-- A directory of ten entries, the bits of the three colour parts, and the rows
from the top as one strip. -/
def encode (i : Image) : List UInt8 :=
  let content := i.rows.flatMap (·.flatMap Colour.forward)
  asciiBytes "II" ++ littleEndian 2 42 ++ littleEndian 4 8 ++ littleEndian 2 10 ++
    short 256 i.width ++ short 257 i.height ++
    littleEndian 2 258 ++ littleEndian 2 3 ++ littleEndian 4 3 ++ littleEndian 4 134 ++
    short 259 1 ++ short 262 2 ++ long 273 140 ++ short 277 3 ++ short 278 i.height ++
    long 279 content.length ++ short 284 1 ++ zeroBytes 4 ++
    littleEndian 2 8 ++ littleEndian 2 8 ++ littleEndian 2 8 ++ content

end Tagged

namespace Targa

/-- The rows from the bottom between a header and a signature. -/
def encode (i : Image) : List UInt8 :=
  [0, 0, 2] ++ zeroBytes 9 ++ littleEndian 2 i.width ++ littleEndian 2 i.height ++ [24, 0] ++
    i.rows.reverse.flatMap (·.flatMap Colour.backward) ++
    zeroBytes 8 ++ asciiBytes "TRUEVISION-XFILE." ++ [0]

end Targa

namespace Surface

/-- The rows from the top behind a header of 128 bytes. -/
def encode (i : Image) : List UInt8 :=
  asciiBytes "DDS " ++ littleEndian 4 124 ++ littleEndian 4 0x100F ++ littleEndian 4 i.height ++
    littleEndian 4 i.width ++ littleEndian 4 (3 * i.width) ++ zeroBytes 52 ++
    littleEndian 4 32 ++ littleEndian 4 0x40 ++ zeroBytes 4 ++ littleEndian 4 24 ++
    littleEndian 4 0xFF0000 ++ littleEndian 4 0xFF00 ++ littleEndian 4 0xFF ++ zeroBytes 4 ++
    littleEndian 4 0x1000 ++ zeroBytes 16 ++ i.rows.flatMap (·.flatMap Colour.backward)

end Surface

namespace Workstation

/-- One part of every colour, the rows from the bottom. -/
def plane (i : Image) (part : Colour → UInt8) : List UInt8 := i.rows.reverse.flatMap (·.map part)

/-- The three planes behind a header of 512 bytes. -/
def encode (i : Image) : List UInt8 :=
  networkOrder 2 474 ++ [0, 1] ++ networkOrder 2 3 ++ networkOrder 2 i.width ++
    networkOrder 2 i.height ++ networkOrder 2 3 ++ networkOrder 4 0 ++ networkOrder 4 255 ++
    zeroBytes 492 ++ plane i Colour.red ++ plane i Colour.green ++ plane i Colour.blue

end Workstation

namespace Labelled

/-- A row with its three colour parts apart. -/
def row (pixels : List Colour) : List UInt8 :=
  pixels.map Colour.red ++ pixels.map Colour.green ++ pixels.map Colour.blue

/-- A header of 512 bytes in words, then the rows from the bottom. -/
def encode (i : Image) : List UInt8 :=
  let label := asciiBytes (s!"Image type: RGB image\r\nName: display\r\n" ++
    s!"Image size (x*y): {i.width}*{i.height}\r\nFile size (no of images): 1\r\n")
  label ++ zeroBytes (511 - label.length) ++ [0x1A] ++ i.rows.reverse.flatMap row

end Labelled
end Chip8
