import Chip8.Image.Bytes

/-!
# Bitmaps

A bitmap has its rows from the bottom, blue before green before red, each row
filled up to a multiple of four bytes. The device-independent form has no file
header in front.
-/
namespace Chip8
namespace Bitmap

/-- The bytes of a row, filled up to a multiple of four. -/
def row (pixels : List Colour) : List UInt8 :=
  pixels.flatMap Colour.backward ++ zeroBytes ((4 - 3 * pixels.length % 4) % 4)

def body (i : Image) : List UInt8 := i.rows.reverse.flatMap row

/-- The picture with the header that describes it. -/
def deviceIndependent (i : Image) : List UInt8 :=
  let content := body i
  littleEndian 4 40 ++ littleEndian 4 i.width ++ littleEndian 4 i.height ++
    littleEndian 2 1 ++ littleEndian 2 24 ++ littleEndian 4 0 ++ littleEndian 4 content.length ++
    littleEndian 4 3780 ++ littleEndian 4 3780 ++ zeroBytes 8 ++ content

/-- The picture as a file: behind its length and the place where the rows begin. -/
def encode (i : Image) : List UInt8 :=
  let content := deviceIndependent i
  asciiBytes "BM" ++ littleEndian 4 (14 + content.length) ++ zeroBytes 4 ++ littleEndian 4 54 ++
    content

end Bitmap
end Chip8
