import Chip8.Image.Bytes
import Chip8.Image.Pieces

/-!
# Portable network graphics

A portable network graphic has its rows from the top, each behind a filter byte,
in stored blocks inside a checked stream inside checked chunks. Nothing is
compressed.
-/
namespace Chip8
namespace NetworkGraphic

/-- A number of steps of the cyclic redundancy check. -/
def crcStep : Nat → UInt32 → UInt32
  | 0, c => c
  | n + 1, c => crcStep n (if c &&& 1 = 1 then (0xEDB88320 : UInt32) ^^^ (c >>> 1) else c >>> 1)

def crc (bytes : List UInt8) : UInt32 :=
  bytes.foldl (fun c b => crcStep 8 (c ^^^ b.toUInt32)) 0xFFFFFFFF ^^^ 0xFFFFFFFF

/-- The two running sums that check a stream. -/
def adler (bytes : List UInt8) : Nat :=
  let (a, b) := bytes.foldl (fun (a, b) x =>
    let a' := (a + x.toNat) % 65521
    (a', (b + a') % 65521)) (1, 0)
  65536 * b + a

/-- A chunk of a file: its length, its kind, its content and their check. -/
def chunk (kind : String) (content : List UInt8) : List UInt8 :=
  let body := asciiBytes kind ++ content
  networkOrder 4 content.length ++ body ++ networkOrder 4 (crc body).toNat

/-- One stored block of a stream. -/
def storedBlock (last : Bool) (content : List UInt8) : List UInt8 :=
  last.toUInt8 :: littleEndian 2 content.length ++ littleEndian 2 (65535 - content.length) ++
    content

/-- Stored blocks of at most 65535 bytes each; an empty one is the last. -/
def storedBlocks (content : List UInt8) : List UInt8 :=
  (pieces 65535 content).flatMap (storedBlock false) ++ storedBlock true []

/-- A stream of stored blocks with its check. -/
def stream (content : List UInt8) : List UInt8 :=
  [0x78, 0x01] ++ storedBlocks content ++ networkOrder 4 (adler content)

/-- The bytes of a picture as a portable network graphic. -/
def encode (i : Image) : List UInt8 :=
  let body := i.rows.flatMap fun r => 0 :: r.flatMap Colour.forward
  [0x89, 0x50, 0x4E, 0x47, 0x0D, 0x0A, 0x1A, 0x0A] ++
    chunk "IHDR" (networkOrder 4 i.width ++ networkOrder 4 i.height ++ [8, 2, 0, 0, 0]) ++
    chunk "IDAT" (stream body) ++ chunk "IEND" []

end NetworkGraphic
end Chip8
