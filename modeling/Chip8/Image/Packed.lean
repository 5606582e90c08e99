import Chip8.Image.Bytes
import Chip8.Image.Pieces

/-!
# Pictures with packed rows

Formats that do not keep pixels as they are. A paintbrush picture and a quite OK
picture count equal neighbours. An interchange picture has a table of up to 256 colours and codes of
nine bits that name them; its reader starts afresh often enough that the codes
never grow.
-/
namespace Chip8

/-- Puts an item before runs of equal items; a run has at most 63. -/
def addRun {α : Type} [DecidableEq α] (a : α) : List (Nat × α) → List (Nat × α)
  | (n, b) :: rest => if a = b ∧ n < 63 then (n + 1, b) :: rest else (1, a) :: (n, b) :: rest
  | [] => [(1, a)]

/-- The runs of equal items, each of at most 63. -/
def equalRuns {α : Type} [DecidableEq α] (items : List α) : List (Nat × α) :=
  items.foldr addRun []

namespace Paintbrush

/-- A run: a byte on its own if it cannot be taken for a count, else behind its
count. -/
def run (r : Nat × UInt8) : List UInt8 :=
  if r.1 = 1 ∧ r.2 < 0xC0 then [r.2] else [0xC0 ||| UInt8.ofNat r.1, r.2]

/-- The runs of a plane of a row, which has an even number of bytes. -/
def pack (bytes : List UInt8) : List UInt8 :=
  (equalRuns (bytes ++ zeroBytes (bytes.length % 2))).flatMap run

def row (pixels : List Colour) : List UInt8 :=
  pack (pixels.map Colour.red) ++ pack (pixels.map Colour.green) ++ pack (pixels.map Colour.blue)

/-- The rows from the top behind a header of 128 bytes. -/
def encode (i : Image) : List UInt8 :=
  [10, 5, 1, 8] ++ zeroBytes 4 ++ littleEndian 2 (i.width - 1) ++ littleEndian 2 (i.height - 1) ++
    littleEndian 2 100 ++ littleEndian 2 100 ++ zeroBytes 24 ++ List.replicate 24 0xFF ++ [0, 3] ++
    littleEndian 2 (i.width + i.width % 2) ++ littleEndian 2 1 ++ littleEndian 2 i.width ++
    littleEndian 2 i.height ++ zeroBytes 54 ++ i.rows.flatMap row

end Paintbrush

namespace QuiteOk

/-- A run: its colour, and how often the colour comes again. -/
def run (r : Nat × Colour) : List UInt8 :=
  0xFE :: r.2.forward ++ if r.1 = 1 then [] else [0xC0 ||| UInt8.ofNat (r.1 - 2)]

/-- The runs of all pixels from the top, between a header and a mark of the end. -/
def encode (i : Image) : List UInt8 :=
  asciiBytes "qoif" ++ networkOrder 4 i.width ++ networkOrder 4 i.height ++ [3, 1] ++
    (equalRuns i.rows.flatten).flatMap run ++ zeroBytes 7 ++ [1]

end QuiteOk

namespace Interchange

def table (i : Image) : List Colour := (i.rows.flatMap List.eraseDups).eraseDups

/-- The codes of a list of places in the table: the start code comes first and
again after every 128 places. -/
def codes (places : List Nat) : List Nat := (pieces 128 places).flatMap (256 :: ·) ++ [257]

/-- The bits of codes of nine bits, the lowest first. -/
def bits (cs : List Nat) : List Bool := cs.flatMap fun c => (List.range 9).map c.testBit

/-- Bits as bytes, the lowest first. -/
def bytes (bs : List Bool) : List UInt8 :=
  (pieces 8 bs).map fun eight => eight.foldr (fun x n => 2 * n + x.toUInt8) 0

/-- Blocks of at most 255 bytes behind their lengths, then an empty one. -/
def blocks (content : List UInt8) : List UInt8 :=
  (pieces 255 content).flatMap (fun block => UInt8.ofNat block.length :: block) ++ [0]

/-- The table of 256 colours and the rows from the top. -/
def encode (i : Image) : List UInt8 :=
  let colours := table i
  let place := fun (c : Colour) => colours.idxOf c
  asciiBytes "GIF87a" ++ littleEndian 2 i.width ++ littleEndian 2 i.height ++ [0xF7, 0, 0] ++
    colours.flatMap Colour.forward ++ zeroBytes (768 - 3 * colours.length) ++
    [0x2C] ++ zeroBytes 4 ++ littleEndian 2 i.width ++ littleEndian 2 i.height ++ [0, 8] ++
    blocks (bytes (bits (codes (i.rows.flatMap (·.map place))))) ++ [0x3B]

end Interchange
end Chip8
