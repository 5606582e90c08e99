import Chip8.Text.Padded
import Chip8.Text.Printable

/-!
# Quoted text

Error messages quote the text they complain about. The quotes are single ones,
unless the text has a single quote and no double quote. Inside, the backslash,
the quote itself and the characters that are not printable are escaped.
-/
namespace Chip8
namespace Text

/-- The apostrophe, which quotes a text unless the text has one itself. -/
def apostrophe : Char := Char.ofNat 0x27

/-- The quotation mark, which quotes a text that has an apostrophe. -/
def quotationMark : Char := Char.ofNat 0x22

def backslash : Char := Char.ofNat 0x5C

/-- The escape of a character that is not printable, by its code point. -/
def escapeCode (n : Nat) : String :=
  let digits := String.ofList (Nat.toDigits 16 n)
  if n < 0x100 then "\\x" ++ padLeft 2 '0' digits
  else if n < 0x10000 then "\\u" ++ padLeft 4 '0' digits
  else "\\U" ++ padLeft 8 '0' digits

/-- A character as it stands between quotes. -/
def escape (quote c : Char) : String :=
  if c = quote ∨ c = backslash then String.ofList [backslash, c]
  else if c = '\t' then "\\t"
  else if c = '\n' then "\\n"
  else if c = '\r' then "\\r"
  else if isPrintable c then String.singleton c
  else escapeCode c.toNat

def quoted (s : String) : String :=
  let quote :=
    if s.toList.contains apostrophe && !s.toList.contains quotationMark then quotationMark
    else apostrophe
  String.singleton quote ++ String.join (s.toList.map (escape quote)) ++ String.singleton quote

end Text
end Chip8
