import Chip8.Number.Text
import Chip8.Text.Quoted

/-!
# Values in reports

A report lists named values: settings of a session, its statistics, options of
a progress bar. A text on its own is shown as it is; inside a list or a map it is
quoted.
-/
namespace Chip8

/-- A value that a report can show. -/
inductive Value where
  | none
  | bool (b : Bool)
  | int (n : Int)
  | real (x : Binary64)
  | text (s : String)
  | list (items : List Value)
  | map (entries : List (String × Value))

namespace Value

mutual

/-- A value as it stands inside a list or a map. -/
def inner : Value → String
  | .none => "None"
  | .bool b => if b then "True" else "False"
  | .int n => toString n
  | .real x => x.text
  | .text s => Text.quoted s
  | .list items => "[" ++ String.intercalate ", " (innerItems items) ++ "]"
  | .map entries => "\x7b" ++ String.intercalate ", " (innerEntries entries) ++ "\x7d"

def innerItems : List Value → List String
  | [] => []
  | v :: rest => inner v :: innerItems rest

def innerEntries : List (String × Value) → List String
  | [] => []
  | (key, v) :: rest => (Text.quoted key ++ ": " ++ inner v) :: innerEntries rest

end

/-- A value on its own. -/
def toText : Value → String
  | .text s => s
  | v => v.inner

end Value
end Chip8
