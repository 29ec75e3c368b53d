import FailoverPool.Floating.Shortest
import FailoverPool.Text.Quoted
import FailoverPool.Value.Basic

/-!
The text of a value, as messages show it.
-/

namespace FailoverPool

def Bytes.display (bytes : Bytes) : String :=
  "[" ++ String.intercalate ", " (bytes.map fun byte => toString byte.toNat) ++ "]"

namespace Value

mutual

/-- Append the text of a value: texts quoted, data as lists of bytes, containers in brackets with
their items in order. -/
def displayOnto (out : String) : Value → String
  | .nil => out ++ "nil"
  | .bool value => out ++ (if value then "true" else "false")
  | .int value => out ++ toString value.val
  | .float32 bits => out ++ FloatFormat.single.display bits.toNat
  | .float64 bits => out ++ FloatFormat.double.display bits.toNat
  | .text value => out ++ Quoted.encode value
  | .malformedText bytes => out ++ bytes.display
  | .binary bytes => out ++ bytes.display
  | .array items => displayItems (out.push '[') true items
  | .map entries => displayEntries (out.push '\x7b') true entries
  | .ext kind bytes => out ++ "[" ++ toString kind.toInt ++ ", " ++ bytes.display ++ "]"

/-- Append the items, a comma between two, and the closing bracket. -/
def displayItems (out : String) (isFirst : Bool) : List Value → String
  | [] => out.push ']'
  | item :: rest =>
      let separated := if isFirst then out else out ++ ", "
      displayItems (item.displayOnto separated) false rest

/-- Append each key and value, a comma between two entries, and the closing brace. -/
def displayEntries (out : String) (isFirst : Bool) : List (Value × Value) → String
  | [] => out.push '\x7d'
  | (key, value) :: rest =>
      let separated := if isFirst then out else out ++ ", "
      displayEntries (value.displayOnto (key.displayOnto separated ++ ": ")) false rest

end

def display (value : Value) : String := value.displayOnto ""

end Value

end FailoverPool
