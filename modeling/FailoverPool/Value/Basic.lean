import FailoverPool.Text.Utf8

/-!
The dynamic values that requests and responses carry, and the questions the client asks of them.
-/

namespace FailoverPool

/-- An integer that the packed format can carry: 64 bits, signed or unsigned. -/
structure Integer where
  val : Int
  lower : -(2 ^ (63 : Nat)) ≤ val
  upper : val < 2 ^ (64 : Nat)
  deriving DecidableEq

namespace Integer

def ofUInt64 (value : UInt64) : Integer where
  val := value.toNat
  lower := by omega
  upper := by have := value.toNat_lt; omega

def ofInt64 (value : Int64) : Integer where
  val := value.toInt
  lower := value.le_toInt
  upper := by have := value.toInt_lt; omega

instance : Inhabited Integer := ⟨ofUInt64 0⟩

def toUInt64? (integer : Integer) : Option UInt64 :=
  if 0 ≤ integer.val then some (UInt64.ofNat integer.val.toNat) else none

@[simp]
theorem toUInt64?_ofUInt64 (value : UInt64) : (ofUInt64 value).toUInt64? = some value := by
  simp [toUInt64?, ofUInt64]

end Integer

/-- A dynamic value. Floats are kept as their IEEE 754 bits, maps as ordered entries whose keys
may repeat. A text whose bytes are not UTF-8 is kept apart from the readable ones. -/
inductive Value where
  | nil
  | bool (value : Bool)
  | int (value : Integer)
  | float32 (bits : UInt32)
  | float64 (bits : UInt64)
  | text (value : String)
  | malformedText (bytes : Bytes)
  | binary (bytes : Bytes)
  | array (items : List Value)
  | map (entries : List (Value × Value))
  | ext (kind : Int8) (bytes : Bytes)
  deriving Inhabited

namespace Value

def ofUInt64 (value : UInt64) : Value := .int (.ofUInt64 value)

/-- A text as it arrives, readable or not. -/
def ofTextBytes (bytes : Bytes) : Value :=
  match Utf8.decode? bytes with
  | some spelled => .text spelled
  | none => .malformedText bytes

def toUInt64? : Value → Option UInt64
  | .int value => value.toUInt64?
  | _ => none

def text? : Value → Option String
  | .text value => some value
  | _ => none

def array? : Value → Option (List Value)
  | .array items => some items
  | _ => none

def map? : Value → Option (List (Value × Value))
  | .map entries => some entries
  | _ => none

/-- The value under the first entry whose key is the given number. -/
def lookup? (key : UInt64) (entries : List (Value × Value)) : Option Value :=
  (entries.find? fun entry => entry.1.toUInt64? == some key).map (·.2)

mutual

/-- How many containers are nested around the innermost value; an empty container counts one. -/
def depth : Value → Nat
  | .array items => deepestItem 0 items + 1
  | .map entries => deepestEntry 0 entries + 1
  | _ => 0

def deepestItem (seen : Nat) : List Value → Nat
  | [] => seen
  | item :: rest => deepestItem (max seen item.depth) rest

def deepestEntry (seen : Nat) : List (Value × Value) → Nat
  | [] => seen
  | (key, value) :: rest => deepestEntry (max seen (max key.depth value.depth)) rest

end

end Value

end FailoverPool
