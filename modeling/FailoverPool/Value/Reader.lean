import FailoverPool.Value.Basic
import FailoverPool.Value.Marker

/-!
Reading one packed value from the front of a byte string.

Nesting is bounded by a budget that every value draws on; `Value.decode` starts it at
`Value.depthLimit`.
-/

namespace FailoverPool

inductive ReadFault where
  | noMarker
  | noNumber
  | shortData (expected read : Nat)
  | tooDeep
  deriving DecidableEq, Repr

namespace ReadFault

def text : ReadFault → String
  | .noMarker => "I/O error while reading marker byte: failed to fill whole buffer"
  | .noNumber => "I/O error while reading non-marker bytes: failed to fill whole buffer"
  | .shortData expected read =>
      s!"I/O error while reading non-marker bytes: Expected {expected} bytes, read {read} bytes"
  | .tooDeep => "depth limit exceeded"

end ReadFault

namespace Value

/-- The budget of nesting that reading starts with. -/
def depthLimit : Nat := 1024

def readNumber (width : Nat) (input : Bytes) : Except ReadFault (Nat × Bytes) :=
  let number := input.take width
  if number.length = width then .ok (BigEndian.toNat number, input.drop width)
  else .error .noNumber

/-- Exactly `size` bytes of data; they take one from the budget. -/
def readData (budget size : Nat) (input : Bytes) : Except ReadFault (Bytes × Bytes) :=
  match budget with
  | 0 => .error .tooDeep
  | _ + 1 =>
      let data := input.take size
      if data.length = size then .ok (data, input.drop size)
      else .error (.shortData size data.length)

/-- A text of `size` bytes; it takes two from the budget. -/
def readText (budget size : Nat) (input : Bytes) : Except ReadFault (Value × Bytes) :=
  match budget with
  | 0 => .error .tooDeep
  | budget + 1 => do
      let (data, rest) ← readData budget size input
      return (ofTextBytes data, rest)

/-- The kind and data of an extension; they take two from the budget, the first before the kind
is read. -/
def readExt (budget size : Nat) (input : Bytes) : Except ReadFault (Value × Bytes) :=
  match budget with
  | 0 => .error .tooDeep
  | budget + 1 => do
      let (kind, rest) ← readNumber 1 input
      let (data, rest) ← readData budget size rest
      return (.ext (UInt8.ofNat kind).toInt8 data, rest)

/-- `count` results of one reader, in front of them those already read, latest first. -/
def readMany {Result : Type} (readOne : Bytes → Except ReadFault (Result × Bytes)) :
    (count : Nat) → (reversed : List Result) → (input : Bytes) →
      Except ReadFault (List Result × Bytes)
  | 0, reversed, input => .ok (reversed.reverse, input)
  | count + 1, reversed, input =>
      match readOne input with
      | .error fault => .error fault
      | .ok (result, rest) => readMany readOne count (result :: reversed) rest

def readEntry (readOne : Bytes → Except ReadFault (Value × Bytes)) (input : Bytes) :
    Except ReadFault ((Value × Value) × Bytes) := do
  let (key, rest) ← readOne input
  let (value, rest) ← readOne rest
  return ((key, value), rest)

/-- The integer whose two's complement form of `width` bytes is a number. -/
def signedOf (width number : Nat) : Value :=
  .int (.ofInt64 (Int64.ofInt (Int.bmod number (256 ^ width))))

/-- One value, within a budget of nesting: the value itself takes one, and the items of an array
or the entries of a map take one more among them. -/
def read : (budget : Nat) → Bytes → Except ReadFault (Value × Bytes)
  | 0, _ => .error .tooDeep
  | _ + 1, [] => .error .noMarker
  | budget + 1, first :: input =>
      let readItems (size : Nat) (input : Bytes) : Except ReadFault (Value × Bytes) :=
        match budget with
        | 0 => .error .tooDeep
        | budget + 1 => do
            let (items, rest) ← readMany (read budget) size [] input
            return (.array items, rest)
      let readEntries (size : Nat) (input : Bytes) : Except ReadFault (Value × Bytes) :=
        match budget with
        | 0 => .error .tooDeep
        | budget + 1 => do
            let (entries, rest) ← readMany (readEntry (read budget)) size [] input
            return (.map entries, rest)
      match Marker.ofByte first with
      | .nil | .reserved => .ok (.nil, input)
      | .bool value => .ok (.bool value, input)
      | .smallUnsigned value => .ok (ofUInt64 value.toUInt64, input)
      | .smallNegative value => .ok (signedOf 1 value.toNat, input)
      | .unsigned width => do
          let (number, rest) ← readNumber width input
          return (ofUInt64 (UInt64.ofNat number), rest)
      | .signed width => do
          let (number, rest) ← readNumber width input
          return (signedOf width number, rest)
      | .float32 => do
          let (number, rest) ← readNumber 4 input
          return (.float32 (UInt32.ofNat number), rest)
      | .float64 => do
          let (number, rest) ← readNumber 8 input
          return (.float64 (UInt64.ofNat number), rest)
      | .smallText size => readText budget size.toNat input
      | .text width => do
          let (size, rest) ← readNumber width input
          readText budget size rest
      | .binary width => do
          let (size, rest) ← readNumber width input
          let (data, rest) ← readData budget size rest
          return (.binary data, rest)
      | .smallArray size => readItems size.toNat input
      | .array width => do
          let (size, rest) ← readNumber width input
          readItems size rest
      | .smallMap size => readEntries size.toNat input
      | .map width => do
          let (size, rest) ← readNumber width input
          readEntries size rest
      | .fixedExt size => readExt budget size input
      | .ext width => do
          let (size, rest) ← readNumber width input
          readExt budget size rest

/-- One value from the front of a byte string, and the bytes after it. -/
def decode (input : Bytes) : Except ReadFault (Value × Bytes) := read depthLimit input

end Value

end FailoverPool
