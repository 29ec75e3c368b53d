import FailoverPool.Bytes

/-!
The first byte of a packed value: which family of value follows, and how its length or number
is laid out; and the packed numbers themselves.

`Marker.ofByte` reads every byte; 0xc1, which the format leaves unused, is `reserved`.
-/

namespace FailoverPool

/-- What the first byte of a packed value announces. A `width` counts the big-endian bytes of the
number or length that follow the marker; a size that fits the marker is carried by it. -/
inductive Marker where
  | smallUnsigned (value : UInt8)
  | smallNegative (value : UInt8)
  | nil
  | reserved
  | bool (value : Bool)
  | unsigned (width : Nat)
  | signed (width : Nat)
  | float32
  | float64
  | smallText (size : UInt8)
  | text (width : Nat)
  | binary (width : Nat)
  | smallArray (size : UInt8)
  | array (width : Nat)
  | smallMap (size : UInt8)
  | map (width : Nat)
  | fixedExt (size : Nat)
  | ext (width : Nat)
  deriving DecidableEq, Repr

namespace Marker

def ofByte (byte : UInt8) : Marker :=
  if byte < 0x80 then .smallUnsigned byte
  else if byte < 0x90 then .smallMap (byte - 0x80)
  else if byte < 0xa0 then .smallArray (byte - 0x90)
  else if byte < 0xc0 then .smallText (byte - 0xa0)
  else if byte ≥ 0xe0 then .smallNegative byte
  else match byte with
    | 0xc0 => .nil
    | 0xc2 => .bool false
    | 0xc3 => .bool true
    | 0xc4 => .binary 1
    | 0xc5 => .binary 2
    | 0xc6 => .binary 4
    | 0xc7 => .ext 1
    | 0xc8 => .ext 2
    | 0xc9 => .ext 4
    | 0xca => .float32
    | 0xcb => .float64
    | 0xcc => .unsigned 1
    | 0xcd => .unsigned 2
    | 0xce => .unsigned 4
    | 0xcf => .unsigned 8
    | 0xd0 => .signed 1
    | 0xd1 => .signed 2
    | 0xd2 => .signed 4
    | 0xd3 => .signed 8
    | 0xd4 => .fixedExt 1
    | 0xd5 => .fixedExt 2
    | 0xd6 => .fixedExt 4
    | 0xd7 => .fixedExt 8
    | 0xd8 => .fixedExt 16
    | 0xd9 => .text 1
    | 0xda => .text 2
    | 0xdb => .text 4
    | 0xdc => .array 2
    | 0xdd => .array 4
    | 0xde => .map 2
    | 0xdf => .map 4
    | _ => .reserved

/-- The number of payload bytes of an unsigned integer, if the marker starts one. -/
def unsignedWidth? : Marker → Option Nat
  | .smallUnsigned _ => some 0
  | .unsigned width => some width
  | _ => none

def isUnsigned : Marker → Bool
  | .smallUnsigned _ | .unsigned _ => true
  | _ => false

def isMap : Marker → Bool
  | .smallMap _ | .map _ => true
  | _ => false

def isArray : Marker → Bool
  | .smallArray _ | .array _ => true
  | _ => false

def isText : Marker → Bool
  | .smallText _ | .text _ => true
  | _ => false

theorem isUnsigned_eq_isSome_unsignedWidth? (marker : Marker) :
    marker.isUnsigned = marker.unsignedWidth?.isSome := by
  cases marker <;> rfl

end Marker

/-! Unsigned 64-bit integers: a marker and up to eight big-endian payload bytes. Writing always
takes the shortest of the five forms. -/

namespace Unsigned

/-- Shift the payload in byte by byte. -/
def fold (payload : Bytes) : UInt64 :=
  payload.foldl (fun value byte => (value <<< 8) ||| byte.toUInt64) 0

/-- The number of a marker byte and its payload; `none` if the marker starts no unsigned integer
or the payload is not as long as it says. -/
def decode? (marker : UInt8) (payload : Bytes) : Option UInt64 :=
  match (Marker.ofByte marker).unsignedWidth? with
  | none => none
  | some width =>
      if payload.length ≠ width then none
      else if width = 0 then some marker.toUInt64
      else some (fold payload)

/-- The shortest form of a number: its marker, then its payload. -/
def encode (value : UInt64) : Bytes :=
  if value < 0x80 then [value.toUInt8]
  else if value < 0x100 then 0xcc :: BigEndian.encode 1 value.toNat
  else if value < 0x10000 then 0xcd :: BigEndian.encode 2 value.toNat
  else if value < 0x100000000 then 0xce :: BigEndian.encode 4 value.toNat
  else 0xcf :: BigEndian.encode 8 value.toNat

end Unsigned

end FailoverPool
