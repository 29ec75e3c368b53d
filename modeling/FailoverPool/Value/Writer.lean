import FailoverPool.Value.Basic
import FailoverPool.Value.Marker

/-!
The packed form of a value.

Numbers and lengths take their shortest form. A text that is not UTF-8 is written as binary data.
-/

namespace FailoverPool

namespace Header

def text (size : UInt32) : Bytes :=
  if size < 32 then [0xa0 + size.toUInt8]
  else if size < 0x100 then 0xd9 :: BigEndian.encode 1 size.toNat
  else if size < 0x10000 then 0xda :: BigEndian.encode 2 size.toNat
  else 0xdb :: BigEndian.encode 4 size.toNat

def binary (size : UInt32) : Bytes :=
  if size < 0x100 then 0xc4 :: BigEndian.encode 1 size.toNat
  else if size < 0x10000 then 0xc5 :: BigEndian.encode 2 size.toNat
  else 0xc6 :: BigEndian.encode 4 size.toNat

def array (size : UInt32) : Bytes :=
  if size < 16 then [0x90 + size.toUInt8]
  else if size < 0x10000 then 0xdc :: BigEndian.encode 2 size.toNat
  else 0xdd :: BigEndian.encode 4 size.toNat

def map (size : UInt32) : Bytes :=
  if size < 16 then [0x80 + size.toUInt8]
  else if size < 0x10000 then 0xde :: BigEndian.encode 2 size.toNat
  else 0xdf :: BigEndian.encode 4 size.toNat

def ext (size : UInt32) (kind : Int8) : Bytes :=
  let sized : Bytes :=
    if size = 1 then [0xd4]
    else if size = 2 then [0xd5]
    else if size = 4 then [0xd6]
    else if size = 8 then [0xd7]
    else if size = 16 then [0xd8]
    else if size < 0x100 then 0xc7 :: BigEndian.encode 1 size.toNat
    else if size < 0x10000 then 0xc8 :: BigEndian.encode 2 size.toNat
    else 0xc9 :: BigEndian.encode 4 size.toNat
  sized ++ [kind.toUInt8]

end Header

/-- The shortest form of an integer: an unsigned one if it is not negative, else a signed one. -/
def Integer.encode (integer : Integer) : Bytes :=
  if 0 ≤ integer.val then Unsigned.encode (UInt64.ofNat integer.val.toNat)
  else
    let wrapped := (integer.val % 2 ^ (64 : Nat)).toNat
    if -32 ≤ integer.val then BigEndian.encode 1 wrapped
    else if -128 ≤ integer.val then 0xd0 :: BigEndian.encode 1 wrapped
    else if -32768 ≤ integer.val then 0xd1 :: BigEndian.encode 2 wrapped
    else if -2147483648 ≤ integer.val then 0xd2 :: BigEndian.encode 4 wrapped
    else 0xd3 :: BigEndian.encode 8 wrapped

def Utf8.pack (text : String) : Bytes :=
  let bytes := encode text
  Header.text (UInt32.ofNat bytes.length) ++ bytes

def Bytes.pack (bytes : Bytes) : Bytes :=
  Header.binary (UInt32.ofNat bytes.length) ++ bytes

def packFloat64 (bits : UInt64) : Bytes := 0xcb :: BigEndian.encode 8 bits.toNat

namespace Value

mutual

def write (out : Array UInt8) : Value → Array UInt8
  | .nil => out.push 0xc0
  | .bool false => out.push 0xc2
  | .bool true => out.push 0xc3
  | .int value => out ++ value.encode
  | .float32 bits => out.push 0xca ++ BigEndian.encode 4 bits.toNat
  | .float64 bits => out ++ packFloat64 bits
  | .text value => out ++ Utf8.pack value
  | .malformedText bytes => out ++ Bytes.pack bytes
  | .binary bytes => out ++ Bytes.pack bytes
  | .array items => writeItems (out ++ Header.array (UInt32.ofNat items.length)) items
  | .map entries => writeEntries (out ++ Header.map (UInt32.ofNat entries.length)) entries
  | .ext kind bytes => out ++ Header.ext (UInt32.ofNat bytes.length) kind ++ bytes

def writeItems (out : Array UInt8) : List Value → Array UInt8
  | [] => out
  | item :: rest => writeItems (item.write out) rest

def writeEntries (out : Array UInt8) : List (Value × Value) → Array UInt8
  | [] => out
  | (key, value) :: rest => writeEntries (value.write (key.write out)) rest

end

def encode (value : Value) : Bytes := (value.write #[]).toList

end Value

end FailoverPool
