import FailoverPool.Bytes

/-!
Base64 over the standard alphabet, with canonical padding.

`decode` refuses every text that is not the writing of some bytes, and says which fault it met
first: faults in the full groups before the last one come before those in the last group.
-/

namespace FailoverPool
namespace Base64

inductive Fault where
  | invalidSymbol (byte : UInt8) (offset : Nat)
  | invalidLength (length : Nat)
  | invalidPadding
  | invalidLastSymbol (byte : UInt8) (offset : Nat)
  deriving DecidableEq, Repr

namespace Fault

def text : Fault → String
  | .invalidSymbol byte offset => s!"Invalid symbol {byte}, offset {offset}."
  | .invalidLength length => s!"Invalid input length: {length}"
  | .invalidPadding => "Invalid padding"
  | .invalidLastSymbol byte offset => s!"Invalid last symbol {byte}, offset {offset}."

end Fault

def pad : UInt8 := 61

/-- The six bits that a sign of the alphabet stands for. -/
def sextet? (byte : UInt8) : Option Nat :=
  if 65 ≤ byte && byte ≤ 90 then some (byte.toNat - 65)
  else if 97 ≤ byte && byte ≤ 122 then some (byte.toNat - 71)
  else if 48 ≤ byte && byte ≤ 57 then some (byte.toNat + 4)
  else if byte == 43 then some 62
  else if byte == 47 then some 63
  else none

/-- The six bits of a sign at an offset, or the fault that it is outside the alphabet. -/
def sextet (byte : UInt8) (offset : Nat) : Except Fault Nat :=
  match sextet? byte with
  | some value => .ok value
  | none => .error (.invalidSymbol byte offset)

/-- The bytes of `count` sextets packed into a number, the most significant first; bits short of a
byte are left out. -/
def bytesOf (count packed : Nat) : Bytes :=
  BigEndian.encode (count * 6 / 8) (packed / 2 ^ (count * 6 % 8))

/-- What has been seen of the last group: its sextets in order, and where the padding began. -/
structure Tail where
  sextets : List Nat
  lastSymbol : UInt8
  padding : List Nat

/-- Read the last one to four signs from left to right. Padding cannot stand in the first two
places, and only padding follows padding. -/
def readTail (tail : Tail) (start : Nat) : (offset : Nat) → Bytes → Except Fault Tail
  | _, [] => .ok tail
  | offset, byte :: rest =>
      if byte = pad then
        if offset < start + 2 then .error (.invalidSymbol byte offset)
        else readTail { tail with padding := tail.padding ++ [offset] } start (offset + 1) rest
      else
        match tail.padding with
        | firstPad :: _ => .error (.invalidSymbol pad firstPad)
        | [] =>
            match sextet byte offset with
            | .error fault => .error fault
            | .ok value =>
                readTail { tail with sextets := tail.sextets ++ [value], lastSymbol := byte }
                  start (offset + 1) rest

def decodeTail (start : Nat) (signs : Bytes) : Except Fault Bytes :=
  match readTail ⟨[], 0, []⟩ start start signs with
  | .error fault => .error fault
  | .ok tail =>
      let count := tail.sextets.length
      let packed := tail.sextets.foldl (fun value sextet => value * 64 + sextet) 0
      if signs.length ≠ 0 && count < 2 then .error (.invalidLength (start + count))
      else if (count + tail.padding.length) % 4 ≠ 0 then .error .invalidPadding
      else if packed % 2 ^ (count * 6 % 8) ≠ 0 then
        .error (.invalidLastSymbol tail.lastSymbol (start + count - 1))
      else .ok (bytesOf count packed)

def decodeGroups : (offset : Nat) → Bytes → Except Fault Bytes
  | offset, first :: second :: third :: fourth :: next :: rest => do
      let high ← sextet first offset
      let upper ← sextet second (offset + 1)
      let lower ← sextet third (offset + 2)
      let low ← sextet fourth (offset + 3)
      let packed := ((high * 64 + upper) * 64 + lower) * 64 + low
      let bytes ← decodeGroups (offset + 4) (next :: rest)
      return bytesOf 4 packed ++ bytes
  | offset, signs => decodeTail offset signs

/-- The bytes that a text spells. A last sign that stands alone in its group and is neither padding
nor in the alphabet is refused before all else. -/
def decode (signs : Bytes) : Except Fault Bytes :=
  match signs.getLast? with
  | some last =>
      if signs.length % 4 = 1 && last != pad && (sextet? last).isNone then
        .error (.invalidSymbol last (signs.length - 1))
      else decodeGroups 0 signs
  | none => .ok []

end Base64
end FailoverPool
