import FailoverPool.Bytes

/-!
UTF-8 text and its bytes: the strict reading, and the lossy one that puts U+FFFD in place of every
maximal ill-formed part.
-/

namespace FailoverPool
namespace Utf8

def encode (text : String) : Bytes := text.toUTF8.data.toList

def decode? (bytes : Bytes) : Option String := String.fromUTF8? ⟨bytes.toArray⟩

def replacement : Char := '\uFFFD'

/-- A byte that goes on a character begun before. -/
def isContinuation (byte : UInt8) : Bool := 0x80 ≤ byte && byte < 0xc0

/-- How many bytes a lead byte asks for, itself included, and the bounds of the second byte, which
are narrower than those of a continuation byte where a longer form of a smaller character, a
surrogate or a number past U+10FFFF would begin. -/
def lead? (byte : UInt8) : Option (Nat × UInt8 × UInt8) :=
  if 0xc2 ≤ byte && byte ≤ 0xdf then some (2, 0x80, 0xbf)
  else if byte == 0xe0 then some (3, 0xa0, 0xbf)
  else if byte == 0xed then some (3, 0x80, 0x9f)
  else if 0xe1 ≤ byte && byte ≤ 0xef then some (3, 0x80, 0xbf)
  else if byte == 0xf0 then some (4, 0x90, 0xbf)
  else if 0xf1 ≤ byte && byte ≤ 0xf3 then some (4, 0x80, 0xbf)
  else if byte == 0xf4 then some (4, 0x80, 0x8f)
  else none

/-- The character of a lead byte's payload and the six low bits of each continuation byte. -/
def assemble (payload : Nat) (continuations : List UInt8) : Char :=
  Char.ofNat (continuations.foldl (fun code byte => code * 64 + byte.toNat % 64) payload)

/-- The character that begins with a byte, and how many of the bytes after it belong to it. A part
that begins a character but does not complete it, and a byte that can begin none, is one
replacement character. -/
def characterAt (first : UInt8) (rest : Bytes) : Char × Nat :=
  if first < 0x80 then (Char.ofNat first.toNat, 0)
  else match lead? first, rest with
    | none, _ => (replacement, 0)
    | some _, [] => (replacement, 0)
    | some (size, low, high), second :: rest =>
        if second < low || high < second then (replacement, 0)
        else if size = 2 then (assemble (first.toNat % 32) [second], 1)
        else match rest with
          | [] => (replacement, 1)
          | third :: rest =>
              if !isContinuation third then (replacement, 1)
              else if size = 3 then (assemble (first.toNat % 16) [second, third], 2)
              else match rest with
                | [] => (replacement, 2)
                | fourth :: _ =>
                    if !isContinuation fourth then (replacement, 2)
                    else (assemble (first.toNat % 8) [second, third, fourth], 3)

/-- Read text from any bytes, with a replacement character for each part that spells none. -/
def decodeLossy : Bytes → List Char
  | [] => []
  | first :: rest =>
      let (character, used) := characterAt first rest
      character :: decodeLossy (rest.drop used)
termination_by bytes => bytes.length
decreasing_by simp only [List.length_drop, List.length_cons]; omega

end Utf8
end FailoverPool
