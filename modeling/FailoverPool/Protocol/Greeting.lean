import FailoverPool.Digest.Sha1
import FailoverPool.Error

/-!
The server's greeting, and the proof of the password that answers it.

The proof is the digest of the password, covered by a digest that only who knows the digest of that
digest, and the greeting's salt, can make.
-/

namespace FailoverPool

/-! The characters with the Unicode property White_Space, and text without them at either end. -/

namespace Blank

/-- First and last code point of each run of blank characters. -/
def ranges : List (Nat × Nat) :=
  [(0x9, 0xd), (0x20, 0x20), (0x85, 0x85), (0xa0, 0xa0), (0x1680, 0x1680), (0x2000, 0x200a),
    (0x2028, 0x2029), (0x202f, 0x202f), (0x205f, 0x205f), (0x3000, 0x3000)]

def isBlank (character : Char) : Bool :=
  ranges.any fun (first, last) => first ≤ character.toNat && character.toNat ≤ last

theorem isBlank_of_isWhitespace {character : Char} (ascii : character.isWhitespace = true) :
    isBlank character = true := by
  simp only [Char.isWhitespace, Bool.or_eq_true, decide_eq_true_eq] at ascii
  rcases ascii with ((ascii | ascii) | ascii) | ascii <;> subst ascii <;> decide

def trim (text : List Char) : List Char :=
  ((text.dropWhile isBlank).reverse.dropWhile isBlank).reverse

end Blank
structure Greeting where
  version : String
  /-- Base64 of the bytes that the proof of the password depends on. -/
  salt : String
  deriving DecidableEq, Repr, Inhabited

namespace Greeting

def size : Nat := 128

/-- One half of a greeting as text, without the blanks around it. -/
def line (half : Bytes) : List Char := Blank.trim (Utf8.decodeLossy half)

/-- The greeting at the front of a byte string: a line that tells the server's version and a line
with the salt. -/
def parse (raw : Bytes) : Except Error Greeting :=
  if raw.length < size then .error (.protocol .incompleteGreeting)
  else
    let version := line (raw.take 64)
    if "Tarantool".toList.isPrefixOf version then
      .ok ⟨String.ofList version, String.ofList (line ((raw.take size).drop 64))⟩
    else .error (.protocol (.unexpectedGreeting (String.ofList version)))

end Greeting

/-- How many bytes of the salt count, and how long a proof is. -/
def scrambleSize : Nat := 20

/-- The bitwise difference of two byte strings, as long as the shorter. -/
def Bytes.xor (left right : Bytes) : Bytes := left.zipWith (· ^^^ ·) right

/-- The proof that belongs to salt bytes and a password. -/
def scrambleBytes (salt password : Bytes) : Bytes :=
  let once := Sha1.digest password
  let twice := Sha1.digest once
  once.xor (Sha1.digest (salt.take scrambleSize ++ twice))

def scramble (salt password : String) : Except Error Bytes :=
  match Base64.decode (Utf8.encode salt) with
  | .error fault => .error (.protocol (.invalidSalt fault))
  | .ok bytes =>
      if bytes.length < scrambleSize then .error (.protocol .shortSalt)
      else .ok (scrambleBytes bytes (Utf8.encode password))

end FailoverPool
