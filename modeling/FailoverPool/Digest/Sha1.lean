import FailoverPool.Bytes

/-!
The digest SHA-1: twenty bytes that stand for a message of any length.
-/

namespace FailoverPool
namespace Sha1

structure State where
  a : UInt32
  b : UInt32
  c : UInt32
  d : UInt32
  e : UInt32
  deriving DecidableEq, Repr

def initial : State := ⟨0x67452301, 0xefcdab89, 0x98badcfe, 0x10325476, 0xc3d2e1f0⟩

def rotate (word : UInt32) (count : UInt32) : UInt32 :=
  (word <<< count) ||| (word >>> (32 - count))

/-- The function and the constant of one of the eighty rounds. -/
def mix (round : Nat) (b c d : UInt32) : UInt32 × UInt32 :=
  if round < 20 then ((b &&& c) ||| (~~~b &&& d), 0x5a827999)
  else if round < 40 then (b ^^^ c ^^^ d, 0x6ed9eba1)
  else if round < 60 then ((b &&& c) ||| (b &&& d) ||| (c &&& d), 0x8f1bbcdc)
  else (b ^^^ c ^^^ d, 0xca62c1d6)

def step (state : State) (round : Nat) (word : UInt32) : State :=
  let (mixed, constant) := mix round state.b state.c state.d
  ⟨rotate state.a 5 + mixed + state.e + constant + word, state.a, rotate state.b 30, state.c,
    state.d⟩

/-- Lengthen a schedule, whose latest word comes first, by a number of words. -/
def extend : (count : Nat) → List UInt32 → List UInt32
  | 0, latest => latest
  | count + 1, latest =>
      let word := latest.getD 2 0 ^^^ latest.getD 7 0 ^^^ latest.getD 13 0 ^^^ latest.getD 15 0
      extend count (rotate word 1 :: latest)

/-- The sixteen words of a block, and the sixty-four made from them. -/
def schedule (words : List UInt32) : List UInt32 := (extend 64 words.reverse).reverse

def compress (state : State) (words : List UInt32) : State :=
  let final := (schedule words).zipIdx.foldl
    (fun state (word, round) => step state round word) state
  ⟨state.a + final.a, state.b + final.b, state.c + final.c, state.d + final.d, state.e + final.e⟩

/-- The message, a one bit, zeros, and the message's length in bits in the last eight bytes of a
block of 64. -/
def padded (message : Bytes) : Bytes :=
  message ++ 0x80 :: List.replicate ((119 - message.length % 64) % 64) 0 ++
    BigEndian.encode 8 (message.length * 8)

/-- Group bytes into words, most significant byte first. -/
def words : Bytes → List UInt32
  | first :: second :: third :: fourth :: rest =>
      UInt32.ofNat (BigEndian.toNat [first, second, third, fourth]) :: words rest
  | _ => []

def absorb (state : State) : (blocks : Nat) → List UInt32 → State
  | 0, _ => state
  | blocks + 1, words => absorb (compress state (words.take 16)) blocks (words.drop 16)

def digest (message : Bytes) : Bytes :=
  let blocks := padded message
  let state := absorb initial (blocks.length / 64) (words blocks)
  [state.a, state.b, state.c, state.d, state.e].flatMap fun word => BigEndian.encode 4 word.toNat

theorem length_digest (message : Bytes) : (digest message).length = 20 := by
  simp [digest]

end Sha1
end FailoverPool
