import FailoverPool.Error
import FailoverPool.Protocol.Code
import FailoverPool.Protocol.Key
import FailoverPool.Value.Writer

/-!
Frames: a length, a header map, and a body.

Written frames always have a 32-bit length; a reader takes any unsigned integer as the length.
`Frame.split` cuts the first payload off a byte stream and `Frame.ofPayload` reads it.
-/

namespace FailoverPool

/-- The entries of a map whose keys are numbers. -/
abbrev Fields := List (UInt64 × Value)

/-! One entry of a map: the key, and what stands under it. The map in front of its entries tells
only how many they are. -/

namespace Entry

def number (key value : UInt64) : Bytes := Unsigned.encode key ++ Unsigned.encode value

def text (key : UInt64) (value : String) : Bytes := Unsigned.encode key ++ Utf8.pack value

def packed (key : UInt64) (value : Value) : Bytes := Unsigned.encode key ++ value.encode

end Entry

structure Frame where
  header : Value
  /-- Absent when the payload ends behind the header. -/
  body : Option Value

inductive FrameFault where
  | endBeforeMarker
  | endInLength
  | endInPayload
  | invalidMarker (byte : UInt8)
  | tooLong (length : UInt64)
  deriving DecidableEq, Repr

namespace FrameFault

def toError : FrameFault → Error
  | .endBeforeMarker => .io .unexpectedEnd
  | .endInLength => .io .earlyEnd
  | .endInPayload => .io .unexpectedEnd
  | .invalidMarker byte => .protocol (.lengthMarker byte)
  | .tooLong length => .protocol (.frameTooLong length)

/-- More bytes could still mend the fault. -/
def isIncomplete : FrameFault → Bool
  | .endBeforeMarker | .endInLength | .endInPayload => true
  | .invalidMarker _ | .tooLong _ => false

end FrameFault

namespace Frame

/-- The header of a request: its code, its sync and, inside a stream, the stream's number. -/
def encodeHeader (code : FrameCode) (sync stream : UInt64) : Bytes :=
  Header.map (if stream ≠ 0 then 3 else 2) ++ Entry.number Key.code code.number ++
    Entry.number Key.sync sync ++ if stream ≠ 0 then Entry.number Key.streamId stream else []

/-- A frame around a packed body. The length is that of header and body modulo 2 ^ 32. -/
def encode (code : FrameCode) (sync stream : UInt64) (body : Bytes) : Bytes :=
  let header := encodeHeader code sync stream
  0xce :: (BigEndian.encode 4 (header.length + body.length) ++ (header ++ body))

/-- Cut the first payload off a byte stream. The second part is what has not been consumed: all
that follows the payload, or, when the length is refused, all that follows it. -/
def split : Bytes → Except FrameFault Bytes × Bytes
  | [] => (.error .endBeforeMarker, [])
  | marker :: rest =>
      match (Marker.ofByte marker).unsignedWidth? with
      | none => (.error (.invalidMarker marker), rest)
      | some width =>
          match Unsigned.decode? marker (rest.take width) with
          | none => (.error .endInLength, [])
          | some length =>
              let rest := rest.drop width
              if length > maxFrameLength then (.error (.tooLong length), rest)
              else
                let payload := rest.take length.toNat
                if payload.length = length.toNat then (.ok payload, rest.drop length.toNat)
                else (.error .endInPayload, [])

def ofPayload (payload : Bytes) : Except Error Frame :=
  match Value.decode payload with
  | .error fault => .error (.decode (.unreadable fault))
  | .ok (header, []) => .ok ⟨header, none⟩
  | .ok (header, rest) =>
      match Value.decode rest with
      | .error fault => .error (.decode (.unreadable fault))
      | .ok (body, _) => .ok ⟨header, some body⟩

/-- Read the first frame of a byte stream that has ended, and tell what was not consumed. -/
def read (input : Bytes) : Except Error Frame × Bytes :=
  match split input with
  | (.error fault, rest) => (.error fault.toError, rest)
  | (.ok payload, rest) => (ofPayload payload, rest)

/-- A payload has at least the first byte of its length in front of it. -/
theorem length_lt_of_split {input payload rest : Bytes}
    (isSplit : split input = (.ok payload, rest)) : rest.length < input.length := by
  cases input with
  | nil => simp [split] at isSplit
  | cons marker later =>
      simp only [split] at isSplit
      repeat' split at isSplit
      all_goals try cases isSplit
      simp only [List.length_drop, List.length_cons]
      omega

theorem length_lt_of_read {input rest : Bytes} {frame : Frame}
    (isRead : read input = (.ok frame, rest)) : rest.length < input.length := by
  cases isSplit : split input with
  | mk result unconsumed =>
      cases result with
      | error fault => simp [read, isSplit] at isRead
      | ok payload =>
          simp only [read, isSplit, Prod.mk.injEq] at isRead
          exact isRead.2 ▸ length_lt_of_split isSplit

/-- All frames of a byte stream that has ended, and the error at which reading stopped before the
bytes ran out. -/
def readAll (input : Bytes) : List Frame × Option Error :=
  if input.isEmpty then ([], none)
  else
    match isRead : read input with
    | (.error error, _) => ([], some error)
    | (.ok frame, rest) =>
        have : rest.length < input.length := length_lt_of_read isRead
        let (later, error) := readAll rest
        (frame :: later, error)
termination_by input.length

@[simp]
theorem readAll_nil : readAll [] = ([], none) := by
  rw [readAll]
  simp

/-- The first frame of a stream, and then the frames of what it leaves. -/
theorem readAll_of_read {input rest : Bytes} {frame : Frame}
    (isRead : read input = (.ok frame, rest)) :
    readAll input = (frame :: (readAll rest).1, (readAll rest).2) := by
  have shorter := length_lt_of_read isRead
  have isNonempty : input.isEmpty = false := by
    cases input with
    | nil => exact absurd shorter (Nat.not_lt_zero _)
    | cons first later => rfl
  rw [readAll, isNonempty]
  simp only [Bool.false_eq_true, if_false]
  split
  · rename_i failed
    rw [isRead] at failed
    cases failed
  · rename_i found left succeeded
    rw [isRead] at succeeded
    cases succeeded
    rfl

/-- The body that names the key to watch or to watch no longer. -/
def watchBody (key : String) : Bytes := Header.map 1 ++ Entry.text Key.eventKey key

/-- The body that proves who the user is. -/
def authBody (user : String) (scramble : Bytes) : Bytes :=
  Header.map 2 ++ Entry.text Key.userName user ++ Unsigned.encode Key.tuple ++
    Header.array 2 ++ Utf8.pack "chap-sha1" ++ scramble.pack

end Frame

end FailoverPool
