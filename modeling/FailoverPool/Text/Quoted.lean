import FailoverPool.Text.GraphemeExtend
import FailoverPool.Text.Unprintable

/-!
Text between double quotes, with an escape for each character that would not show.
-/

namespace FailoverPool

/-- A number in lower-case hexadecimal. -/
def hexText (number : Nat) : String := String.ofList (Nat.toDigits 16 number)

namespace Quoted

def shortEscape? : Char → Option String
  | '"' => some "\\\""
  | '\\' => some "\\\\"
  | '\n' => some "\\n"
  | '\r' => some "\\r"
  | '\t' => some "\\t"
  | '\x00' => some "\\0"
  | _ => none

/-- The fillers of Hangul syllables: letters that are blank. -/
def isFiller (codePoint : Nat) : Bool :=
  codePoint = 0x115f || codePoint = 0x1160 || codePoint = 0x3164 || codePoint = 0xffa0

/-- The halfwidth voicing marks: they extend the character before them, but as letters they have a
place of their own. -/
def isVoicingMark (codePoint : Nat) : Bool := codePoint = 0xff9e || codePoint = 0xff9f

/-- A character that is not shown as itself: it has no visible form, or it would join the one
before it. -/
def isHidden (character : Char) : Bool :=
  let codePoint := character.toNat
  if 0x20 ≤ codePoint && codePoint < 0x7f then false
  else Unprintable.contains codePoint || isFiller codePoint ||
    (GraphemeExtend.contains codePoint && !isVoicingMark codePoint)

def pushEscaped (out : String) (character : Char) : String :=
  match shortEscape? character with
  | some escape => out ++ escape
  | none =>
      if isHidden character then out ++ "\\u\x7b" ++ hexText character.toNat ++ "\x7d"
      else out.push character

def encode (text : String) : String :=
  (text.foldl pushEscaped "\"").push '"'

end Quoted
end FailoverPool
