import FailoverPool.Value.Basic

/-!
Reading values as data of a known shape.

A shape is a reader `Value → Option Data`. Nothing is converted: a number is no text, an array of
another length is no tuple.
-/

namespace FailoverPool
namespace Typed

def unsigned (value : Value) : Option UInt64 := value.toUInt64?

/-- A text, or binary data that spells one. -/
def text : Value → Option String
  | .text value => some value
  | .binary bytes => Utf8.decode? bytes
  | _ => none

def bool : Value → Option Bool
  | .bool value => some value
  | _ => none

/-- Nothing, for nil, or data of a shape. -/
def optional {Data : Type} (shape : Value → Option Data) : Value → Option (Option Data)
  | .nil => some none
  | value => (shape value).map some

def list {Data : Type} (shape : Value → Option Data) : Value → Option (List Data)
  | .array items => items.mapM shape
  | _ => none

def single {Data : Type} (shape : Value → Option Data) : Value → Option Data
  | .array [item] => shape item
  | _ => none

def pair {First Second : Type} (first : Value → Option First) (second : Value → Option Second) :
    Value → Option (First × Second)
  | .array [left, right] => do return (← first left, ← second right)
  | _ => none

structure User where
  id : UInt64
  name : String
  deriving DecidableEq, Repr

namespace User

/-- What a key of a map says about the field it names. -/
inductive Field where
  | id
  | name
  | unknown
  deriving DecidableEq

def Field.ofName (spelled : String) : Field :=
  if spelled = "id" then .id else if spelled = "name" then .name else .unknown

/-- The field that a key names, by its name or its place. A key that is neither a text, data nor a
number that is not negative names nothing. -/
def Field.ofKey? : Value → Option Field
  | .text spelled => some (.ofName spelled)
  | .malformedText _ => some .unknown
  | .binary bytes => some ((Utf8.decode? bytes).elim .unknown .ofName)
  | .int index =>
      match index.toUInt64? with
      | some 0 => some .id
      | some 1 => some .name
      | some _ => some .unknown
      | none => none
  | _ => none

/-- Take the entries of a map into the fields found so far. A field that is repeated is refused. -/
def readEntries : Option UInt64 → Option String → List (Value × Value) → Option User
  | some id, some name, [] => some ⟨id, name⟩
  | _, _, [] => none
  | id, name, (key, value) :: rest => do
      match ← Field.ofKey? key, id, name with
      | .id, none, _ => readEntries (some (← unsigned value)) name rest
      | .name, _, none => readEntries id (some (← text value)) rest
      | .unknown, _, _ => readEntries id name rest
      | _, _, _ => none

end User

/-- A user: an array of the two fields in order, or a map in which each is found once. -/
def user : Value → Option User
  | .array [id, name] => do return ⟨← unsigned id, ← text name⟩
  | .map entries => User.readEntries none none entries
  | _ => none

end Typed
end FailoverPool
