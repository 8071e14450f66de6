import SessionKeeper.Bytes

/-!
# Keys and errors of encoded messages

An encoded message is a sequence of fields. A field begins with a key, which holds the field's
number and its wire type, the shape of what follows. A decoding error has a cause and, for a cause
inside known fields, the path of those fields, innermost first.
-/

namespace SessionKeeper.Protobuf

/-- The shape of an encoded value. -/
inductive WireType where
  | varint
  | fixed64
  | delimited
  | startGroup
  | endGroup
  | fixed32
  deriving DecidableEq, Repr

namespace WireType

/-- The number of the wire type in a key. -/
def code : WireType → Nat
  | varint => 0
  | fixed64 => 1
  | delimited => 2
  | startGroup => 3
  | endGroup => 4
  | fixed32 => 5

/-- The wire type with the given number. -/
def ofCode? : Nat → Option WireType
  | 0 => some varint
  | 1 => some fixed64
  | 2 => some delimited
  | 3 => some startGroup
  | 4 => some endGroup
  | 5 => some fixed32
  | _ => none

/-- The name shown in errors. -/
def name : WireType → String
  | varint => "Varint"
  | fixed64 => "SixtyFourBit"
  | delimited => "LengthDelimited"
  | startGroup => "StartGroup"
  | endGroup => "EndGroup"
  | fixed32 => "ThirtyTwoBit"

@[simp]
theorem ofCode?_code (w : WireType) : ofCode? w.code = some w := by
  cases w <;> rfl

theorem code_lt (w : WireType) : w.code < 8 := by
  cases w <;> decide

end WireType

/-- Why bytes are no encoded message. -/
inductive Fault where
  /-- A varint is cut off, longer than ten bytes or beyond 64 bits. -/
  | invalidVarint
  /-- A length is greater than what is left. -/
  | underflow
  /-- A field reaches beyond the end of its message. -/
  | lengthExceeded
  | unexpectedEndGroup
  /-- Messages and groups are nested too deeply. -/
  | recursionLimit
  /-- A key has the field number zero. -/
  | zeroNumber
  /-- A key is greater than 32 bits. -/
  | invalidKey (key : Nat)
  | invalidWireType (code : Nat)
  | wireTypeMismatch (found expected : WireType)
  | invalidString
  deriving DecidableEq, Repr

/-- The text of a fault. -/
def Fault.text : Fault → String
  | invalidVarint => "invalid varint"
  | underflow => "buffer underflow"
  | lengthExceeded => "delimited length exceeded"
  | unexpectedEndGroup => "unexpected end group tag"
  | recursionLimit => "recursion limit reached"
  | zeroNumber => "invalid tag value: 0"
  | invalidKey key => "invalid key value: " ++ toString key
  | invalidWireType code => "invalid wire type value: " ++ toString code
  | wireTypeMismatch found expected =>
      "invalid wire type: " ++ found.name ++ " (expected " ++ expected.name ++ ")"
  | invalidString => "invalid string value: data is not UTF-8 encoded"

/-- A fault with the fields around it, message and field name, innermost first. -/
structure DecodeError where
  fault : Fault
  path : List (String × String) := []
  deriving DecidableEq, Repr

namespace DecodeError

/-- The error as seen from the message around the field in which it arose. -/
def within (message field : String) (e : DecodeError) : DecodeError :=
  { e with path := e.path ++ [(message, field)] }

/-- The text of the error. -/
def text (e : DecodeError) : String :=
  e.path.foldl (fun shown step => shown ++ step.1 ++ "." ++ step.2 ++ ": ")
      "failed to decode Protobuf message: " ++ e.fault.text

end DecodeError

/-- A fault outside every known field. -/
instance : Coe Fault DecodeError where
  coe fault := ⟨fault, []⟩

/-- What decoding yields: a value and the bytes behind it. -/
abbrev Decoded (α : Type) := Except DecodeError (α × Bytes)

end SessionKeeper.Protobuf
