import SessionKeeper.Protobuf.Enumeration

/-!
# Payloads of values

A `Scalar` says its type by a number and holds the value in the field of that type; of the types
that exist, unsigned numbers, truth values and strings are kept. An `Any` wraps a scalar.
-/

namespace SessionKeeper.Payload

open Protobuf

/-- The bytes of a string value, and the number of their collation. -/
structure ScalarString where
  value : Bytes
  collation : Option UInt64
  deriving DecidableEq, Repr

/-- The schema of string values. -/
def ScalarString.schema : Schema ScalarString where
  name := "ScalarString"
  empty := ⟨[], none⟩
  fields :=
    [.required 1 "value" .bytes ScalarString.value fun value m => { m with value := value },
      .optional 2 "collation" .uint64 ScalarString.collation fun value m =>
        { m with collation := value }]

/-- The types of scalars: signed, unsigned, null, octets, double, float, truth value, string. -/
def scalarTypes : Enumeration := ⟨1, [2, 3, 4, 5, 6, 7, 8]⟩

/-- The number of the type of unsigned scalars. -/
def unsignedType : Int32 := 2

/-- The number of the type of truth values. -/
def boolType : Int32 := 7

/-- The number of the type of strings. -/
def stringType : Int32 := 8

/-- A value with the number of its type. -/
structure Scalar where
  type : Int32
  unsigned : Option UInt64
  bool : Option Bool
  string : Option ScalarString
  deriving DecidableEq, Repr

namespace Scalar

/-- The schema of scalars. -/
def schema : Schema Scalar where
  name := "Scalar"
  empty := ⟨scalarTypes.first, none, none, none⟩
  fields :=
    [.required 1 "r#type" scalarTypes.kind Scalar.type fun value m => { m with type := value },
      .optional 3 "v_unsigned_int" .uint64 Scalar.unsigned fun value m =>
        { m with unsigned := value },
      .optional 8 "v_bool" .bool Scalar.bool fun value m => { m with bool := value },
      .optional 9 "v_string" ScalarString.schema.kind Scalar.string fun value m =>
        { m with string := value }]

/-- The scalar of an unsigned number. -/
def ofUnsigned (n : UInt64) : Scalar :=
  ⟨unsignedType, some n, none, none⟩

/-- The scalar of a truth value. -/
def ofBool (b : Bool) : Scalar :=
  ⟨boolType, none, some b, none⟩

/-- The scalar of a string. -/
def ofString (s : String) : Scalar :=
  ⟨stringType, none, none, some ⟨Text.utf8 s, none⟩⟩

end Scalar

/-- What a value of any type can be: scalar, object or array. -/
def anyTypes : Enumeration := ⟨1, [2, 3]⟩

/-- A value of any type; of those, scalars are kept. -/
structure Any where
  type : Int32
  scalar : Option Scalar
  deriving DecidableEq, Repr

/-- The schema of values of any type. -/
def Any.schema : Schema Any where
  name := "Any"
  empty := ⟨anyTypes.first, none⟩
  fields :=
    [.required 1 "r#type" anyTypes.kind Any.type fun value m => { m with type := value },
      .optional 2 "scalar" Scalar.schema.kind Any.scalar fun value m => { m with scalar := value }]

/-- A scalar as a value of any type. -/
def Any.ofScalar (s : Scalar) : Any :=
  ⟨anyTypes.first, some s⟩

end SessionKeeper.Payload
