import SessionKeeper.Protobuf.Schema

/-!
# Enumerations

The field of an enumeration holds any number of 32 bits. `resolve` reads it as a variant: a number
that is absent or belongs to no variant counts as the first one.
-/

namespace SessionKeeper.Protobuf

/-- The numbers of the variants of an enumeration. -/
structure Enumeration where
  first : Int32
  others : List Int32

namespace Enumeration

/-- The number of the variant that a field means. -/
def resolve (e : Enumeration) (value : Option Int32) : Int32 :=
  match value with
  | none => e.first
  | some n => if n ∈ e.others then n else e.first

/-- The numbers of an enumeration as values of a field. -/
def kind (e : Enumeration) : Kind Int32 :=
  .enumeration e.first

end Enumeration

end SessionKeeper.Protobuf
