import SessionKeeper.Protobuf.Skip
import SessionKeeper.Text.Utf8

/-!
# Kinds of values

A kind says how the values of a field are written and how an encoded value is merged into the one
that the field already has. Merging never lengthens the input, so a loop over the fields of a
message ends.
-/

namespace SessionKeeper.Protobuf

/-- How values are encoded and decoded. -/
structure Kind (α : Type) where
  /-- The wire type of the values. -/
  wireType : WireType
  /-- The value of a field that does not occur. -/
  empty : α
  /-- The bytes of a value, behind its key. -/
  write : α → Bytes
  /-- Merge the encoded value at the front of the bytes into a value. `depth` is the nesting that
  is still allowed. -/
  merge : (depth : Nat) → α → Bytes → Decoded α
  length_merge : ∀ {depth : Nat} {old new : α} {bytes rest : Bytes},
    merge depth old bytes = .ok (new, rest) → rest.length ≤ bytes.length

namespace Kind

/-- A kind of numbers; a later occurrence replaces the earlier one. -/
def ofVarint {α : Type} (empty : α) (toNat : α → Nat) (ofNat : Nat → α) : Kind α where
  wireType := .varint
  empty := empty
  write value := writeVarint (toNat value)
  merge _ _ bytes := (readVarint bytes).map fun read => (ofNat read.1, read.2)
  length_merge := by
    intro depth old new bytes rest h
    cases hread : readVarint bytes with
    | error e => simp [hread, Except.map] at h
    | ok read =>
        simp only [hread, Except.map, Except.ok.injEq, Prod.mk.injEq] at h
        exact h.2 ▸ Nat.le_of_lt (length_readVarint hread)

/-- Numbers of 32 bits; of a longer one the low bits are kept. -/
def uint32 : Kind UInt32 :=
  ofVarint 0 UInt32.toNat UInt32.ofNat

/-- Numbers of 64 bits. -/
def uint64 : Kind UInt64 :=
  ofVarint 0 UInt64.toNat UInt64.ofNat

/-- Truth values; every number but zero is true. -/
def bool : Kind Bool :=
  ofVarint false Bool.toNat (· != 0)

/-- Numbers of an enumeration, known or not, with the number of its first variant. They are
written with their sign extended to 64 bits, and of a number read the low 32 bits are kept. -/
def enumeration (first : Int32) : Kind Int32 :=
  ofVarint first (fun value => value.toInt64.toUInt64.toNat) fun n => (UInt32.ofNat n).toInt32

/-- Read a length and that many bytes. -/
def readDelimited (bytes : Bytes) : Decoded Bytes :=
  match readVarint bytes with
  | .error e => .error e
  | .ok (length, rest) =>
      if rest.length < length then .error Fault.underflow
      else .ok (rest.take length, rest.drop length)

theorem length_readDelimited {bytes value rest : Bytes}
    (h : readDelimited bytes = .ok (value, rest)) : rest.length ≤ bytes.length := by
  simp only [readDelimited] at h
  split at h
  · cases h
  · rename_i hread
    split at h
    · cases h
    · cases h
      have := length_readVarint hread
      simp only [List.length_drop]
      omega

/-- Bytes behind their length. -/
def bytes : Kind Bytes where
  wireType := .delimited
  empty := []
  write value := writeVarint value.length ++ value
  merge _ _ input := readDelimited input
  length_merge := length_readDelimited

/-- Text in UTF-8 behind the number of its bytes. -/
def string : Kind String where
  wireType := .delimited
  empty := ""
  write value := writeVarint (Text.utf8 value).length ++ Text.utf8 value
  merge _ _ input :=
    match readDelimited input with
    | .error e => .error e
    | .ok (value, rest) =>
        match Text.ofUtf8? value with
        | none => .error Fault.invalidString
        | some text => .ok (text, rest)
  length_merge := by
    intro depth old new input rest h
    split at h
    · cases h
    · rename_i hread
      split at h
      · cases h
      · cases h
        exact length_readDelimited hread

end Kind

end SessionKeeper.Protobuf
