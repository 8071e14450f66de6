import SessionKeeper.Protobuf.Basic

/-!
# Varints

A varint is a number in groups of seven bits, least significant first; every byte but the last has
its high bit set. At most ten bytes are read, and the number has at most 64 bits.
-/

namespace SessionKeeper.Protobuf

/-- The bytes of a number as a varint, without superfluous groups. -/
def writeVarint (n : Nat) : Bytes :=
  if n < 128 then [UInt8.ofNat n]
  else UInt8.ofNat (n % 128 + 128) :: writeVarint (n / 128)
termination_by n
decreasing_by omega

/-- Read the groups of a varint of at most `budget` bytes. -/
def readGroups : (budget : Nat) → Bytes → Option (Nat × Bytes)
  | 0, _ => none
  | _ + 1, [] => none
  | budget + 1, b :: rest =>
      if b.toNat < 128 then some (b.toNat, rest)
      else (readGroups budget rest).map fun read => (b.toNat - 128 + 128 * read.1, read.2)

/-- Read a varint: at most ten bytes, and a number of at most 64 bits. -/
def readVarint (bytes : Bytes) : Decoded Nat :=
  match readGroups 10 bytes with
  | none => .error Fault.invalidVarint
  | some (n, rest) => if n < UInt64.size then .ok (n, rest) else .error Fault.invalidVarint

/-- Groups take at least one byte. -/
theorem length_readGroups {budget n : Nat} {bytes rest : Bytes}
    (h : readGroups budget bytes = some (n, rest)) : rest.length < bytes.length := by
  induction budget generalizing bytes n rest with
  | zero => simp [readGroups] at h
  | succ budget ih =>
      cases bytes with
      | nil => simp [readGroups] at h
      | cons b tail =>
          simp only [readGroups] at h
          split at h
          · cases h
            exact Nat.lt_succ_self _
          · obtain ⟨⟨m, later⟩, hread, hpair⟩ := Option.map_eq_some_iff.mp h
            cases hpair
            exact Nat.lt_succ_of_lt (ih hread)

/-- A varint takes at least one byte. -/
theorem length_readVarint {n : Nat} {bytes rest : Bytes}
    (h : readVarint bytes = .ok (n, rest)) : rest.length < bytes.length := by
  simp only [readVarint] at h
  split at h
  · cases h
  · rename_i hread
    split at h
    · cases h
      exact length_readGroups hread
    · cases h

/-- The bytes of a field's key. -/
def writeKey (number : Nat) (wireType : WireType) : Bytes :=
  writeVarint (number * 8 + wireType.code)

/-- Read a field's key: number and wire type. -/
def readKey (bytes : Bytes) : Decoded (Nat × WireType) :=
  match readVarint bytes with
  | .error e => .error e
  | .ok (key, rest) =>
      if UInt32.size ≤ key then .error (Fault.invalidKey key)
      else
        match WireType.ofCode? (key % 8) with
        | none => .error (Fault.invalidWireType (key % 8))
        | some wireType =>
            if key / 8 = 0 then .error Fault.zeroNumber else .ok ((key / 8, wireType), rest)

/-- A key takes at least one byte. -/
theorem length_readKey {key : Nat × WireType} {bytes rest : Bytes}
    (h : readKey bytes = .ok (key, rest)) : rest.length < bytes.length := by
  simp only [readKey] at h
  split at h
  · cases h
  · rename_i hread
    split at h
    · cases h
    · split at h
      · cases h
      · split at h
        · cases h
        · cases h
          exact length_readVarint hread

end SessionKeeper.Protobuf
