import SessionKeeper.Protobuf.Kind

/-!
# Schemas of messages

A schema lists the fields of a message. From it follow the encoding, which writes the fields in
order, and the decoding, which merges each encoded field into the message and reads over the
fields that the schema does not list. A message can be the kind of a field of another one; it is
then read up to its announced end.
-/

namespace SessionKeeper.Protobuf

/-- A field of the messages `M`. -/
structure Field (M : Type) where
  number : Nat
  /-- The name shown in the path of an error. -/
  name : String
  /-- The bytes of the field, key included; none if the field has nothing to say. -/
  write : M → Bytes
  /-- Merge the encoded value behind a key with the given wire type into a message. -/
  merge : (depth : Nat) → WireType → M → Bytes → Decoded M
  length_merge : ∀ {depth : Nat} {wireType : WireType} {old new : M} {bytes rest : Bytes},
    merge depth wireType old bytes = .ok (new, rest) → rest.length ≤ bytes.length

namespace Field

variable {M α : Type}

/-- Merge a value of a kind into the part `old` of a message, and put the result into it. -/
def mergeWith (kind : Kind α) (old : α) (put : α → M) (depth : Nat) (wireType : WireType)
    (bytes : Bytes) : Decoded M :=
  if wireType = kind.wireType then
    (kind.merge depth old bytes).map fun read => (put read.1, read.2)
  else .error (Fault.wireTypeMismatch wireType kind.wireType)

theorem length_mergeWith {kind : Kind α} {old : α} {put : α → M} {depth : Nat}
    {wireType : WireType} {bytes rest : Bytes} {new : M}
    (h : mergeWith kind old put depth wireType bytes = .ok (new, rest)) :
    rest.length ≤ bytes.length := by
  simp only [mergeWith] at h
  split at h
  · cases hread : kind.merge depth old bytes with
    | error e => simp [hread, Except.map] at h
    | ok read =>
        simp only [hread, Except.map, Except.ok.injEq, Prod.mk.injEq] at h
        exact h.2 ▸ kind.length_merge hread
  · cases h

/-- A field that is always written and has the kind's empty value when it is missing. -/
def required (number : Nat) (name : String) (kind : Kind α) (get : M → α) (set : α → M → M) :
    Field M where
  number := number
  name := name
  write m := writeKey number kind.wireType ++ kind.write (get m)
  merge depth wireType m bytes := mergeWith kind (get m) (set · m) depth wireType bytes
  length_merge := length_mergeWith

/-- A field that may be absent. -/
def optional (number : Nat) (name : String) (kind : Kind α) (get : M → Option α)
    (set : Option α → M → M) : Field M where
  number := number
  name := name
  write m :=
    match get m with
    | none => []
    | some value => writeKey number kind.wireType ++ kind.write value
  merge depth wireType m bytes :=
    mergeWith kind ((get m).getD kind.empty) (fun value => set (some value) m) depth wireType bytes
  length_merge := length_mergeWith

/-- A field that may occur any number of times, each occurrence a value of its own. -/
def repeated (number : Nat) (name : String) (kind : Kind α) (get : M → List α)
    (set : List α → M → M) : Field M where
  number := number
  name := name
  write m := (get m).flatMap fun value => writeKey number kind.wireType ++ kind.write value
  merge depth wireType m bytes :=
    mergeWith kind kind.empty (fun value => set (get m ++ [value]) m) depth wireType bytes
  length_merge := length_mergeWith

end Field

/-- A message type: its name in errors, the message without fields, and the fields. -/
structure Schema (M : Type) where
  name : String
  empty : M
  fields : List (Field M)

namespace Schema

variable {M : Type}

/-- The bytes of a message. -/
def encode (schema : Schema M) (m : M) : Bytes :=
  schema.fields.flatMap (·.write m)

/-- The nesting that is allowed inside a message. -/
def nestingLimit : Nat := 100

/-- Merge the value behind a key into a message, or read over it if no field has its number. -/
def mergeField (schema : Schema M) (depth number : Nat) (wireType : WireType) (m : M)
    (bytes : Bytes) : Decoded M :=
  match schema.fields.find? (·.number == number) with
  | some field =>
      match field.merge depth wireType m bytes with
      | .error e => .error (e.within schema.name field.name)
      | .ok read => .ok read
  | none =>
      match skipField depth number wireType bytes with
      | .error e => .error e
      | .ok rest => .ok (m, rest)

theorem length_mergeField {schema : Schema M} {depth number : Nat} {wireType : WireType}
    {old new : M} {bytes rest : Bytes}
    (h : schema.mergeField depth number wireType old bytes = .ok (new, rest)) :
    rest.length ≤ bytes.length := by
  simp only [mergeField] at h
  split at h
  · split at h
    · cases h
    · rename_i hmerge
      cases h
      exact Field.length_merge _ hmerge
  · split at h
    · cases h
    · rename_i hskip
      cases h
      exact length_skipField hskip

/-- Merge encoded fields into a message until at most `limit` bytes are left. -/
def mergeUntil (schema : Schema M) (depth limit : Nat) (m : M) (bytes : Bytes) : Decoded M :=
  if (bytes.drop limit).isEmpty then .ok (m, bytes)
  else
    match _ : readKey bytes with
    | .error e => .error e
    | .ok ((number, wireType), rest) =>
        match _ : schema.mergeField depth number wireType m rest with
        | .error e => .error e
        | .ok (merged, behind) => schema.mergeUntil depth limit merged behind
termination_by bytes.length
decreasing_by
  exact Nat.lt_of_le_of_lt (length_mergeField ‹schema.mergeField _ _ _ _ _ = _›)
    (length_readKey ‹readKey bytes = _›)

theorem length_mergeUntil {schema : Schema M} {depth limit : Nat} {old new : M}
    {bytes rest : Bytes} (h : schema.mergeUntil depth limit old bytes = .ok (new, rest)) :
    rest.length ≤ bytes.length := by
  fun_induction mergeUntil schema depth limit old bytes generalizing new rest with
  | case1 => cases h; exact Nat.le_refl _
  | case2 => cases h
  | case3 => cases h
  | case4 m bytes hmore number wireType behindKey hkey merged behind hmerge ih =>
      exact Nat.le_trans (ih h)
        (Nat.le_trans (length_mergeField hmerge) (Nat.le_of_lt (length_readKey hkey)))

/-- The message that the bytes encode. -/
def decode (schema : Schema M) (bytes : Bytes) : Except DecodeError M :=
  (schema.mergeUntil nestingLimit 0 schema.empty bytes).map Prod.fst

/-- Read a nested message into `m`: its length, and its fields up to the end that this gives. -/
def mergeNested (schema : Schema M) (depth : Nat) (m : M) (bytes : Bytes) : Decoded M :=
  if depth = 0 then .error Fault.recursionLimit
  else
    match readVarint bytes with
    | .error e => .error e
    | .ok (length, rest) =>
        if rest.length < length then .error Fault.underflow
        else
          match schema.mergeUntil (depth - 1) (rest.length - length) m rest with
          | .error e => .error e
          | .ok (merged, behind) =>
              if behind.length = rest.length - length then .ok (merged, behind)
              else .error Fault.lengthExceeded

theorem length_mergeNested {schema : Schema M} {depth : Nat} {old new : M} {bytes rest : Bytes}
    (h : schema.mergeNested depth old bytes = .ok (new, rest)) : rest.length ≤ bytes.length := by
  simp only [mergeNested] at h
  split at h
  · cases h
  · split at h
    · cases h
    · rename_i hread
      split at h
      · cases h
      · split at h
        · cases h
        · rename_i hmerge
          split at h
          · cases h
            exact Nat.le_trans (length_mergeUntil hmerge) (Nat.le_of_lt (length_readVarint hread))
          · cases h

/-- The messages of a schema as values of a field. -/
def kind (schema : Schema M) : Kind M where
  wireType := .delimited
  empty := schema.empty
  write m := writeVarint (schema.encode m).length ++ schema.encode m
  merge := schema.mergeNested
  length_merge := length_mergeNested

end Schema

end SessionKeeper.Protobuf
