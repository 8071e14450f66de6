import SessionKeeper.Protobuf.Enumeration

/-!
# Reading back what was written

A kind reads back if a value that was written is the one that is read, whatever comes behind it. A
field merges what it wrote entry by entry, and a schema whose fields have different numbers merges
what they wrote field by field. `Schema.Faithful.decode_encode` puts this together: if the fields of
a schema carry the empty message over to any given one, then every message is read back from its
encoding.

A length is read only if it has at most 64 bits, so what is written has fewer than `2 ^ 64` bytes.
-/

namespace SessionKeeper.Protobuf

/-! ## Varints and keys -/

/-- A number of at most `7 * (budget + 1)` bits is read back from its groups. -/
theorem read_groups_write_varint {budget n : Nat} (h : n < Nat.pow 128 (budget + 1))
    (rest : Bytes) : readGroups (budget + 1) (writeVarint n ++ rest) = some (n, rest) := by
  induction budget generalizing n with
  | zero =>
      have hsmall : n < 128 := h
      have hbyte : (UInt8.ofNat n).toNat = n := by
        rw [UInt8.toNat_ofNat']
        omega
      rw [writeVarint, if_pos hsmall, List.singleton_append, readGroups, hbyte, if_pos hsmall]
  | succ budget ih =>
      rw [writeVarint]
      split
      · next hsmall =>
          have hbyte : (UInt8.ofNat n).toNat = n := by
            rw [UInt8.toNat_ofNat']
            omega
          rw [List.singleton_append, readGroups, hbyte, if_pos hsmall]
      · next hlarge =>
          -- The first byte holds the low seven bits, and the other groups the rest.
          have hbyte : (UInt8.ofNat (n % 128 + 128)).toNat = n % 128 + 128 := by
            rw [UInt8.toNat_ofNat']
            omega
          have hhigh : n / 128 < Nat.pow 128 (budget + 1) :=
            (Nat.div_lt_iff_lt_mul (by decide)).mpr h
          rw [List.cons_append, readGroups, hbyte, if_neg (by omega), ih hhigh, Option.map_some,
            Nat.add_sub_cancel, Nat.mod_add_div]

/-- A number of 64 bits is read back. -/
theorem read_varint_write_varint {n : Nat} (h : n < UInt64.size) (rest : Bytes) :
    readVarint (writeVarint n ++ rest) = .ok (n, rest) := by
  have hgroups : n < Nat.pow 128 (9 + 1) := Nat.lt_trans h (by decide)
  rw [readVarint, read_groups_write_varint hgroups]
  exact if_pos h

/-- A key is read back. -/
theorem read_key_write_key {number : Nat} {wireType : WireType} (hsome : number ≠ 0)
    (hfits : number < Nat.pow 2 29) (rest : Bytes) :
    readKey (writeKey number wireType ++ rest) = .ok ((number, wireType), rest) := by
  have hcode := wireType.code_lt
  have hpow : Nat.pow 2 29 * 8 = UInt32.size := by decide
  have hsize : UInt32.size < UInt64.size := by decide
  have hnumber : (number * 8 + wireType.code) / 8 = number := by omega
  have hwire : (number * 8 + wireType.code) % 8 = wireType.code := by omega
  simp only [readKey, writeKey, read_varint_write_varint
    (show number * 8 + wireType.code < UInt64.size by omega), hwire, hnumber,
    WireType.ofCode?_code]
  rw [if_neg (by omega), if_neg hsome]

/-- A key is not empty. -/
theorem length_write_key_pos (number : Nat) (wireType : WireType) :
    0 < (writeKey number wireType).length := by
  rw [writeKey, writeVarint]
  split <;> simp

/-! ## Kinds -/

namespace Kind

variable {α : Type}

/-- A value that was written is read back, and what comes behind it is left. -/
def ReadsBack (kind : Kind α) (depth : Nat) : Prop :=
  ∀ (value : α) (rest : Bytes), (kind.write value).length < UInt64.size →
    kind.merge depth kind.empty (kind.write value ++ rest) = .ok (value, rest)

theorem of_varint_reads_back {empty : α} {toNat : α → Nat} {ofNat : Nat → α}
    (hfits : ∀ value, toNat value < UInt64.size) (hback : ∀ value, ofNat (toNat value) = value)
    (depth : Nat) : (ofVarint empty toNat ofNat).ReadsBack depth := by
  intro value rest _
  simp only [ofVarint, read_varint_write_varint (hfits value), Except.map, hback]

theorem uint32_reads_back (depth : Nat) : uint32.ReadsBack depth :=
  of_varint_reads_back (fun value => Nat.lt_trans value.toNat_lt (by decide))
    (fun _ => UInt32.ofNat_toNat) depth

theorem uint64_reads_back (depth : Nat) : uint64.ReadsBack depth :=
  of_varint_reads_back UInt64.toNat_lt (fun _ => UInt64.ofNat_toNat) depth

theorem bool_reads_back (depth : Nat) : bool.ReadsBack depth :=
  of_varint_reads_back (fun value => by cases value <;> decide)
    (fun value => by cases value <;> rfl) depth

/-- The low 32 bits of a sign extension are the number itself. -/
theorem of_sign_extended (value : Int32) :
    (UInt32.ofNat value.toInt64.toUInt64.toNat).toInt32 = value := by
  apply Int32.toBitVec_inj.mp
  simp only [UInt32.ofNat_uInt64ToNat, UInt32.toBitVec_toInt32, UInt64.toBitVec_toUInt32,
    Int64.toBitVec_toUInt64, Int32.toBitVec_toInt64]
  ext i hi
  have hwide : i < 64 := by omega
  rw [BitVec.getElem_setWidth, BitVec.getLsbD_signExtend, decide_eq_true hwide, if_pos hi,
    Bool.true_and, BitVec.getLsbD_eq_getElem hi]

theorem enumeration_reads_back (first : Int32) (depth : Nat) :
    (enumeration first).ReadsBack depth := by
  unfold enumeration
  exact of_varint_reads_back (fun value => value.toInt64.toUInt64.toNat_lt) of_sign_extended depth

/-- Bytes behind their length are read back. -/
theorem read_delimited_of_written {value : Bytes} (h : value.length < UInt64.size) (rest : Bytes) :
    readDelimited (writeVarint value.length ++ (value ++ rest)) = .ok (value, rest) := by
  simp only [readDelimited, read_varint_write_varint h]
  rw [if_neg (by simp), List.take_left, List.drop_left]

theorem bytes_reads_back (depth : Nat) : bytes.ReadsBack depth := by
  intro value rest hsize
  simp only [bytes, List.length_append, List.append_assoc] at *
  exact read_delimited_of_written (by omega) rest

theorem string_reads_back (depth : Nat) : string.ReadsBack depth := by
  intro value rest hsize
  simp only [string, List.length_append, List.append_assoc] at *
  rw [read_delimited_of_written (by omega)]
  simp only [Text.ofUtf8?_utf8]

end Kind

/-! ## Fields -/

/-- A part of a message can be looked at and replaced. -/
structure IsPart {M α : Type} (get : M → α) (set : α → M → M) : Prop where
  get_set : ∀ value m, get (set value m) = value
  set_get : ∀ m, set (get m) m = m
  set_set : ∀ value other m, set value (set other m) = set value m

namespace Field

variable {M α : Type} {depth number : Nat} {name : String} {kind : Kind α} {m old between new : M}

/-- The bytes are entries of a field, and merging them one after the other carries `old` over to
`new`. -/
inductive Merges (f : Field M) (depth : Nat) : M → Bytes → M → Prop where
  | nil (old : M) : Merges f depth old [] old
  | cons {old between new : M} {wireType : WireType} {value later : Bytes}
      (hvalue : ∀ rest, f.merge depth wireType old (value ++ rest) = .ok (between, rest))
      (hlater : Merges f depth between later new) :
      Merges f depth old (writeKey f.number wireType ++ value ++ later) new

theorem Merges.single {f : Field M} {wireType : WireType} {value : Bytes}
    (hvalue : ∀ rest, f.merge depth wireType old (value ++ rest) = .ok (new, rest)) :
    f.Merges depth old (writeKey f.number wireType ++ value) new := by
  rw [← List.append_nil (writeKey f.number wireType ++ value)]
  exact .cons hvalue (.nil new)

/-- What a field writes of `m` carries `old` over to `new`. -/
def Carries (f : Field M) (depth : Nat) (m old new : M) : Prop :=
  (f.write m).length < UInt64.size → f.Merges depth old (f.write m) new

/-- A value that is read back is merged into a message that has none. -/
theorem merge_with_of_reads_back (hkind : kind.ReadsBack depth) {value : α}
    (hsize : (kind.write value).length < UInt64.size) (put : α → M) (rest : Bytes) :
    mergeWith kind kind.empty put depth kind.wireType (kind.write value ++ rest) =
      .ok (put value, rest) := by
  rw [mergeWith, if_pos rfl, hkind value rest hsize]
  rfl

theorem required_carries {get : M → α} {set : α → M → M} (hkind : kind.ReadsBack depth)
    (hold : get old = kind.empty) :
    (required number name kind get set).Carries depth m old (set (get m) old) := by
  intro hsize
  simp only [required, List.length_append] at hsize
  refine .single fun rest => ?_
  simp only [required, hold]
  exact merge_with_of_reads_back hkind (by omega) (set · old) rest

theorem optional_carries {get : M → Option α} {set : Option α → M → M}
    (hkind : kind.ReadsBack depth) (hold : get old = none) (hsame : set none old = old) :
    (optional number name kind get set).Carries depth m old (set (get m) old) := by
  intro hsize
  simp only [optional] at hsize ⊢
  cases hvalue : get m with
  | none =>
      rw [hsame]
      exact .nil old
  | some value =>
      simp only [hvalue, List.length_append] at hsize
      refine .single fun rest => ?_
      simp only [hold, Option.getD_none]
      exact merge_with_of_reads_back hkind (by omega) (fun value => set (some value) old) rest

/-- The values of a repeated field are merged one after the other. The induction is on those that
are still to come, with the ones before them in the message already. -/
theorem repeated_carries {get : M → List α} {set : List α → M → M}
    (hkind : kind.ReadsBack depth) (hpart : IsPart get set) (hold : get old = []) :
    (repeated number name kind get set).Carries depth m old (set (get m) old) := by
  have hvalues : ∀ (values : List α) (old : M),
      (values.flatMap fun value => writeKey number kind.wireType ++ kind.write value).length <
          UInt64.size →
        (repeated number name kind get set).Merges depth old
          (values.flatMap fun value => writeKey number kind.wireType ++ kind.write value)
          (set (get old ++ values) old) := by
    intro values
    induction values with
    | nil =>
        intro old _
        rw [List.append_nil, hpart.set_get]
        exact .nil old
    | cons value values ih =>
        intro old hsize
        simp only [List.flatMap_cons, List.length_append] at hsize ⊢
        have hlater := ih (set (get old ++ [value]) old) (by omega)
        rw [hpart.get_set, hpart.set_set, List.append_assoc, List.singleton_append] at hlater
        refine .cons (fun rest => ?_) hlater
        exact merge_with_of_reads_back hkind (by omega)
          (fun value => set (get old ++ [value]) old) rest
  intro hsize
  have hmerges := hvalues (get m) old hsize
  rwa [hold, List.nil_append] at hmerges

end Field

/-! ## Schemas -/

namespace Schema

variable {M : Type} {schema : Schema M} {depth : Nat} {f : Field M} {m old between new : M}

/-- The fields have different numbers, and these fit into keys. -/
structure WellNumbered (schema : Schema M) : Prop where
  distinct : (schema.fields.map Field.number).Nodup
  fit : ∀ number ∈ schema.fields.map Field.number, number ≠ 0 ∧ number < Nat.pow 2 29

/-- A field is found by its number. -/
theorem WellNumbered.find (h : schema.WellNumbered) (hf : f ∈ schema.fields) :
    schema.fields.find? (·.number == f.number) = some f := by
  have hdistinct := h.distinct
  generalize schema.fields = fields at hf hdistinct
  induction fields with
  | nil => cases hf
  | cons first later ih =>
      rw [List.map_cons, List.nodup_cons] at hdistinct
      rw [List.find?_cons]
      cases hf with
      | head => simp
      | tail _ hf =>
          have hother : first.number ≠ f.number := fun hsame =>
            hdistinct.1 (hsame ▸ List.mem_map_of_mem hf)
          rw [beq_eq_false_iff_ne.mpr hother]
          exact ih hf hdistinct.2

/-- As long as more than the limit is left, the next field is merged, and then the others. -/
theorem merge_until_of_key {limit number : Nat} {wireType : WireType} {bytes rest : Bytes}
    (hmore : limit < bytes.length) (hkey : readKey bytes = .ok ((number, wireType), rest)) :
    schema.mergeUntil depth limit old bytes =
      (schema.mergeField depth number wireType old rest).bind fun merged =>
        schema.mergeUntil depth limit merged.1 merged.2 := by
  have hsome : (bytes.drop limit).isEmpty = false := by
    rw [List.isEmpty_eq_false_iff, ← List.length_pos_iff, List.length_drop]
    omega
  conv => lhs; unfold mergeUntil
  rw [hsome, if_neg Bool.false_ne_true]
  split
  · next h => cases h.symm.trans hkey
  · next h =>
      cases h.symm.trans hkey
      split
      · next h => rw [h]; rfl
      · next h => rw [h]; rfl

theorem merge_until_of_more {limit number : Nat} {wireType : WireType} {bytes rest behind : Bytes}
    (hmore : limit < bytes.length) (hkey : readKey bytes = .ok ((number, wireType), rest))
    (hmerge : schema.mergeField depth number wireType old rest = .ok (new, behind)) :
    schema.mergeUntil depth limit old bytes = schema.mergeUntil depth limit new behind := by
  rw [merge_until_of_key hmore hkey, hmerge]
  rfl

/-- Merging ends at the limit. -/
theorem merge_until_of_enough {limit : Nat} {bytes : Bytes} (h : bytes.length ≤ limit) :
    schema.mergeUntil depth limit old bytes = .ok (old, bytes) := by
  rw [mergeUntil, List.drop_of_length_le h]
  rfl

/-- The bytes are merged where they come next: they carry `old` over to `new`. -/
def Merges (schema : Schema M) (depth : Nat) (old : M) (bytes : Bytes) (new : M) : Prop :=
  ∀ (limit : Nat) (rest : Bytes), limit ≤ rest.length →
    schema.mergeUntil depth limit old (bytes ++ rest) = schema.mergeUntil depth limit new rest

theorem Merges.append {bytes later : Bytes} (h : schema.Merges depth old bytes between)
    (hlater : schema.Merges depth between later new) :
    schema.Merges depth old (bytes ++ later) new := by
  intro limit rest hlimit
  rw [List.append_assoc, h limit (later ++ rest) (by rw [List.length_append]; omega),
    hlater limit rest hlimit]

/-- The entries of a field are merged by the schema that it belongs to. -/
theorem merges_of_field (hschema : schema.WellNumbered) (hf : f ∈ schema.fields) {bytes : Bytes}
    (h : f.Merges depth old bytes new) : schema.Merges depth old bytes new := by
  obtain ⟨hsome, hfits⟩ := hschema.fit _ (List.mem_map_of_mem hf)
  induction h with
  | nil => exact fun _ _ _ => rfl
  | @cons old between new wireType value later hvalue _ ih =>
      refine Merges.append (fun limit rest hlimit => ?_) ih
      have hkey := length_write_key_pos f.number wireType
      refine merge_until_of_more ?_ (by
        rw [List.append_assoc]
        exact read_key_write_key hsome hfits (value ++ rest)) ?_
      · simp only [List.length_append]
        omega
      · simp only [mergeField, hschema.find hf, hvalue]

/-- Fields that carry `old` over to `new` one after the other, with what they write of `m`. -/
inductive Carry (depth : Nat) (m : M) : List (Field M) → M → M → Prop where
  | nil (old : M) : Carry depth m [] old old
  | cons {f : Field M} {later : List (Field M)} {old between new : M}
      (hfirst : f.Carries depth m old between) (hlater : Carry depth m later between new) :
      Carry depth m (f :: later) old new

/-- What fields write is merged by the schema that they belong to. -/
theorem Carry.merges (hschema : schema.WellNumbered) {fields : List (Field M)}
    (h : Carry depth m fields old new) (hfields : fields ⊆ schema.fields)
    (hsize : (fields.flatMap (·.write m)).length < UInt64.size) :
    schema.Merges depth old (fields.flatMap (·.write m)) new := by
  induction h with
  | nil => exact fun _ _ _ => rfl
  | cons hfirst _ ih =>
      obtain ⟨hmem, hlater⟩ := List.cons_subset.mp hfields
      rw [List.flatMap_cons, List.length_append] at hsize
      rw [List.flatMap_cons]
      exact (merges_of_field hschema hmem (hfirst (by omega))).append (ih hlater (by omega))

/-- The fields of the schema have different numbers, and what they write of a message carries the
empty message over to it. -/
structure Faithful (schema : Schema M) (depth : Nat) : Prop where
  numbered : schema.WellNumbered
  carry : ∀ m, Carry depth m schema.fields schema.empty m

/-- An encoded message is merged into the empty one. -/
theorem Faithful.merges (h : schema.Faithful depth)
    (hsize : (schema.encode m).length < UInt64.size) :
    schema.Merges depth schema.empty (schema.encode m) m :=
  (h.carry m).merges h.numbered (fun _ hmem => hmem) hsize

/-- A message inside another one is read back, if that may be nested one level deeper. -/
theorem Faithful.kind_reads_back (h : schema.Faithful depth) :
    schema.kind.ReadsBack (depth + 1) := by
  intro m rest hsize
  simp only [kind, List.length_append, List.append_assoc] at hsize ⊢
  have hlength : (schema.encode m).length < UInt64.size := by omega
  have hleft : (schema.encode m ++ rest).length - (schema.encode m).length = rest.length := by
    simp
  simp only [mergeNested, read_varint_write_varint hlength, hleft, Nat.add_sub_cancel,
    h.merges hlength rest.length rest (Nat.le_refl _), merge_until_of_enough (Nat.le_refl _)]
  rw [if_neg (Nat.succ_ne_zero depth), if_neg (by simp), if_pos trivial]

/-- Every message is read back from its encoding. -/
theorem Faithful.decode_encode (h : schema.Faithful nestingLimit) (m : M)
    (hsize : (schema.encode m).length < UInt64.size) :
    schema.decode (schema.encode m) = .ok m := by
  have hend : schema.mergeUntil nestingLimit 0 m [] = .ok (m, []) :=
    merge_until_of_enough (Nat.le_refl 0)
  have hmerges := h.merges hsize 0 [] (Nat.le_refl 0)
  rw [List.append_nil, hend] at hmerges
  rw [decode, hmerges]
  rfl

end Schema

end SessionKeeper.Protobuf
