import SessionKeeper.Protobuf.Skip

/-!
# Entries of encoded messages

`Entry` is one field of an encoded message as a sender may have written it: its key and its value,
with numbers in as many groups as the sender likes. A value is complete if it has the shape of its
wire type; in a group there are complete entries up to its end key. `IsValue.skipped` says that a
complete value is read over or, if groups are nested more deeply than is allowed, refused for that
reason, whatever comes behind it.
-/

namespace SessionKeeper.Protobuf

/-! ## Varints and keys -/

/-- The bytes are groups that spell a number, at most `budget` of them. The last ones may be
zero. -/
inductive SpellsGroups : (budget : Nat) → Bytes → Nat → Prop where
  | last {budget : Nat} {b : UInt8} (h : b.toNat < 128) : SpellsGroups (budget + 1) [b] b.toNat
  | more {budget n : Nat} {b : UInt8} {later : Bytes} (h : 128 ≤ b.toNat)
      (hlater : SpellsGroups budget later n) :
      SpellsGroups (budget + 1) (b :: later) (b.toNat - 128 + 128 * n)

/-- The bytes are a varint of a number of at most 64 bits. -/
def IsVarint (bytes : Bytes) (n : Nat) : Prop :=
  SpellsGroups 10 bytes n ∧ n < UInt64.size

/-- The bytes are a key. -/
structure IsKey (bytes : Bytes) (number : Nat) (wireType : WireType) : Prop where
  isVarint : IsVarint bytes (number * 8 + wireType.code)
  notZero : number ≠ 0
  fits : number < Nat.pow 2 29

theorem SpellsGroups.read {budget n : Nat} {bytes : Bytes} (h : SpellsGroups budget bytes n)
    (rest : Bytes) : readGroups budget (bytes ++ rest) = some (n, rest) := by
  induction h with
  | last h => rw [List.singleton_append, readGroups, if_pos h]
  | more h _ ih => rw [List.cons_append, readGroups, if_neg (by omega), ih, Option.map_some]

theorem SpellsGroups.length_pos {budget n : Nat} {bytes : Bytes}
    (h : SpellsGroups budget bytes n) : 0 < bytes.length := by
  cases h <;> exact Nat.succ_pos _

theorem IsVarint.read {n : Nat} {bytes : Bytes} (h : IsVarint bytes n) (rest : Bytes) :
    readVarint (bytes ++ rest) = .ok (n, rest) := by
  rw [readVarint, h.1.read]
  exact if_pos h.2

theorem IsKey.read {number : Nat} {wireType : WireType} {bytes : Bytes}
    (h : IsKey bytes number wireType) (rest : Bytes) :
    readKey (bytes ++ rest) = .ok ((number, wireType), rest) := by
  have hcode := wireType.code_lt
  have hfits := h.fits
  have hpow : Nat.pow 2 29 * 8 = UInt32.size := by decide
  have hnumber : (number * 8 + wireType.code) / 8 = number := by omega
  have hwire : (number * 8 + wireType.code) % 8 = wireType.code := by omega
  simp only [readKey, h.isVarint.read, hwire, hnumber, WireType.ofCode?_code]
  rw [if_neg (by omega), if_neg h.notZero]

theorem IsKey.length_pos {number : Nat} {wireType : WireType} {bytes : Bytes}
    (h : IsKey bytes number wireType) : 0 < bytes.length :=
  h.isVarint.1.length_pos

/-- A number below 128 is a varint of one byte. -/
theorem is_varint_of_byte {b : UInt8} (h : b.toNat < 128) : IsVarint [b] b.toNat :=
  ⟨.last h, Nat.lt_trans h (by decide)⟩

/-- The key of a field with a number below 16 is one byte. -/
theorem is_key_of_byte {b : UInt8} {number : Nat} {wireType : WireType} (h : b.toNat < 128)
    (hkey : b.toNat = number * 8 + wireType.code) (hnumber : number ≠ 0) :
    IsKey [b] number wireType := by
  have hfits : 16 < Nat.pow 2 29 := by decide
  exact ⟨hkey ▸ is_varint_of_byte h, hnumber, by omega⟩

/-! ## Entries -/

/-- A field as it is written, with a key that belongs to it. -/
structure Entry where
  number : Nat
  wireType : WireType
  key : Bytes
  value : Bytes
  isKey : IsKey key number wireType

/-- The bytes of an entry. -/
def Entry.bytes (e : Entry) : Bytes := e.key ++ e.value

/-- The bytes have the shape of a wire type that is no group. -/
inductive IsPlain : WireType → Bytes → Prop where
  | varint {bytes : Bytes} {n : Nat} (h : IsVarint bytes n) : IsPlain .varint bytes
  | fixed32 {bytes : Bytes} (h : bytes.length = 4) : IsPlain .fixed32 bytes
  | fixed64 {bytes : Bytes} (h : bytes.length = 8) : IsPlain .fixed64 bytes
  | delimited {length content : Bytes} (h : IsVarint length content.length) :
      IsPlain .delimited (length ++ content)

/-- The bytes are a complete value behind a key with the given number. It needs at most `depth`
levels of nesting, one for itself and one for each group around a value in it. -/
inductive IsValue : (depth number : Nat) → WireType → Bytes → Prop where
  | plain {depth number : Nat} {wireType : WireType} {bytes : Bytes} (h : IsPlain wireType bytes) :
      IsValue (depth + 1) number wireType bytes
  | group {depth number : Nat} {stop : Bytes} (inner : List Entry)
      (hinner : ∀ e ∈ inner, IsValue depth e.number e.wireType e.value)
      (hstop : IsKey stop number .endGroup) :
      IsValue (depth + 1) number .startGroup (inner.flatMap Entry.bytes ++ stop)

/-- The value of an entry is complete. -/
def Entry.IsComplete (e : Entry) (depth : Nat) : Prop :=
  IsValue depth e.number e.wireType e.value

variable {depth number innermost : Nat} {outer : List Nat} {wireType : WireType}
  {bytes value rest behind : Bytes}

theorem IsPlain.no_group (h : IsPlain wireType bytes) :
    wireType ≠ .startGroup ∧ wireType ≠ .endGroup := by
  cases h <;> decide

theorem skip_bytes_append (bytes rest : Bytes) :
    skipBytes bytes.length (bytes ++ rest) = .ok rest := by
  rw [skipBytes, if_neg (by simp), List.drop_left]

theorem IsPlain.skipped (h : IsPlain wireType bytes) (rest : Bytes) :
    skipPlain wireType (bytes ++ rest) = .ok rest := by
  cases h with
  | varint h =>
      simp only [skipPlain, h.read]
      rfl
  | fixed32 h =>
      rw [skipPlain, ← h]
      exact skip_bytes_append bytes rest
  | fixed64 h =>
      rw [skipPlain, ← h]
      exact skip_bytes_append bytes rest
  | delimited h =>
      simp only [skipPlain, List.append_assoc, h.read]
      exact skip_bytes_append _ rest

/-! ## Steps through open groups -/

/-- What a key does in open groups: it closes the innermost one, opens another one, or comes before
a value that is read over. -/
theorem skip_groups_of_key (hkey : readKey bytes = .ok ((number, wireType), rest)) :
    skipGroups depth (innermost :: outer) bytes =
      if wireType = .endGroup then
        if number = innermost then skipGroups (depth + 1) outer rest
        else .error Fault.unexpectedEndGroup
      else if depth = 0 then .error Fault.recursionLimit
      else if wireType = .startGroup then
        skipGroups (depth - 1) (number :: innermost :: outer) rest
      else (skipPlain wireType rest).bind (skipGroups depth (innermost :: outer)) := by
  conv => lhs; unfold skipGroups
  split
  · next h => cases h.symm.trans hkey
  · next h =>
      cases h.symm.trans hkey
      congr 3
      split
      · next h => rw [h]; rfl
      · next h => rw [h]; rfl

theorem skip_groups_of_stop (hkey : readKey bytes = .ok ((innermost, .endGroup), rest)) :
    skipGroups depth (innermost :: outer) bytes = skipGroups (depth + 1) outer rest := by
  rw [skip_groups_of_key hkey, if_pos rfl, if_pos rfl]

theorem skip_groups_of_start (hkey : readKey bytes = .ok ((number, .startGroup), rest)) :
    skipGroups (depth + 1) (innermost :: outer) bytes =
      skipGroups depth (number :: innermost :: outer) rest := by
  rw [skip_groups_of_key hkey, if_neg (by decide), if_neg (Nat.succ_ne_zero depth), if_pos rfl,
    Nat.add_sub_cancel]

theorem skip_groups_of_plain (hkey : readKey bytes = .ok ((number, wireType), rest))
    (hvalue : wireType ≠ .startGroup ∧ wireType ≠ .endGroup)
    (hskip : skipPlain wireType rest = .ok behind) :
    skipGroups (depth + 1) (innermost :: outer) bytes =
      skipGroups (depth + 1) (innermost :: outer) behind := by
  rw [skip_groups_of_key hkey, if_neg hvalue.2, if_neg (Nat.succ_ne_zero depth),
    if_neg hvalue.1, hskip]
  rfl

theorem skip_groups_too_deep (hkey : readKey bytes = .ok ((number, wireType), rest))
    (hvalue : wireType ≠ .endGroup) :
    skipGroups 0 (innermost :: outer) bytes = .error Fault.recursionLimit := by
  rw [skip_groups_of_key hkey, if_neg hvalue, if_pos rfl]

/-! ## Complete entries are read over -/

/-- Inside open groups the bytes are read over. -/
def Passes (depth : Nat) (bytes : Bytes) : Prop :=
  ∀ (innermost : Nat) (outer : List Nat) (rest : Bytes),
    skipGroups depth (innermost :: outer) (bytes ++ rest) =
      skipGroups depth (innermost :: outer) rest

/-- Inside open groups the bytes are nested too deeply. -/
def TooDeep (depth : Nat) (bytes : Bytes) : Prop :=
  ∀ (innermost : Nat) (outer : List Nat) (rest : Bytes),
    skipGroups depth (innermost :: outer) (bytes ++ rest) = .error Fault.recursionLimit

theorem Passes.append {later : Bytes} (h : Passes depth bytes) (hlater : Passes depth later) :
    Passes depth (bytes ++ later) := by
  intro innermost outer rest
  rw [List.append_assoc, h, hlater]

theorem TooDeep.append (h : TooDeep depth bytes) (later : Bytes) :
    TooDeep depth (bytes ++ later) := by
  intro innermost outer rest
  rw [List.append_assoc, h]

theorem Passes.then_too_deep {later : Bytes} (h : Passes depth bytes)
    (hlater : TooDeep depth later) : TooDeep depth (bytes ++ later) := by
  intro innermost outer rest
  rw [List.append_assoc, h, hlater]

/-- Entries one after the other pass if each of them does, and else the first that does not is
nested too deeply. -/
theorem entries_pass_or_too_deep {needed : Nat} {entries : List Entry}
    (h : ∀ e ∈ entries, Passes depth e.bytes ∨ depth < needed ∧ TooDeep depth e.bytes) :
    Passes depth (entries.flatMap Entry.bytes) ∨
      depth < needed ∧ TooDeep depth (entries.flatMap Entry.bytes) := by
  induction entries with
  | nil => exact .inl fun _ _ _ => rfl
  | cons first later ih =>
      rw [List.flatMap_cons]
      obtain hfirst | ⟨hless, hfirst⟩ := h first List.mem_cons_self
      · obtain hlater | ⟨hless, hlater⟩ := ih fun e he => h e (List.mem_cons_of_mem first he)
        · exact .inl (hfirst.append hlater)
        · exact .inr ⟨hless, hfirst.then_too_deep hlater⟩
      · exact .inr ⟨hless, hfirst.append _⟩

/-- The end key of a group brings back the level that its start key took. -/
theorem Passes.skip_group (h : Passes depth bytes) {stop : Bytes}
    (hstop : IsKey stop number .endGroup) (rest : Bytes) :
    skipGroups depth (number :: outer) (bytes ++ stop ++ rest) =
      skipGroups (depth + 1) outer rest := by
  rw [List.append_assoc, h]
  exact skip_groups_of_stop (hstop.read rest)

/-- Inside open groups a complete entry passes, or it needs more levels than are left. The induction
is on the groups in it, each of which takes a level from what is in it. -/
theorem IsValue.pass_or_too_deep {needed : Nat} (h : IsValue needed number wireType value)
    {key : Bytes} (hkey : IsKey key number wireType) (depth : Nat) :
    Passes depth (key ++ value) ∨ depth < needed ∧ TooDeep depth (key ++ value) := by
  induction h generalizing key depth with
  | plain h =>
      cases depth with
      | zero =>
          refine .inr ⟨Nat.succ_pos _, fun innermost outer rest => ?_⟩
          rw [List.append_assoc]
          exact skip_groups_too_deep (hkey.read _) h.no_group.2
      | succ depth =>
          refine .inl fun innermost outer rest => ?_
          rw [List.append_assoc]
          exact skip_groups_of_plain (hkey.read _) h.no_group (h.skipped rest)
  | group inner _ hstop ih =>
      cases depth with
      | zero =>
          refine .inr ⟨Nat.succ_pos _, fun innermost outer rest => ?_⟩
          rw [List.append_assoc]
          exact skip_groups_too_deep (hkey.read _) (by decide)
      | succ depth =>
          obtain hpass | ⟨hless, hdeep⟩ :=
            entries_pass_or_too_deep fun e he => ih e he e.isKey depth
          · refine .inl fun innermost outer rest => ?_
            rw [List.append_assoc, skip_groups_of_start (hkey.read _), hpass.skip_group hstop]
          · refine .inr ⟨Nat.succ_lt_succ hless, fun innermost outer rest => ?_⟩
            rw [List.append_assoc, skip_groups_of_start (hkey.read _)]
            exact hdeep.append _ _ _ _

/-- A complete value is read over, or it needs more levels than are left and is refused. -/
theorem IsValue.skipped {needed : Nat} (h : IsValue needed number wireType value) (depth : Nat) :
    (∀ rest, skipField depth number wireType (value ++ rest) = .ok rest) ∨
      depth < needed ∧
        ∀ rest, skipField depth number wireType (value ++ rest) = .error Fault.recursionLimit := by
  cases depth with
  | zero =>
      refine .inr ⟨by cases h <;> exact Nat.succ_pos _, fun rest => ?_⟩
      rw [skipField, if_pos rfl]
  | succ depth =>
      cases h with
      | plain h =>
          refine .inl fun rest => ?_
          rw [skipField, if_neg (Nat.succ_ne_zero depth), if_neg h.no_group.1]
          exact h.skipped rest
      | group inner hinner hstop =>
          obtain hpass | ⟨hless, hdeep⟩ :=
            entries_pass_or_too_deep fun e he => (hinner e he).pass_or_too_deep e.isKey depth
          · refine .inl fun rest => ?_
            rw [skipField, if_neg (Nat.succ_ne_zero depth), if_pos rfl, Nat.add_sub_cancel,
              hpass.skip_group hstop, skipGroups]
          · refine .inr ⟨Nat.succ_lt_succ hless, fun rest => ?_⟩
            rw [skipField, if_neg (Nat.succ_ne_zero depth), if_pos rfl, Nat.add_sub_cancel]
            exact hdeep.append _ _ _ _

end SessionKeeper.Protobuf
