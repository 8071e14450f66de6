import Mathlib.Logic.Basic
import SessionKeeper.Message.Server
import SessionKeeper.Proofs.Outcome
import SessionKeeper.Proofs.Protobuf.Padding

/-!
# Fields of server messages that are not declared

A server may send fields that the schemas of its messages do not declare, for instance those of the
other types of a value. `undeclared_fields_ignored` says that such fields do not change what is
decoded, nor the client id that a notice tells. What is in a notice is kept as bytes; fields put in
there are kept with it, and only what it tells stays the same.
-/

namespace SessionKeeper

open Protobuf Protobuf.Field Protobuf.Kind

namespace Payload

/-! ## Where payloads are padded inside -/

/-- A string in a value may be padded. -/
def Scalar.inside (depth : Nat) : Inside := fun number =>
  if number = 9 then some (Padded ScalarString.schema .nowhere depth) else none

/-- The values of a change may be padded, and the strings in them. -/
def SessionStateChanged.inside (depth : Nat) : Inside := fun number =>
  if number = 2 then some (Padded Scalar.schema (Scalar.inside depth) (depth + 1)) else none

/-- One payload of a notice comes from another one by padding a change of the session's state. Both
may have the same bytes behind it. -/
inductive PaddedChange : Bytes → Bytes → Prop where
  | intro {plain padded : Bytes} (tail : Bytes)
      (h : Padded SessionStateChanged.schema (SessionStateChanged.inside 98) Schema.nestingLimit
        plain padded) :
      PaddedChange (plain ++ tail) (padded ++ tail)

/-- What is in a notice may be padded as a change of the session's state. -/
def NoticeFrame.inside : Inside := fun number => if number = 3 then some PaddedChange else none

/-! ## Padding is tolerated -/

theorem nowhere_declared {M : Type} {schema : Schema M} (number : Nat)
    (h : Inside.nowhere number ≠ none) : number ∈ schema.fields.map Field.number :=
  absurd rfl h

/-- A place where something may be padded inside is the one that is named. -/
theorem inside_ne_none {number place : Nat} {related : Bytes → Bytes → Prop}
    (h : (if number = place then some related else none) ≠ none) : number = place :=
  Classical.byContradiction fun hne => h (if_neg hne)

variable {depth : Nat}

theorem Ok.tolerates : Ok.schema.Tolerates .nowhere depth Eq where
  fields := by
    simp only [Ok.schema, List.forall_mem_cons]
    exact ⟨optional_tolerates string_at_once rfl fun _ _ => rfl, nofun⟩
  declared := nowhere_declared

theorem Error.tolerates : Error.schema.Tolerates .nowhere depth Eq where
  fields := by
    simp only [Error.schema, List.forall_mem_cons]
    exact ⟨optional_tolerates of_varint_at_once rfl fun _ h => by rw [h],
      required_tolerates of_varint_at_once rfl fun _ h => by rw [h],
      required_tolerates string_at_once rfl fun _ h => by rw [h],
      required_tolerates string_at_once rfl fun _ h => by rw [h], nofun⟩
  declared := nowhere_declared

theorem AuthenticateContinue.tolerates :
    AuthenticateContinue.schema.Tolerates .nowhere depth Eq where
  fields := by
    simp only [AuthenticateContinue.schema, List.forall_mem_cons]
    exact ⟨required_tolerates bytes_at_once rfl fun _ _ => rfl, nofun⟩
  declared := nowhere_declared

theorem NoticeFrame.tolerates : NoticeFrame.schema.Tolerates .nowhere depth Eq where
  fields := by
    simp only [NoticeFrame.schema, List.forall_mem_cons]
    exact ⟨required_tolerates of_varint_at_once rfl fun _ h => by rw [h],
      optional_tolerates of_varint_at_once rfl fun _ h => by rw [h],
      optional_tolerates bytes_at_once rfl fun _ h => by rw [h], nofun⟩
  declared := nowhere_declared

theorem ScalarString.tolerates : ScalarString.schema.Tolerates .nowhere depth Eq where
  fields := by
    simp only [ScalarString.schema, List.forall_mem_cons]
    exact ⟨required_tolerates bytes_at_once rfl fun _ h => by rw [h],
      optional_tolerates of_varint_at_once rfl fun _ h => by rw [h], nofun⟩
  declared := nowhere_declared

theorem Scalar.tolerates : Scalar.schema.Tolerates (Scalar.inside depth) (depth + 1) Eq where
  fields := by
    simp only [Scalar.schema, List.forall_mem_cons]
    exact ⟨required_tolerates of_varint_at_once rfl fun _ h => by rw [h],
      optional_tolerates of_varint_at_once rfl fun _ h => by rw [h],
      optional_tolerates of_varint_at_once rfl fun _ h => by rw [h],
      optional_tolerates_nested rfl rfl
        (by rintro m _ rfl; exact ScalarString.tolerates.kind_reads_alike _)
        fun h h' => by rw [h, h'], nofun⟩
  declared number h := inside_ne_none h ▸ by decide

theorem SessionStateChanged.tolerates :
    SessionStateChanged.schema.Tolerates (SessionStateChanged.inside depth) (depth + 2) Eq where
  fields := by
    simp only [SessionStateChanged.schema, List.forall_mem_cons]
    exact ⟨required_tolerates of_varint_at_once rfl fun _ h => by rw [h],
      repeated_tolerates_nested rfl rfl (Scalar.tolerates.kind_reads_alike _)
        fun h h' => by rw [h, h'], nofun⟩
  declared number h := inside_ne_none h ▸ by decide

end Payload

namespace ServerMessage

open Payload

variable {type : UInt32} {isLocal : Bool} {plain padded payload payload' : Bytes}

/-! ## Notices -/

/-- In notices of the same type the payloads tell the same client id, or none. -/
def TellSame (payload payload' : Bytes) : Prop :=
  ∀ (type : UInt32) (isLocal : Bool),
    assignedClientId (.notice type isLocal payload') =
      assignedClientId (.notice type isLocal payload)

theorem tell_same_of_padded (h : PaddedChange payload payload') : TellSame payload payload' := by
  obtain ⟨tail, h⟩ := h
  intro type isLocal
  have hdecode := SessionStateChanged.tolerates.decode_eq h tail
  simp only [assignedClientId, hdecode]

/-- The notices have the same type and concern the same sessions, and what is in them tells the same
client id. -/
structure SameNotice (m m' : NoticeFrame) : Prop where
  type : m'.type = m.type
  scope : m'.scope = m.scope
  tell : TellSame (m.payload.getD []) (m'.payload.getD [])

theorem notice_frame_tolerates {depth : Nat} :
    NoticeFrame.schema.Tolerates NoticeFrame.inside depth SameNotice where
  fields := by
    simp only [NoticeFrame.schema, List.forall_mem_cons]
    refine ⟨?_, ?_, ?_, nofun⟩
    · exact required_tolerates of_varint_at_once rfl fun _ h => ⟨rfl, h.scope, h.tell⟩
    · exact optional_tolerates of_varint_at_once rfl fun _ h => ⟨h.type, rfl, h.tell⟩
    · have hread (old old' : Bytes) : bytes.ReadsAlike depth PaddedChange TellSame old old' :=
        fun h hlength hlength' => .read (tell_same_of_padded h) (read_delimited_of_varint hlength)
          (read_delimited_of_varint hlength')
      exact optional_tolerates_nested rfl rfl (fun _ => hread _ _)
        fun h htell => ⟨h.type, h.scope, htell⟩
  declared number h := inside_ne_none h ▸ by decide

/-- A notice that is padded at any level is decoded into one that tells the same client id, or fails
with the same error. -/
theorem notice_padded_throughout
    (h : Padded NoticeFrame.schema NoticeFrame.inside Schema.nestingLimit plain padded) :
    (∃ type isLocal payload payload', ofFrame ⟨11, plain⟩ = .ok (.notice type isLocal payload) ∧
        ofFrame ⟨11, padded⟩ = .ok (.notice type isLocal payload') ∧
        TellSame payload payload') ∨
      ∃ e, ofFrame ⟨11, plain⟩ = .error e ∧ ofFrame ⟨11, padded⟩ = .error e := by
  have hempty : SameNotice NoticeFrame.schema.empty NoticeFrame.schema.empty :=
    ⟨rfl, rfl, fun _ _ => rfl⟩
  obtain ⟨m, m', hsame, hdecode, hdecode'⟩ | ⟨e, hdecode, hdecode'⟩ :=
    notice_frame_tolerates.decode_related h hempty
  · refine .inl ⟨m.type, m.scope == some localScope, m.payload.getD [], m'.payload.getD [], ?_, ?_,
      hsame.tell⟩
    · show decodePayload _ _ _ = _
      rw [decodePayload, hdecode]
    · show decodePayload _ _ _ = _
      rw [decodePayload, hdecode']
      simp only [hsame.type, hsame.scope]
  · refine .inr ⟨.malformed e.text, ?_, ?_⟩
    · show decodePayload _ _ _ = _
      rw [decodePayload, hdecode]
    · show decodePayload _ _ _ = _
      rw [decodePayload, hdecode']

/-! ## Messages -/

/-- Fields are put in between those of a message. -/
abbrev PaddedBetween {M : Type} (schema : Schema M) : Bytes → Bytes → Prop :=
  Padded schema .nowhere Schema.nestingLimit

theorem decode_payload_padded {M : Type} {schema : Schema M} {build : M → ServerMessage}
    (hschema : schema.Tolerates .nowhere Schema.nestingLimit Eq)
    (h : PaddedBetween schema plain padded) (tail : Bytes) :
    decodePayload schema (padded ++ tail) build = decodePayload schema (plain ++ tail) build := by
  rw [decodePayload, decodePayload, hschema.decode_eq h tail]

theorem of_frame_other {id : UInt8} (hid : id ∉ [0, 1, 2, 3, 4, 11]) (payload : Bytes) :
    ofFrame ⟨id, payload⟩ = .ok (.other id payload) := by
  simp only [List.mem_cons, List.not_mem_nil, or_false, not_or] at hid
  obtain ⟨hok, herror, hcapabilities, hcontinue, hauthenticated, hnotice⟩ := hid
  simp only [ofFrame, okId, errorId, capabilitiesId, authenticateContinueId, authenticateOkId,
    noticeId, hok, herror, hcapabilities, hcontinue, hauthenticated, hnotice, if_false]

/-! ## Fields with small numbers -/

/-- The entry of a field with a small number that has a small number in it. -/
def smallEntry (number : Nat) (value : UInt8) (h : 0 < number ∧ number < 16) : Entry where
  number := number
  wireType := .varint
  key := [UInt8.ofNat (number * 8)]
  value := [value]
  isKey := by
    have hbyte : (UInt8.ofNat (number * 8)).toNat = number * 8 := by
      rw [UInt8.toNat_ofNat']
      omega
    exact is_key_of_byte (by omega) hbyte (by omega)

theorem small_entry_complete {number : Nat} {value : UInt8} {h : 0 < number ∧ number < 16}
    (hvalue : value.toNat < 128) (depth : Nat) :
    (smallEntry number value h).IsComplete (depth + 1) :=
  .plain (.varint (is_varint_of_byte hvalue))

/-- A change of the client id to 7 is padded with a group, and its value with a signed number. -/
theorem padded_client_id :
    PaddedChange [8, 11, 18, 4, 8, 2, 24, 7]
      [8, 11, 43, 13, 1, 2, 3, 4, 44, 18, 6, 8, 2, 16, 5, 24, 7] := by
  have hscalar : Padded Scalar.schema (Scalar.inside 98) 99 [8, 2, 24, 7] [8, 2, 16, 5, 24, 7] :=
    .keep (smallEntry 1 2 (by decide)) (small_entry_complete (by decide) 0) nofun <|
      .insert (smallEntry 2 5 (by decide)) (by decide) (small_entry_complete (by decide) 98) <|
        .keep (smallEntry 3 7 (by decide)) (small_entry_complete (by decide) 0) nofun .nil
  have hkey : IsKey [18] 2 .delimited := is_key_of_byte (by decide) rfl (by decide)
  have hlength : IsVarint [4] 4 := is_varint_of_byte (by decide)
  have hlength' : IsVarint [6] 6 := is_varint_of_byte (by decide)
  have hstart : IsKey [43] 5 .startGroup := is_key_of_byte (by decide) rfl (by decide)
  have hstop : IsKey [44] 5 .endGroup := is_key_of_byte (by decide) rfl (by decide)
  let fixed : Entry := ⟨1, .fixed32, [13], [1, 2, 3, 4], is_key_of_byte (by decide) rfl (by decide)⟩
  have hgroup : IsValue 100 5 .startGroup [13, 1, 2, 3, 4, 44] :=
    .group [fixed] (List.forall_mem_singleton.mpr (.plain (.fixed32 rfl))) hstop
  have hundeclared : 5 ∉ SessionStateChanged.schema.fields.map Field.number := by decide
  exact .intro [] <|
    .keep (smallEntry 1 11 (by decide)) (small_entry_complete (by decide) 0) nofun <|
      .insert ⟨5, .startGroup, [43], _, hstart⟩ hundeclared hgroup <|
        .nested hkey hlength hlength' rfl hscalar .nil

/-- A notice of such a change is padded as well, with a number of its own. -/
theorem padded_notice :
    Padded NoticeFrame.schema NoticeFrame.inside Schema.nestingLimit
      [8, 3, 26, 8, 8, 11, 18, 4, 8, 2, 24, 7]
      [8, 3, 32, 1, 26, 17, 8, 11, 43, 13, 1, 2, 3, 4, 44, 18, 6, 8, 2, 16, 5, 24, 7] := by
  have hkey : IsKey [26] 3 .delimited := is_key_of_byte (by decide) rfl (by decide)
  have hlength : IsVarint [8] 8 := is_varint_of_byte (by decide)
  have hlength' : IsVarint [17] 17 := is_varint_of_byte (by decide)
  exact .keep (smallEntry 1 3 (by decide)) (small_entry_complete (by decide) 0) nofun <|
    .insert (smallEntry 4 1 (by decide)) (by decide) (small_entry_complete (by decide) 99) <|
      .nested hkey hlength hlength' rfl padded_client_id .nil

/-! ## All messages -/

/-- Complete entries of fields that a schema does not declare, put in between the entries of a
message that is decoded, do not change what it is decoded into, nor the error if it is not, whatever
comes behind them. Put into what is in a notice, into the values there or into their strings, they
do not change which client id it tells; put in at any level of a notice, they leave its type and
whom it concerns as well. The other messages are always decoded, and those that are not known keep
their payload. -/
theorem undeclared_fields_ignored :
    (∀ plain padded tail, PaddedBetween Ok.schema plain padded →
        ofFrame ⟨0, padded ++ tail⟩ = ofFrame ⟨0, plain ++ tail⟩) ∧
      (∀ plain padded tail, PaddedBetween Error.schema plain padded →
        ofFrame ⟨1, padded ++ tail⟩ = ofFrame ⟨1, plain ++ tail⟩) ∧
      (∀ plain padded tail, PaddedBetween AuthenticateContinue.schema plain padded →
        ofFrame ⟨3, padded ++ tail⟩ = ofFrame ⟨3, plain ++ tail⟩) ∧
      (∀ plain padded tail, PaddedBetween NoticeFrame.schema plain padded →
        ofFrame ⟨11, padded ++ tail⟩ = ofFrame ⟨11, plain ++ tail⟩) ∧
      (∀ payload payload', PaddedChange payload payload' → ∀ type isLocal,
        assignedClientId (.notice type isLocal payload') =
          assignedClientId (.notice type isLocal payload)) ∧
      (∀ plain padded,
        Padded NoticeFrame.schema NoticeFrame.inside Schema.nestingLimit plain padded →
        (∃ type isLocal payload payload',
          ofFrame ⟨11, plain⟩ = .ok (.notice type isLocal payload) ∧
            ofFrame ⟨11, padded⟩ = .ok (.notice type isLocal payload') ∧
            TellSame payload payload') ∨
          ∃ e, ofFrame ⟨11, plain⟩ = .error e ∧ ofFrame ⟨11, padded⟩ = .error e) ∧
      (∀ payload, ofFrame ⟨2, payload⟩ = .ok .capabilities) ∧
      (∀ payload, ofFrame ⟨4, payload⟩ = .ok .authenticateOk) ∧
      ∀ id payload, id ∉ [0, 1, 2, 3, 4, 11] → ofFrame ⟨id, payload⟩ = .ok (.other id payload) :=
  ⟨fun _ _ tail h => decode_payload_padded Ok.tolerates h tail,
    fun _ _ tail h => decode_payload_padded Error.tolerates h tail,
    fun _ _ tail h => decode_payload_padded AuthenticateContinue.tolerates h tail,
    fun _ _ tail h => decode_payload_padded NoticeFrame.tolerates h tail,
    fun _ _ h => tell_same_of_padded h,
    fun _ _ h => notice_padded_throughout h,
    fun _ => rfl, fun _ => rfl, fun _ payload hid => of_frame_other hid payload⟩

/-- Each message is decoded as without the field put in behind it, and a notice that is padded at
every level tells the same client id. -/
theorem undeclared_fields_ignored_at_every_level :
    (PaddedBetween Ok.schema [10, 1, 97] [10, 1, 97, 16, 5] ∧
        ofFrame ⟨0, [10, 1, 97, 16, 5]⟩ = .ok (.ok "a")) ∧
      (PaddedBetween Error.schema [16, 7] [16, 7, 40, 5] ∧
        ofFrame ⟨1, [16, 7, 40, 5]⟩ = .ok (.error .error 7 "" "")) ∧
      (PaddedBetween AuthenticateContinue.schema [] [16, 5] ∧
        ofFrame ⟨3, [16, 5]⟩ = .ok (.authenticateContinue [])) ∧
      (PaddedBetween NoticeFrame.schema [8, 3] [8, 3, 32, 5] ∧
        ofFrame ⟨11, [8, 3, 32, 5]⟩ = .ok (.notice 3 false [])) ∧
      (PaddedChange [8, 11, 18, 4, 8, 2, 24, 7]
          [8, 11, 43, 13, 1, 2, 3, 4, 44, 18, 6, 8, 2, 16, 5, 24, 7] ∧
        assignedClientId (.notice 3 true
          [8, 11, 43, 13, 1, 2, 3, 4, 44, 18, 6, 8, 2, 16, 5, 24, 7]) = some 7) ∧
      (Padded NoticeFrame.schema NoticeFrame.inside Schema.nestingLimit
          [8, 3, 26, 8, 8, 11, 18, 4, 8, 2, 24, 7]
          [8, 3, 32, 1, 26, 17, 8, 11, 43, 13, 1, 2, 3, 4, 44, 18, 6, 8, 2, 16, 5, 24, 7] ∧
        ∃ payload, ofFrame ⟨11,
            [8, 3, 32, 1, 26, 17, 8, 11, 43, 13, 1, 2, 3, 4, 44, 18, 6, 8, 2, 16, 5, 24, 7]⟩ =
              .ok (.notice 3 false payload) ∧
          assignedClientId (.notice 3 false payload) = some 7) ∧
      12 ∉ [0, 1, 2, 3, 4, 11] ∧ ofFrame ⟨12, [255]⟩ = .ok (.other 12 [255]) := by
  obtain ⟨hok, herror, hcontinue, hnotice, hchange, hthroughout, -, -, hother⟩ :=
    undeclared_fields_ignored
  have hok' : PaddedBetween Ok.schema [10, 1, 97] [10, 1, 97, 16, 5] := by
    have hkey : IsKey [10] 1 .delimited := is_key_of_byte (by decide) rfl (by decide)
    have hlength : IsVarint [1] 1 := is_varint_of_byte (by decide)
    have hvalue : IsValue 1 1 .delimited ([1] ++ [97]) := .plain (.delimited hlength)
    exact .keep ⟨1, .delimited, [10], _, hkey⟩ hvalue (fun _ => rfl) <|
      .insert (smallEntry 2 5 (by decide)) (by decide) (small_entry_complete (by decide) 99) .nil
  have herror' : PaddedBetween Error.schema [16, 7] [16, 7, 40, 5] :=
    .keep (smallEntry 2 7 (by decide)) (small_entry_complete (by decide) 0) nofun <|
      .insert (smallEntry 5 5 (by decide)) (by decide) (small_entry_complete (by decide) 99) .nil
  have hcontinue' : PaddedBetween AuthenticateContinue.schema [] [16, 5] :=
    .insert (smallEntry 2 5 (by decide)) (by decide) (small_entry_complete (by decide) 99) .nil
  have hnotice' : PaddedBetween NoticeFrame.schema [8, 3] [8, 3, 32, 5] :=
    .keep (smallEntry 1 3 (by decide)) (small_entry_complete (by decide) 0) nofun <|
      .insert (smallEntry 4 5 (by decide)) (by decide) (small_entry_complete (by decide) 99) .nil
  have hplain : ofFrame ⟨11, [8, 3, 26, 8, 8, 11, 18, 4, 8, 2, 24, 7]⟩ =
      .ok (.notice 3 false [8, 11, 18, 4, 8, 2, 24, 7]) :=
    Except.eq_ok_of_toOption (by decide +kernel)
  have htold (isLocal : Bool) :
      assignedClientId (.notice 3 isLocal [8, 11, 18, 4, 8, 2, 24, 7]) = some 7 := by
    cases isLocal <;> decide +kernel
  refine ⟨⟨hok', (hok _ _ [] hok').trans (Except.eq_ok_of_toOption (by decide +kernel))⟩,
    ⟨herror', (herror _ _ [] herror').trans (Except.eq_ok_of_toOption (by decide +kernel))⟩,
    ⟨hcontinue', (hcontinue _ _ [] hcontinue').trans
      (Except.eq_ok_of_toOption (by decide +kernel))⟩,
    ⟨hnotice', (hnotice _ _ [] hnotice').trans (Except.eq_ok_of_toOption (by decide +kernel))⟩,
    ⟨padded_client_id, (hchange _ _ padded_client_id 3 true).trans (htold true)⟩,
    ⟨padded_notice, ?_⟩, by decide, hother 12 [255] (by decide)⟩
  obtain ⟨type, isLocal, payload, payload', hread, hread', htell⟩ | ⟨e, hread, -⟩ :=
    hthroughout _ _ padded_notice
  · cases hread.symm.trans hplain
    exact ⟨payload', hread', (htell 3 false).trans (htold false)⟩
  · cases hread.symm.trans hplain

/-- What is in a notice is kept as it came: if only that is padded, the notice is decoded into
another one, although it tells the same client id. -/
theorem padding_kept_in_notices :
    let plain : Bytes := [8, 3, 26, 8, 8, 11, 18, 4, 8, 2, 24, 7]
    let padded : Bytes :=
      [8, 3, 26, 17, 8, 11, 43, 13, 1, 2, 3, 4, 44, 18, 6, 8, 2, 16, 5, 24, 7]
    Padded NoticeFrame.schema NoticeFrame.inside Schema.nestingLimit plain padded ∧
      ofFrame ⟨11, padded⟩ ≠ ofFrame ⟨11, plain⟩ := by
  intro plain padded
  have hkey : IsKey [26] 3 .delimited := is_key_of_byte (by decide) rfl (by decide)
  have hlength : IsVarint [8] 8 := is_varint_of_byte (by decide)
  have hlength' : IsVarint [17] 17 := is_varint_of_byte (by decide)
  have hdifferent : (ofFrame ⟨11, padded⟩).toOption ≠ (ofFrame ⟨11, plain⟩).toOption := by
    decide +kernel
  refine ⟨?_, fun h => hdifferent (congrArg Except.toOption h)⟩
  exact .keep (smallEntry 1 3 (by decide)) (small_entry_complete (by decide) 0) nofun <|
    .nested hkey hlength hlength' rfl padded_client_id .nil

end ServerMessage

end SessionKeeper
