import SessionKeeper.Payload.Authentication
import SessionKeeper.Payload.Connection
import SessionKeeper.Payload.Notice
import SessionKeeper.Payload.Reply
import SessionKeeper.Proofs.Protobuf.ReadBack

/-!
# Payloads are read back

Each schema of a payload is faithful: field by field, what a payload writes carries the empty one
over to it. A message inside another one needs one level of nesting, and the deepest payload has
six. The main statement, `payloads_round_trip`, says that every payload is read back from its
encoding.
-/

namespace SessionKeeper.Payload

open Protobuf Protobuf.Field Protobuf.Kind

/-! ## Replies -/

theorem Ok.faithful (depth : Nat) : Ok.schema.Faithful depth where
  numbered := ⟨by decide, by decide⟩
  carry _ := .cons (optional_carries (string_reads_back depth) rfl rfl) (.nil _)

theorem Error.faithful (depth : Nat) : Error.schema.Faithful depth where
  numbered := ⟨by decide, by decide⟩
  carry _ :=
    .cons (optional_carries (enumeration_reads_back _ depth) rfl rfl)
      (.cons (required_carries (uint32_reads_back depth) rfl)
        (.cons (required_carries (string_reads_back depth) rfl)
          (.cons (required_carries (string_reads_back depth) rfl) (.nil _))))

/-! ## Values -/

theorem ScalarString.faithful (depth : Nat) : ScalarString.schema.Faithful depth where
  numbered := ⟨by decide, by decide⟩
  carry _ :=
    .cons (required_carries (bytes_reads_back depth) rfl)
      (.cons (optional_carries (uint64_reads_back depth) rfl rfl) (.nil _))

theorem Scalar.faithful (depth : Nat) : Scalar.schema.Faithful (depth + 1) where
  numbered := ⟨by decide, by decide⟩
  carry _ :=
    .cons (required_carries (enumeration_reads_back _ _) rfl)
      (.cons (optional_carries (uint64_reads_back _) rfl rfl)
        (.cons (optional_carries (bool_reads_back _) rfl rfl)
          (.cons (optional_carries (ScalarString.faithful depth).kind_reads_back rfl rfl)
            (.nil _))))

theorem Any.faithful (depth : Nat) : Any.schema.Faithful (depth + 2) where
  numbered := ⟨by decide, by decide⟩
  carry _ :=
    .cons (required_carries (enumeration_reads_back _ _) rfl)
      (.cons (optional_carries (Scalar.faithful depth).kind_reads_back rfl rfl) (.nil _))

/-! ## Setting up and ending a connection -/

theorem Capability.faithful (depth : Nat) : Capability.schema.Faithful (depth + 3) where
  numbered := ⟨by decide, by decide⟩
  carry _ :=
    .cons (required_carries (string_reads_back _) rfl)
      (.cons (optional_carries (Any.faithful depth).kind_reads_back rfl rfl) (.nil _))

theorem Capabilities.faithful (depth : Nat) : Capabilities.schema.Faithful (depth + 4) where
  numbered := ⟨by decide, by decide⟩
  carry _ :=
    .cons (repeated_carries (Capability.faithful depth).kind_reads_back
      ⟨fun _ _ => rfl, fun _ => rfl, fun _ _ _ => rfl⟩ rfl) (.nil _)

theorem CapabilitiesSet.faithful (depth : Nat) : CapabilitiesSet.schema.Faithful (depth + 5) where
  numbered := ⟨by decide, by decide⟩
  carry _ := .cons (optional_carries (Capabilities.faithful depth).kind_reads_back rfl rfl) (.nil _)

theorem Close.faithful (depth : Nat) : Close.schema.Faithful depth where
  numbered := ⟨by decide, by decide⟩
  carry _ := .nil _

/-! ## Authentication -/

theorem AuthenticateStart.faithful (depth : Nat) : AuthenticateStart.schema.Faithful depth where
  numbered := ⟨by decide, by decide⟩
  carry _ :=
    .cons (required_carries (string_reads_back depth) rfl)
      (.cons (optional_carries (bytes_reads_back depth) rfl rfl)
        (.cons (optional_carries (bytes_reads_back depth) rfl rfl) (.nil _)))

theorem AuthenticateContinue.faithful (depth : Nat) :
    AuthenticateContinue.schema.Faithful depth where
  numbered := ⟨by decide, by decide⟩
  carry _ := .cons (required_carries (bytes_reads_back depth) rfl) (.nil _)

/-! ## Notices -/

theorem NoticeFrame.faithful (depth : Nat) : NoticeFrame.schema.Faithful depth where
  numbered := ⟨by decide, by decide⟩
  carry _ :=
    .cons (required_carries (uint32_reads_back depth) rfl)
      (.cons (optional_carries (enumeration_reads_back _ depth) rfl rfl)
        (.cons (optional_carries (bytes_reads_back depth) rfl rfl) (.nil _)))

theorem SessionStateChanged.faithful (depth : Nat) :
    SessionStateChanged.schema.Faithful (depth + 2) where
  numbered := ⟨by decide, by decide⟩
  carry _ :=
    .cons (required_carries (enumeration_reads_back _ _) rfl)
      (.cons (repeated_carries (Scalar.faithful depth).kind_reads_back
        ⟨fun _ _ => rfl, fun _ => rfl, fun _ _ _ => rfl⟩ rfl) (.nil _))

/-! ## All of them -/

/-- Something holds of the schema of every payload. -/
structure ForEverySchema (P : ∀ {M : Type}, Schema M → Prop) : Prop where
  ok : P Ok.schema
  error : P Error.schema
  scalar : P Scalar.schema
  scalarString : P ScalarString.schema
  any : P Any.schema
  capability : P Capability.schema
  capabilities : P Capabilities.schema
  capabilitiesSet : P CapabilitiesSet.schema
  close : P Close.schema
  authenticateStart : P AuthenticateStart.schema
  authenticateContinue : P AuthenticateContinue.schema
  noticeFrame : P NoticeFrame.schema
  sessionStateChanged : P SessionStateChanged.schema

/-- Every payload of every schema is read back from its encoding. No encoding that is held in memory
has `2 ^ 64` bytes. -/
theorem payloads_round_trip : ForEverySchema fun schema =>
    ∀ m, (schema.encode m).length < Nat.pow 2 64 → schema.decode (schema.encode m) = .ok m where
  ok := (Ok.faithful _).decode_encode
  error := (Error.faithful _).decode_encode
  scalar := (Scalar.faithful 99).decode_encode
  scalarString := (ScalarString.faithful _).decode_encode
  any := (Any.faithful 98).decode_encode
  capability := (Capability.faithful 97).decode_encode
  capabilities := (Capabilities.faithful 96).decode_encode
  capabilitiesSet := (CapabilitiesSet.faithful 95).decode_encode
  close := (Close.faithful _).decode_encode
  authenticateStart := (AuthenticateStart.faithful _).decode_encode
  authenticateContinue := (AuthenticateContinue.faithful _).decode_encode
  noticeFrame := (NoticeFrame.faithful _).decode_encode
  sessionStateChanged := (SessionStateChanged.faithful 98).decode_encode

/-- A payload of six levels, with a negative number of a type, and with values that are there
although they are the ones of an empty message. -/
def deepPayload : CapabilitiesSet :=
  ⟨some ⟨[⟨"tls", some ⟨-1, some ⟨7, some 0, some false, some ⟨[], some 300⟩⟩⟩⟩, ⟨"", none⟩]⟩⟩

theorem payloads_round_trip_deep :
    (CapabilitiesSet.schema.encode deepPayload).length < Nat.pow 2 64 ∧
      CapabilitiesSet.schema.decode (CapabilitiesSet.schema.encode deepPayload) =
        .ok deepPayload := by
  have hsize : (CapabilitiesSet.schema.encode deepPayload).length < Nat.pow 2 64 := by
    decide +kernel
  exact ⟨hsize, payloads_round_trip.capabilitiesSet deepPayload hsize⟩

end SessionKeeper.Payload
