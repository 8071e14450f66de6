import Mathlib.Logic.Basic
import SessionKeeper.Message.Server
import SessionKeeper.Proofs.Payload.RoundTrip

/-!
# Client ids in notices

A server tells a client its id in a notice. The notice has a message encoded in it, which says that
the state of the session has changed and has the id as its first value. The main statement,
`client_id_recognised`, says that such a notice is read back with its id, and which payloads tell an
id at all.
-/

namespace SessionKeeper

open Payload

/-- A notice is longer than what is in it. -/
theorem Payload.NoticeFrame.length_payload_le (type : UInt32) (payload : Bytes) :
    payload.length ≤ (schema.encode (ofLocal type payload)).length := by
  simp only [Protobuf.Schema.encode, schema, ofLocal, Protobuf.Field.optional, Protobuf.Kind.bytes,
    List.flatMap_cons, List.length_append]
  omega

namespace ServerMessage

variable {type : UInt32} {isLocal : Bool} {payload : Bytes} {n : UInt64}

/-- A change tells an id if it is the one of the client id and its first value is unsigned. -/
theorem client_id_of_eq_some_iff {changed : SessionStateChanged} :
    clientIdOf changed = some n ↔
      ∃ scalar later, changed = ⟨11, scalar :: later⟩ ∧ scalar.type = 2 ∧
        scalar.unsigned = some n := by
  obtain ⟨parameter, values⟩ := changed
  cases values with
  | nil => simp [clientIdOf]
  | cons scalar later =>
      by_cases hparameter : parameter = 11
      · by_cases htype : scalar.type = 2
        · simp [clientIdOf, clientIdAssigned, unsignedType, hparameter, htype]
        · simp [clientIdOf, clientIdAssigned, unsignedType, hparameter, htype]
      · simp [clientIdOf, clientIdAssigned, hparameter]

/-- Only notices of a changed state tell ids, and only if their payload can be decoded. -/
theorem assigned_client_id_notice (type : UInt32) (isLocal : Bool) (payload : Bytes) :
    assignedClientId (.notice type isLocal payload) =
      if type = 3 then
        (SessionStateChanged.schema.decode payload).toOption.bind clientIdOf
      else none := by
  refine ite_congr rfl (fun _ => ?_) fun _ => rfl
  cases SessionStateChanged.schema.decode payload <;> rfl

theorem assigned_client_id_eq_some_iff :
    assignedClientId (.notice type isLocal payload) = some n ↔
      type = 3 ∧ ∃ scalar later,
        SessionStateChanged.schema.decode payload = .ok ⟨11, scalar :: later⟩ ∧
          scalar.type = 2 ∧ scalar.unsigned = some n := by
  rw [assigned_client_id_notice, Option.ite_none_right_eq_some]
  refine and_congr_right fun _ => ?_
  cases SessionStateChanged.schema.decode payload with
  | error e => simp [Except.toOption]
  | ok changed => simp [Except.toOption, client_id_of_eq_some_iff]

/-- Only the first of unsigned values can be an id. -/
theorem client_id_of_unsigned (parameter : Int32) (values : List UInt64) :
    clientIdOf ⟨parameter, values.map .ofUnsigned⟩ =
      if parameter = 11 then values.head? else none := by
  cases values with
  | nil => simp [clientIdOf]
  | cons n values => simp [clientIdOf, clientIdAssigned, Scalar.ofUnsigned]

/-- A notice is read back with what is in it. -/
theorem of_frame_local_notice
    (hsize : (NoticeFrame.schema.encode (.ofLocal type payload)).length < Nat.pow 2 64) :
    ofFrame ⟨11, NoticeFrame.schema.encode (.ofLocal type payload)⟩ =
      .ok (.notice type true payload) := by
  have hdecode := payloads_round_trip.noticeFrame _ hsize
  show decodePayload _ _ _ = _
  rw [decodePayload, hdecode]
  rfl

/-- A local notice around a change of the session's state to unsigned values is read back, and tells
the first of them if it is a notice of that type and the client id is what has changed. Whatever the
payload of a notice, it tells an id exactly if it can be decoded and its first value, of the client
id, is an unsigned one; other values do not matter, nor whom the notice concerns. No encoding that is
held in memory has `2 ^ 64` bytes. -/
theorem client_id_recognised :
    (∀ (type : UInt32) (parameter : Int32) (values : List UInt64),
      let changed := SessionStateChanged.schema.encode ⟨parameter, values.map .ofUnsigned⟩
      let payload := NoticeFrame.schema.encode (.ofLocal type changed)
      payload.length < Nat.pow 2 64 →
        ofFrame ⟨11, payload⟩ = .ok (.notice type true changed) ∧
          assignedClientId (.notice type true changed) =
            if type = 3 ∧ parameter = 11 then values.head? else none) ∧
    (∀ (type : UInt32) (isLocal : Bool) (payload : Bytes) (n : UInt64),
      assignedClientId (.notice type isLocal payload) = some n ↔
        type = 3 ∧ ∃ scalar later,
          SessionStateChanged.schema.decode payload = .ok ⟨11, scalar :: later⟩ ∧
            scalar.type = 2 ∧ scalar.unsigned = some n) ∧
    ∀ (type : UInt32) (isLocal isLocal' : Bool) (payload payload' : Bytes) (parameter : Int32)
      (scalar : Scalar) (later later' : List Scalar),
      SessionStateChanged.schema.decode payload = .ok ⟨parameter, scalar :: later⟩ →
        SessionStateChanged.schema.decode payload' = .ok ⟨parameter, scalar :: later'⟩ →
          assignedClientId (.notice type isLocal payload) =
            assignedClientId (.notice type isLocal' payload') := by
  refine ⟨?_, fun type isLocal payload n => assigned_client_id_eq_some_iff, ?_⟩
  · intro type parameter values changed payload hsize
    refine ⟨of_frame_local_notice hsize, ?_⟩
    -- What is in the notice is shorter than the notice, so it is read back as well.
    have hinner : changed.length < Nat.pow 2 64 :=
      Nat.lt_of_le_of_lt (NoticeFrame.length_payload_le type changed) hsize
    have hdecode := payloads_round_trip.sessionStateChanged _ hinner
    rw [assigned_client_id_notice, hdecode, ite_and]
    exact ite_congr rfl (fun _ => client_id_of_unsigned parameter values) fun _ => rfl
  · intro type isLocal isLocal' payload payload' parameter scalar later later' hdecode hdecode'
    rw [assigned_client_id_notice, assigned_client_id_notice, hdecode, hdecode']
    rfl

/-- The greatest number is told, whatever is behind it, and a number of rows is no id. -/
theorem client_id_recognised_in_notices :
    let told := SessionStateChanged.schema.encode ⟨11, [18446744073709551615, 7].map .ofUnsigned⟩
    let alone := SessionStateChanged.schema.encode ⟨11, [18446744073709551615].map .ofUnsigned⟩
    let rows := SessionStateChanged.schema.encode ⟨4, [3].map .ofUnsigned⟩
    ((NoticeFrame.schema.encode (.ofLocal 3 told)).length < Nat.pow 2 64 ∧
        ofFrame ⟨11, NoticeFrame.schema.encode (.ofLocal 3 told)⟩ = .ok (.notice 3 true told) ∧
        assignedClientId (.notice 3 true told) = some 18446744073709551615) ∧
      ((NoticeFrame.schema.encode (.ofLocal 3 rows)).length < Nat.pow 2 64 ∧
        assignedClientId (.notice 3 true rows) = none) ∧
      assignedClientId (.notice 3 false told) = assignedClientId (.notice 3 true alone) := by
  intro told alone rows
  obtain ⟨hrecognised, -, hfirst⟩ := client_id_recognised
  have htold : (NoticeFrame.schema.encode (.ofLocal 3 told)).length < Nat.pow 2 64 := by
    decide +kernel
  have hrows : (NoticeFrame.schema.encode (.ofLocal 3 rows)).length < Nat.pow 2 64 := by
    decide +kernel
  have hdecode : ∀ values : List Scalar,
      (SessionStateChanged.schema.encode ⟨11, values⟩).length < Nat.pow 2 64 →
        SessionStateChanged.schema.decode (SessionStateChanged.schema.encode ⟨11, values⟩) =
          .ok ⟨11, values⟩ :=
    fun values => payloads_round_trip.sessionStateChanged _
  obtain ⟨hread, hid⟩ := hrecognised 3 11 [18446744073709551615, 7] htold
  exact ⟨⟨htold, hread, hid⟩, ⟨hrows, (hrecognised 3 4 [3] hrows).2⟩,
    hfirst 3 false true told alone 11 (.ofUnsigned 18446744073709551615) [.ofUnsigned 7] []
      (hdecode _ (by decide +kernel)) (hdecode _ (by decide +kernel))⟩

end ServerMessage

end SessionKeeper
