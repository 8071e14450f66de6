import Mathlib.Tactic.SplitIfs
import SessionKeeper.Message.Server
import SessionKeeper.Network.Transport
import SessionKeeper.Proofs.Outcome

/-!
# What a stream delivers

`Delivers` says which messages the bytes of a peer hold, and what is left behind them. The main
statement, `read_frame_eq_ok_iff`, says that a frame is read exactly where its own bytes come next,
and that nothing beyond them is touched.
-/

namespace SessionKeeper

/-- The bytes begin with the frames of the messages, one after the other, and end in the rest. -/
inductive Delivers : Bytes → List ServerMessage → Bytes → Prop where
  | nil (rest : Bytes) : Delivers rest [] rest
  | cons {frame : Frame} {message : ServerMessage} {messages : List ServerMessage}
      {later rest : Bytes} (hsize : frame.payload.length < Frame.maxLength)
      (hmessage : ServerMessage.ofFrame frame = .ok message)
      (hlater : Delivers later messages rest) :
      Delivers (frame.encode ++ later) (message :: messages) rest

/-- Where nothing is delivered everything is left. -/
theorem Delivers.rest_eq {bytes rest : Bytes} (h : Delivers bytes [] rest) : rest = bytes := by
  generalize hmessages : ([] : List ServerMessage) = messages at h
  cases h with
  | nil => rfl
  | cons => cases hmessages

/-- What delivers some messages and then others delivers both. -/
theorem Delivers.append {bytes middle rest : Bytes} {messages others : List ServerMessage}
    (h : Delivers bytes messages middle) (hothers : Delivers middle others rest) :
    Delivers bytes (messages ++ others) rest := by
  induction h with
  | nil => exact hothers
  | cons hsize hmessage _ ih => exact .cons hsize hmessage (ih hothers)

/-- A header is accepted if it announces a length within the limits. -/
theorem Frame.body_length_eq_ok_iff {header : Bytes} {length : Nat} :
    Frame.bodyLength header = .ok length ↔
      length = Bytes.toNat header ∧ 0 < length ∧ length ≤ Frame.maxLength := by
  simp only [Frame.bodyLength]
  split
  · simp only [reduceCtorEq, false_iff]
    omega
  · split
    · simp only [reduceCtorEq, false_iff]
      omega
    · simp only [Except.ok.injEq]
      omega

/-- A frame that is no message is malformed. -/
theorem ServerMessage.of_frame_error_code {frame : Frame} {e : SessionError}
    (h : ServerMessage.ofFrame frame = .error e) : e.code = Code.malformedPacket := by
  have hdecode : ∀ {M : Type} (schema : Protobuf.Schema M) (payload : Bytes)
      (build : M → ServerMessage),
      decodePayload schema payload build = .error e → e.code = Code.malformedPacket := by
    intro M schema payload build hpayload
    simp only [decodePayload] at hpayload
    split at hpayload <;> cases hpayload
    rfl
  unfold ofFrame at h
  split_ifs at h <;> exact hdecode _ _ _ h

namespace Transport

variable {t u : Transport}

/-- Bytes are read if they come next. -/
theorem read_eq_ok_iff {count : Nat} {bytes : Bytes} :
    read count t = .ok bytes u ↔
      bytes.length = count ∧ t.unread = bytes ++ u.unread ∧ u = { t with unread := u.unread } := by
  constructor
  · intro h
    obtain ⟨hunread, hlength⟩ := unread_of_read h
    refine ⟨hlength, hunread, ?_⟩
    simp only [read] at h
    split at h
    · cases h
      rfl
    · cases h
  · rintro ⟨rfl, hunread, hrest⟩
    rw [hrest]
    simp [read, hunread]

/-- A frame is read if its bytes come next, and it takes nothing else. -/
theorem read_frame_eq_ok_iff {f : Frame} :
    readFrame t = .ok f u ↔
      f.payload.length < Frame.maxLength ∧ t.unread = f.encode ++ u.unread ∧
        u = { t with unread := u.unread } := by
  constructor
  · intro h
    simp only [readFrame] at h
    split at h
    · cases h
    · rename_i header v hheader
      split at h
      · cases h
      · rename_i length hlength
        split at h
        · cases h
        · cases h
        · rename_i type payload w hbody
          cases h
          obtain ⟨hcount, hfirst, hv⟩ := read_eq_ok_iff.mp hheader
          obtain ⟨hsize, hsecond, hu⟩ := read_eq_ok_iff.mp hbody
          obtain ⟨rfl, -, hmax⟩ := Frame.body_length_eq_ok_iff.mp hlength
          rw [List.length_cons] at hsize
          refine ⟨?_, ?_, ?_⟩
          · show payload.length < Frame.maxLength
            omega
          · -- The header is the layout of the length that it announces.
            have hlayout : Bytes.littleEndian Frame.headerLength (payload.length + 1) = header := by
              rw [hsize, ← hcount]
              exact Bytes.littleEndian_toNat header
            rw [hfirst, hsecond, Frame.encode, hlayout, List.append_assoc]
          · rw [hu, hv]
  · rintro ⟨hsize, hunread, hrest⟩
    have hfits : f.payload.length + 1 < Nat.pow 256 Frame.headerLength :=
      Nat.lt_of_le_of_lt hsize (by decide)
    have hheader : read Frame.headerLength t =
        .ok (Bytes.littleEndian Frame.headerLength (f.payload.length + 1))
          { t with unread := f.type :: f.payload ++ u.unread } := by
      rw [read_eq_ok_iff]
      refine ⟨Bytes.length_littleEndian _ _, ?_, rfl⟩
      rw [hunread, Frame.encode, List.append_assoc]
    have hlength : Frame.bodyLength
        (Bytes.littleEndian Frame.headerLength (f.payload.length + 1)) =
          .ok (f.payload.length + 1) := by
      rw [Frame.body_length_eq_ok_iff, Bytes.toNat_littleEndian hfits]
      omega
    have hbody : read (f.payload.length + 1) { t with unread := f.type :: f.payload ++ u.unread } =
        .ok (f.type :: f.payload) u := by
      rw [read_eq_ok_iff]
      exact ⟨rfl, rfl, hrest⟩
    simp only [readFrame, hheader, hlength, hbody]

/-- A read fails if too little is there, with the failure that the transport has next. -/
theorem read_eq_error {count : Nat} {e : SessionError} (h : read count t = .error e u) :
    t.unread.length < count ∧ e = .ofTransport t.shortage ∧ u = t.interrupted := by
  simp only [read] at h
  split at h
  · cases h
  · next hshort =>
      cases h
      exact ⟨Nat.not_le.mp hshort, rfl, rfl⟩

/-- A frame may also fail to be one. -/
theorem read_frame_error_cases {e : SessionError} (h : readFrame t = .error e u) :
    e = .ofTransport t.shortage ∨ e.code = Code.malformedPacket := by
  simp only [readFrame] at h
  split at h
  · next hheader =>
      cases h
      exact .inl (read_eq_error hheader).2.1
  · next hheader =>
    -- What a read meets next does not depend on the header.
    obtain ⟨-, -, hrest⟩ := read_eq_ok_iff.mp hheader
    split at h
    · next hlength =>
        cases h
        simp only [Frame.bodyLength] at hlength
        split at hlength
        · cases hlength
          exact .inr rfl
        · split at hlength <;> cases hlength
          exact .inr rfl
    · split at h
      · next hbody =>
          cases h
          rw [hrest] at hbody
          exact .inl (read_eq_error hbody).2.1
      · cases h
        exact .inr rfl
      · cases h

/-- A read changes what is unread and what comes later, and nothing else. -/
theorem state_read (count : Nat) (t : Transport) :
    ∃ unread later, (read count t).state = { t with unread, later } := by
  simp only [read, interrupted]
  split
  · exact ⟨_, _, rfl⟩
  · split <;> exact ⟨_, _, rfl⟩

/-- So does reading a frame, whatever comes of it. -/
theorem state_read_frame (t : Transport) :
    ∃ unread later, (readFrame t).state = { t with unread, later } := by
  obtain ⟨unread, later, hfirst⟩ := state_read Frame.headerLength t
  simp only [readFrame]
  cases hheader : read Frame.headerLength t with
  | error e v => exact ⟨_, _, (congrArg EStateM.Result.state hheader).symm.trans hfirst⟩
  | ok header v =>
      -- The body is read from what the header left.
      obtain rfl : v = { t with unread, later } := by rw [← hfirst, hheader]; rfl
      cases hlength : Frame.bodyLength header with
      | error e => exact ⟨unread, later, by simp only [hlength, EStateM.Result.state_error]⟩
      | ok length =>
          obtain ⟨left, rest, hsecond⟩ := state_read length { t with unread, later }
          refine ⟨left, rest, ?_⟩
          simp only [hlength]
          cases hbody : read length { t with unread, later } with
          | error e w => exact (congrArg EStateM.Result.state hbody).symm.trans hsecond
          | ok body w =>
              have hstate := (congrArg EStateM.Result.state hbody).symm.trans hsecond
              cases body <;> exact hstate

end Transport

end SessionKeeper
