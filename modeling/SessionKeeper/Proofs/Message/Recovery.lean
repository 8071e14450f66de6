import SessionKeeper.Message.Client
import SessionKeeper.Proofs.Payload.RoundTrip

/-!
# Requests on the wire

Frames that stand one behind the other can be told apart, and the payload of each holds its request
in the form that `ClientMessage.content` gives. The main statement, `requests_recovered`, says that
the bytes of a series of requests yield the series back, so that no two series have the same bytes.
-/

namespace SessionKeeper

/-! ## Telling frames apart -/

namespace Frame

/-- A frame whose length and body come first is split off. -/
theorem split_all_of_front {bytes payload : Bytes} {type : UInt8}
    (hlength : Bytes.toNat (bytes.take headerLength) = payload.length + 1)
    (hbody : (bytes.drop headerLength).take (payload.length + 1) = type :: payload) :
    splitAll bytes =
      (⟨type, payload⟩ :: (splitAll (bytes.drop (headerLength + (payload.length + 1)))).1,
        (splitAll (bytes.drop (headerLength + (payload.length + 1)))).2) := by
  cases bytes with
  | nil => cases hbody
  | cons b bytes =>
      conv => lhs; unfold splitAll
      simp only [hlength, hbody, if_true]

/-- A frame is split off the bytes behind it, if four bytes can hold its length. -/
theorem split_all_append {f : Frame} (hfits : f.payload.length + 1 < Nat.pow 256 headerLength)
    (rest : Bytes) :
    splitAll (f.encode ++ rest) = (f :: (splitAll rest).1, (splitAll rest).2) := by
  have hheader : (Bytes.littleEndian headerLength (f.payload.length + 1)).length = headerLength :=
    Bytes.length_littleEndian _ _
  have hsize : f.encode.length = headerLength + (f.payload.length + 1) := by
    rw [length_encode, size]
    omega
  have hlength : Bytes.toNat ((f.encode ++ rest).take headerLength) = f.payload.length + 1 := by
    rw [encode, List.append_assoc, List.take_left' hheader, Bytes.toNat_littleEndian hfits]
  have hbody : ((f.encode ++ rest).drop headerLength).take (f.payload.length + 1) =
      f.type :: f.payload := by
    rw [encode, List.append_assoc, List.drop_left' hheader]
    exact List.take_left' rfl
  rw [split_all_of_front hlength hbody, List.drop_left' hsize]

/-- Frames that are accepted are split, and nothing is left. -/
theorem split_all_encoded {frames : List Frame}
    (h : ∀ f ∈ frames, f.payload.length < maxLength) :
    splitAll (frames.flatMap encode) = (frames, []) := by
  induction frames with
  | nil =>
      rw [List.flatMap_nil]
      unfold splitAll
      rfl
  | cons f frames ih =>
      obtain ⟨hf, hframes⟩ := List.forall_mem_cons.mp h
      have hfits : f.payload.length + 1 < Nat.pow 256 headerLength :=
        Nat.lt_of_le_of_lt hf (by decide)
      rw [List.flatMap_cons, split_all_append hfits, ih hframes]

end Frame

/-! ## What a request holds -/

/-- The payload of a request, by the schema that belongs to the type of its frame. -/
inductive RequestContent where
  | capabilitiesSet (payload : Payload.CapabilitiesSet)
  | close (payload : Payload.Close)
  | authenticateStart (payload : Payload.AuthenticateStart)
  | authenticateContinue (payload : Payload.AuthenticateContinue)
  deriving DecidableEq, Repr

/-- Decode the payload of a frame, if its type is that of a request. -/
def RequestContent.ofFrame? (f : Frame) : Option RequestContent :=
  if f.type = 2 then
    (Payload.CapabilitiesSet.schema.decode f.payload).toOption.map .capabilitiesSet
  else if f.type = 3 then (Payload.Close.schema.decode f.payload).toOption.map .close
  else if f.type = 4 then
    (Payload.AuthenticateStart.schema.decode f.payload).toOption.map .authenticateStart
  else if f.type = 5 then
    (Payload.AuthenticateContinue.schema.decode f.payload).toOption.map .authenticateContinue
  else none

/-- The value that a scalar holds, if it holds nothing else. -/
def Payload.Scalar.capabilityValue? : Payload.Scalar → Option CapabilityValue
  | ⟨type, none, some value, none⟩ => if type = 7 then some (.bool value) else none
  | ⟨type, none, none, some ⟨bytes, none⟩⟩ =>
      if type = 8 then (Text.ofUtf8? bytes).map .string else none
  | _ => none

/-- The request that the content belongs to, if there is one. -/
def RequestContent.request? : RequestContent → Option ClientMessage
  | capabilitiesSet ⟨some ⟨[⟨name, some ⟨type, some scalar⟩⟩]⟩⟩ =>
      if type = 1 then scalar.capabilityValue?.map (.capabilitiesSet name) else none
  | authenticateStart ⟨mechanism, none, none⟩ => some (.authenticateStart mechanism [])
  | authenticateStart ⟨mechanism, some (b :: data), none⟩ =>
      some (.authenticateStart mechanism (b :: data))
  | authenticateContinue ⟨data⟩ => some (.authenticateContinue data)
  | close _ => some .close
  | _ => none

namespace ClientMessage

/-- What a request holds. A capability stands alone, and its value is a scalar (1), either a truth
value (7) or a string (8). Authentication data that are empty are absent from the first message. -/
def content : ClientMessage → RequestContent
  | capabilitiesSet name (.bool value) =>
      .capabilitiesSet ⟨some ⟨[⟨name, some ⟨1, some ⟨7, none, some value, none⟩⟩⟩]⟩⟩
  | capabilitiesSet name (.string value) =>
      .capabilitiesSet
        ⟨some ⟨[⟨name, some ⟨1, some ⟨8, none, none, some ⟨Text.utf8 value, none⟩⟩⟩⟩]⟩⟩
  | authenticateStart mechanism [] => .authenticateStart ⟨mechanism, none, none⟩
  | authenticateStart mechanism (b :: data) =>
      .authenticateStart ⟨mechanism, some (b :: data), none⟩
  | authenticateContinue data => .authenticateContinue ⟨data⟩
  | close => .close ⟨⟩

/-- A request is known from what it holds. -/
theorem request_content (m : ClientMessage) : m.content.request? = some m := by
  cases m with
  | capabilitiesSet name value =>
      cases value with
      | bool => rfl
      | string => simp [content, RequestContent.request?, Payload.Scalar.capabilityValue?]
  | authenticateStart mechanism data => cases data <;> rfl
  | authenticateContinue | close => rfl

/-- The payload of a request is its content, as long as that can be encoded. -/
theorem of_frame_frame {m : ClientMessage} (h : m.frame.payload.length < UInt64.size) :
    RequestContent.ofFrame? m.frame = some m.content := by
  cases m with
  | capabilitiesSet name value =>
      have hdecode := (Payload.CapabilitiesSet.faithful 95).decode_encode _ h
      cases value with
      | bool | string =>
          simp only [RequestContent.ofFrame?, frame, id, payload] at hdecode ⊢
          rw [hdecode]
          rfl
  | authenticateStart mechanism data =>
      have hdecode := (Payload.AuthenticateStart.faithful _).decode_encode _ h
      simp only [RequestContent.ofFrame?, frame, id, payload] at hdecode ⊢
      rw [hdecode]
      cases data <;> rfl
  | authenticateContinue data =>
      have hdecode := (Payload.AuthenticateContinue.faithful _).decode_encode _ h
      simp only [RequestContent.ofFrame?, frame, id, payload] at hdecode ⊢
      rw [hdecode]
      rfl
  | close =>
      have hdecode := (Payload.Close.faithful _).decode_encode ⟨⟩ h
      simp only [RequestContent.ofFrame?, frame, id, payload] at hdecode ⊢
      rw [hdecode]
      rfl

/-- The bytes of a series of requests, as they are written. -/
def wire (messages : List ClientMessage) : Bytes :=
  messages.flatMap (·.frame.encode)

/-- The contents that are read from some bytes, frame by frame. -/
def contentsIn (bytes : Bytes) : List (Option RequestContent) :=
  (Frame.splitAll bytes).1.map RequestContent.ofFrame?

/-- Whether the frame of a request is accepted. -/
def Accepted (m : ClientMessage) : Prop :=
  m.frame.payload.length < Frame.maxLength

theorem accepted_close : close.Accepted := by
  unfold Accepted
  decide

variable {messages others : List ClientMessage}

/-- The bytes of accepted requests are split into their frames. -/
theorem split_all_wire (h : ∀ m ∈ messages, m.Accepted) :
    Frame.splitAll (wire messages) = (messages.map frame, []) := by
  have hbytes : wire messages = (messages.map frame).flatMap Frame.encode :=
    (List.flatMap_map frame Frame.encode messages).symm
  rw [hbytes]
  apply Frame.split_all_encoded
  intro f hf
  obtain ⟨m, hm, rfl⟩ := List.mem_map.mp hf
  exact h m hm

/-- The contents of accepted requests are read from their bytes. -/
theorem contents_in_wire (h : ∀ m ∈ messages, m.Accepted) :
    contentsIn (wire messages) = messages.map fun m => some m.content := by
  rw [contentsIn, split_all_wire h, List.map_map]
  apply List.map_congr_left
  intro m hm
  exact of_frame_frame (Nat.lt_trans (h m hm) (by decide))

/-- The requests are known from what is read. -/
theorem requests_of_wire (h : ∀ m ∈ messages, m.Accepted) :
    (contentsIn (wire messages)).map (·.bind RequestContent.request?) = messages.map some := by
  rw [contents_in_wire h, List.map_map]
  apply List.map_congr_left
  intro m _
  exact request_content m

/-- Accepted requests with the same bytes are the same requests. -/
theorem eq_of_wire_eq (h : ∀ m ∈ messages, m.Accepted) (hothers : ∀ m ∈ others, m.Accepted)
    (heq : wire others = wire messages) : others = messages := by
  have hsome : others.map some = messages.map some := by
    rw [← requests_of_wire hothers, heq, requests_of_wire h]
  exact (List.map_inj_right fun _ _ => Option.some.inj).mp hsome

/-- A request whose frame is that of an accepted one is the same request. -/
theorem eq_of_encode_eq {m other : ClientMessage} (h : m.Accepted)
    (heq : other.frame.encode = m.frame.encode) : other = m := by
  have hlengths := congrArg List.length heq
  simp only [Frame.length_encode, Frame.size] at hlengths
  have hother : other.Accepted := by
    unfold Accepted at h ⊢
    omega
  have hwire : wire [other] = wire [m] := by
    simpa only [wire, List.flatMap_singleton] using heq
  have hsame : [other] = [m] :=
    eq_of_wire_eq (List.forall_mem_singleton.mpr h) (List.forall_mem_singleton.mpr hother) hwire
  exact List.singleton_inj.mp hsame

/-- Accepted requests are got back from their bytes: nothing is left when the frames are split off,
each frame holds the content of its request, and the content belongs to that request alone. So other
requests have other bytes. -/
theorem requests_recovered (messages : List ClientMessage) (h : ∀ m ∈ messages, m.Accepted) :
    Frame.splitAll (wire messages) = (messages.map frame, []) ∧
      contentsIn (wire messages) = messages.map (fun m => some m.content) ∧
      (contentsIn (wire messages)).map (·.bind RequestContent.request?) = messages.map some ∧
      ∀ others : List ClientMessage,
        (∀ m ∈ others, m.Accepted) → others ≠ messages → wire others ≠ wire messages :=
  ⟨split_all_wire h, contents_in_wire h, requests_of_wire h,
    fun _ hothers hne heq => hne (eq_of_wire_eq h hothers heq)⟩

/-- A request of each kind, with a value of each kind, and with data that are empty and that are
not. -/
def variedRequests : List ClientMessage :=
  [.capabilitiesSet "tls" (.bool true), .capabilitiesSet "client" (.string "keeper"),
    .authenticateStart "MYSQL41" [], .authenticateStart "PLAIN" [0, 1, 2],
    .authenticateContinue [7], .close]

theorem requests_recovered_varied :
    (∀ m ∈ variedRequests, m.Accepted) ∧
      (contentsIn (wire variedRequests)).map (·.bind RequestContent.request?) =
        variedRequests.map some := by
  have h : ∀ m ∈ variedRequests, m.Accepted := by
    simp only [Accepted]
    decide +kernel
  exact ⟨h, (requests_recovered variedRequests h).2.2.1⟩

end ClientMessage

end SessionKeeper
