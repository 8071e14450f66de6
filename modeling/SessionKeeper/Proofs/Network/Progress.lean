import SessionKeeper.Proofs.Network.Opening
import SessionKeeper.Proofs.Network.Receipts
import SessionKeeper.Proofs.Network.Truncation

/-!
# Every receive makes progress

A frame that is read takes at least five bytes from the stream, and a receive that takes none is
the last one of a connect that does not encrypt. So the bytes of the server bound the number of
receives, whatever they are. `Smooth` says of a talk that only its last event may fail, and every
grammar of a connect in the clear has such talks only; `Booked.takes_frames` compares a smooth talk
with the bytes that were there, and `receives_make_progress` puts the bounds together.
-/

namespace SessionKeeper

open NetworkSession

/-! ## One frame -/

/-- The bytes of a frame begin with the length that it announces, which is not zero. -/
theorem Transport.read_frame_takes {x y : Transport} {f : Frame} (h : readFrame x = .ok f y) :
    let length := Bytes.toNat (x.unread.take 4)
    1 ≤ length ∧ f.size = 4 + length ∧ f.encode = x.unread.take (4 + length) ∧
      f.type :: f.payload = (x.unread.drop 4).take length ∧
      y = { x with unread := x.unread.drop (4 + length) } := by
  intro length
  obtain ⟨hsize, hunread, hrest⟩ := read_frame_eq_ok_iff.mp h
  have hheader : (Bytes.littleEndian Frame.headerLength (f.payload.length + 1)).length = 4 :=
    Bytes.length_littleEndian _ _
  have hfits : f.payload.length + 1 < Nat.pow 256 Frame.headerLength :=
    Nat.lt_of_le_of_lt hsize (by decide)
  have hlength : length = f.payload.length + 1 := by
    show Bytes.toNat (x.unread.take 4) = _
    rw [hunread, Frame.encode, List.append_assoc, List.take_left' hheader,
      Bytes.toNat_littleEndian hfits]
  have htotal : f.encode.length = 4 + length := by
    rw [Frame.length_encode, Frame.size, Frame.headerLength, hlength]
    omega
  refine ⟨by omega, f.length_encode.symm.trans htotal, ?_, ?_, ?_⟩
  · rw [hunread, List.take_left' htotal]
  · rw [hunread, Frame.encode, List.append_assoc, List.drop_left' hheader,
      List.take_left' (by rw [hlength, List.length_cons])]
  · rw [hunread, List.drop_left' htotal]
    exact hrest

/-- Behind a header that is accepted there is a type byte. -/
theorem Transport.body_ne_nil {y z : Transport} {header body : Bytes} {length : Nat}
    (hheader : Frame.bodyLength header = .ok length) (hbody : read length y = .ok body z) :
    body ≠ [] := by
  obtain ⟨-, hpos, -⟩ := Frame.body_length_eq_ok_iff.mp hheader
  obtain ⟨hlength, -⟩ := read_eq_ok_iff.mp hbody
  rintro rfl
  exact absurd hlength (Nat.ne_of_lt hpos)

/-! ## Smooth talks -/

/-- Only the last event of a talk may fail, and it is followed by an error. Nothing is encrypted. -/
inductive Smooth {α : Type} : Grammar α where
  | passed {talk : List Event} {r : Except SessionError α}
      (hmessages : ∀ event ∈ talk, event.isMessage = true) : Smooth talk r
  | failed {front : List Event} {last : Event} {e : SessionError}
      (hmessages : ∀ event ∈ front, event.isMessage = true) (hlast : last.isPlain = true) :
      Smooth (front ++ [last]) (.error e)

/-- A grammar all of whose talks are smooth. -/
def Grammar.IsSmooth {α : Type} (grammar : Grammar α) : Prop :=
  ∀ talk r, grammar talk r → Smooth talk r

namespace Grammar.IsSmooth

variable {α β : Type} {grammar : Grammar α}

theorem settled (r : Except SessionError α) : IsSmooth (.settled r) := by
  rintro _ _ ⟨rfl, rfl⟩
  exact .passed nofun

theorem judged (h : grammar.IsSmooth) (verdict : α → Except SessionError β) :
    IsSmooth (grammar.judged verdict) := by
  rintro talk _ ⟨q, hgrammar, rfl⟩
  cases h talk q hgrammar with
  | passed hmessages => exact .passed hmessages
  | failed hmessages hlast => exact .failed hmessages hlast

theorem andThen (h : grammar.IsSmooth) {next : α → Grammar β} (hnext : ∀ a, (next a).IsSmooth) :
    IsSmooth (grammar.andThen next) := by
  intro talk r hgrammar
  cases hgrammar with
  | stop hstop =>
      cases h _ _ hstop with
      | passed hmessages => exact .passed hmessages
      | failed hmessages hlast => exact .failed hmessages hlast
  | @go first later a r hgo hlater =>
      -- What succeeds has no failed event, so the talk behind it decides.
      cases h _ _ hgo with
      | passed hfirst =>
          cases hnext a _ _ hlater with
          | passed hmessages =>
              exact .passed (List.forall_mem_append.mpr ⟨hfirst, hmessages⟩)
          | failed hmessages hlast =>
              rw [← List.append_assoc]
              exact .failed (List.forall_mem_append.mpr ⟨hfirst, hmessages⟩) hlast

theorem hearing : IsSmooth Hearing := by
  have hreceived : ∀ messages : List ServerMessage,
      ∀ event ∈ messages.map Event.received, event.isMessage = true := by simp [Event.isMessage]
  intro talk r h
  cases h with
  | reply => exact .passed (List.forall_mem_append.mpr ⟨hreceived _, by simp [Event.isMessage]⟩)
  | missed => exact .failed (hreceived _) rfl

theorem exchange (request : ClientMessage) : IsSmooth (Exchange request) := by
  intro talk r h
  cases h with
  | unsent =>
      have hnone : ∀ event ∈ ([] : List Event), event.isMessage = true := nofun
      exact .failed hnone rfl
  | sent h =>
      cases hearing _ _ h with
      | passed hmessages => exact .passed (List.forall_mem_cons.mpr ⟨rfl, hmessages⟩)
      | @failed front _ _ hmessages hlast =>
          have hall : ∀ event ∈ Event.sent request :: front, event.isMessage = true :=
            List.forall_mem_cons.mpr ⟨rfl, hmessages⟩
          exact .failed hall hlast

theorem capability (name : String) (value : Bool) : IsSmooth (capabilityGrammar name value) :=
  (exchange _).judged _

theorem capabilities (wanted : List (Capability × Bool)) :
    IsSmooth (capabilitiesGrammar wanted) := by
  induction wanted with
  | nil => exact settled _
  | cons entry rest ih => exact (capability _ _).andThen fun _ => ih

theorem reaction (o : Options) (method : AuthMethod) (m : ServerMessage) :
    IsSmooth (reactionGrammar o method m) := by
  cases m with
  | authenticateContinue challenge =>
      simp only [reactionGrammar]
      split
      · exact (exchange _).judged _
      · exact settled _
  | ok | error | capabilities | authenticateOk | notice | other => exact settled _

theorem authentication (o : Options) (method : AuthMethod) :
    IsSmooth (authenticationGrammar o method) :=
  (exchange _).andThen (reaction o method)

/-- A connect that does not encrypt has smooth talks. -/
theorem establish (o : Options) (authenticated : Bool) {s : NetworkSession}
    (h : s.tls = .ok .disabled) : IsSmooth (establishGrammar o authenticated s) := by
  unfold establishGrammar
  rw [h]
  refine (settled _).andThen fun _ => (capabilities _).andThen fun _ => ?_
  cases authenticated with
  | true => exact authentication o s.authMethod
  | false => exact settled _

end Grammar.IsSmooth

/-! ## What talks take -/

/-- The number of receives in a talk. -/
def receivesIn (talk : List Event) : Nat :=
  talk.countP fun event => event.receipt?.isSome

theorem receives_in_cons_of_receipt {event : Event} {r : Except SessionError ServerMessage}
    (h : event.receipt? = some r) (talk : List Event) :
    receivesIn (event :: talk) = receivesIn talk + 1 :=
  List.countP_cons_of_pos (by rw [h]; rfl)

theorem receives_in_cons_of_other {event : Event} (h : event.receipt? = none) (talk : List Event) :
    receivesIn (event :: talk) = receivesIn talk :=
  List.countP_cons_of_neg (by rw [h]; exact Bool.false_ne_true)

/-- Frames are taken from the front of the bytes, each by one receive. One more receive may find no
frame behind them that is accepted, and it ends in an error. -/
inductive TakesFrames {α : Type} (bytes : Bytes) (frames : List Frame) (left : Bytes) :
    Nat → Except SessionError α → Prop where
  | all {r : Except SessionError α} (h : bytes = frames.flatMap Frame.encode ++ left) :
      TakesFrames bytes frames left frames.length r
  | beyond {rest : Bytes} {e : SessionError} (h : bytes = frames.flatMap Frame.encode ++ rest)
      (hnone : ∀ f : Frame, f.payload.length < Frame.maxLength → ¬ f.encode <+: rest) :
      TakesFrames bytes frames left (frames.length + 1) (.error e)

namespace TakesFrames

variable {α : Type} {bytes left : Bytes} {frames : List Frame} {receives : Nat}
  {r : Except SessionError α}

/-- Frames have five bytes at least. -/
theorem five_mul_length_le (frames : List Frame) :
    5 * frames.length ≤ (frames.flatMap Frame.encode).length := by
  induction frames with
  | nil => exact Nat.le_refl _
  | cons f frames ih =>
      rw [List.flatMap_cons, List.length_append, Frame.length_encode, List.length_cons, Frame.size,
        Frame.headerLength]
      omega

theorem receives_le (h : TakesFrames bytes frames left receives r) :
    receives ≤ bytes.length / 5 + 1 := by
  have hframes := five_mul_length_le frames
  cases h with
  | all h | beyond h =>
      have hlength := congrArg List.length h
      rw [List.length_append] at hlength
      omega

/-- More frames may come before. -/
theorem behind (h : TakesFrames bytes frames left receives r) (earlier : List Frame) :
    TakesFrames (earlier.flatMap Frame.encode ++ bytes) (earlier ++ frames) left
      (earlier.length + receives) r := by
  cases h with
  | all h =>
      rw [← List.length_append]
      exact .all (by rw [h, List.flatMap_append, List.append_assoc])
  | beyond h hnone =>
      rw [← Nat.add_assoc, ← List.length_append]
      exact .beyond (by rw [h, List.flatMap_append, List.append_assoc]) hnone

end TakesFrames

variable {s t u : NetworkSession} {event : Event} {talk front later : List Event}
  {entries : List Entry}

/-- A receive that brings a message has not failed. -/
theorem Event.receipt_ok_of_isMessage {r : Except SessionError ServerMessage}
    (hmessage : event.isMessage = true) (hreceipt : event.receipt? = some r) :
    ∃ m, r = .ok m := by
  cases event with
  | received m => exact ⟨m, (Option.some.inj hreceipt).symm⟩
  | sent => cases hreceipt
  | unsent | missed | secured | unsecured => cases hmessage

/-- A frame that is read from a connection was at the front of what is unread. -/
theorem Connection.unread_of_readFrame {c d : Connection} {f : Frame} (h : readFrame c = .ok f d) :
    c.unread = f.encode ++ d.unread := by
  cases hcurrent : c.current with
  | none =>
      simp only [readFrame, onTransport, hcurrent] at h
      cases h
  | some x =>
      obtain ⟨-, rest, hunread, rfl⟩ := (read_frame_of_open hcurrent).mp h
      simpa only [unread, hcurrent] using hunread

/-- A receive that is offered a frame takes it. -/
theorem Happens.takes (h : Happens s event t) {r : Except SessionError ServerMessage}
    (hreceipt : event.receipt? = some r) {f : Frame} (hoffers : s.connection.Offers f) :
    s.connection.unread = f.encode ++ t.connection.unread := by
  obtain ⟨d, hread⟩ := Connection.read_frame_iff_offers.mpr hoffers
  have hconnection : (receive s).state.connection = d := by
    simp only [receive, hread]
    split <;> rfl
  have hsame : t.connection = d := by
    cases h with
    | received h | missed h => simpa [h] using hconnection
    | sent | unsent | secured | unsecured => cases hreceipt
  rw [hsame]
  exact Connection.unread_of_readFrame hread

/-- Sending leaves what is unread as it is, whether or not it succeeds. -/
theorem Happens.unread_of_other (h : Happens s event t) (hplain : event.isPlain = true)
    (hother : event.receipt? = none) : t.connection.unread = s.connection.unread := by
  cases hcurrent : s.connection.current with
  | none => rw [h.on_closed hcurrent]
  | some x =>
      cases h with
      | sent h | unsent h =>
          rw [send_of_open _ hcurrent] at h
          split at h <;> cases h
          simp [Connection.unread, hcurrent]
      | received | missed => cases hother
      | secured | unsecured => cases hplain

/-- A dialogue is booked part by part. -/
theorem Booked.split (h : Booked s (front ++ later) entries u) :
    ∃ first second t, entries = first ++ second ∧ Booked s front first t ∧
      Booked t later second u := by
  induction front generalizing s entries with
  | nil => exact ⟨[], entries, s, rfl, .nil s, h⟩
  | cons event front ih =>
      cases h with
      | receipt hfirst hreceipt hnoted hlater =>
          obtain ⟨first, second, t, rfl, hfront, hrest⟩ := ih hlater
          exact ⟨_, second, t, (List.append_assoc _ _ _).symm,
            .receipt hfirst hreceipt hnoted hfront, hrest⟩
      | other hfirst hother hlater =>
          obtain ⟨first, second, t, rfl, hfront, hrest⟩ := ih hlater
          exact ⟨first, second, t, rfl, .other hfirst hother hfront, hrest⟩

theorem Booked.dialogue (h : Booked s talk entries t) : Dialogue s talk t := by
  induction h with
  | nil s => exact .nil s
  | receipt hfirst _ _ _ ih | other hfirst _ _ ih => exact .cons hfirst ih

/-- Without a failed event every receive takes the frame of its message. -/
theorem Booked.takes (h : Booked s talk entries t)
    (hmessages : ∀ event ∈ talk, event.isMessage = true) :
    s.connection.unread = (framesIn entries).flatMap Frame.encode ++ t.connection.unread ∧
      receivesIn talk = (framesIn entries).length := by
  induction h with
  | nil s => exact ⟨rfl, rfl⟩
  | @receipt s t u event talk r entries later hfirst hreceipt hnoted _ ih =>
      obtain ⟨hevent, hrest⟩ := List.forall_mem_cons.mp hmessages
      obtain ⟨hunread, hcount⟩ := ih hrest
      -- A receive that fails is no message, so there is a frame.
      obtain ⟨m, rfl⟩ := Event.receipt_ok_of_isMessage hevent hreceipt
      cases hnoted with
      | @message f _ hoffers _ =>
          have hframes : framesIn ([.message f] ++ later) = f :: framesIn later := rfl
          rw [hframes, hfirst.takes hreceipt hoffers, hunread, List.flatMap_cons,
            List.append_assoc, receives_in_cons_of_receipt hreceipt, hcount]
          exact ⟨rfl, rfl⟩
  | @other s t u event talk later hfirst hother _ ih =>
      obtain ⟨hevent, hrest⟩ := List.forall_mem_cons.mp hmessages
      obtain ⟨hunread, hcount⟩ := ih hrest
      rw [← hfirst.unread_of_other (Event.isPlain_of_isMessage hevent) hother,
        receives_in_cons_of_other hother]
      exact ⟨hunread, hcount⟩

/-- The last event takes the frame that comes next, if it is a receive and there is one. -/
theorem Booked.last_takes_frames {α : Type} {e : SessionError} (h : Booked s [event] entries t)
    (hplain : event.isPlain = true) :
    TakesFrames s.connection.unread (framesIn entries) t.connection.unread (receivesIn [event])
      (.error e : Except SessionError α) := by
  cases h with
  | receipt hfirst hreceipt hnoted hlater =>
      cases hlater
      have hcount : receivesIn [event] = 1 := receives_in_cons_of_receipt hreceipt []
      rw [hcount]
      cases hnoted with
      | @message f _ hoffers _ | @scrap f _ hoffers _ =>
          have htaken : s.connection.unread = [f].flatMap Frame.encode ++ t.connection.unread := by
            simpa using hfirst.takes hreceipt hoffers
          exact .all htaken
      | nothing hnone =>
          refine .beyond (List.nil_append _).symm fun f hsize hprefix => hnone f ⟨hsize, ?_⟩
          obtain ⟨rest, hrest⟩ := hprefix
          exact ⟨rest, hrest.symm⟩
  | other hfirst hother hlater =>
      cases hlater
      have hcount : receivesIn [event] = 0 := receives_in_cons_of_other hother []
      rw [hcount]
      exact .all (hfirst.unread_of_other hplain hother).symm

/-- A smooth talk takes the frames that it is booked with. -/
theorem Booked.takes_frames {α : Type} {r : Except SessionError α} (h : Booked s talk entries t)
    (hsmooth : Smooth talk r) :
    TakesFrames s.connection.unread (framesIn entries) t.connection.unread (receivesIn talk) r := by
  cases hsmooth with
  | passed hmessages =>
      obtain ⟨hunread, hcount⟩ := h.takes hmessages
      rw [hcount]
      exact .all hunread
  | @failed front last e hmessages hlast =>
      obtain ⟨first, second, u, rfl, hfront, hrest⟩ := h.split
      obtain ⟨hunread, hcount⟩ := hfront.takes hmessages
      have hframes : framesIn (first ++ second) = framesIn first ++ framesIn second :=
        List.filterMap_append
      have hreceives : receivesIn (front ++ [last]) = receivesIn front + receivesIn [last] :=
        List.countP_append
      have hlater : TakesFrames u.connection.unread (framesIn second) t.connection.unread
          (receivesIn [last]) (.error e : Except SessionError α) :=
        hrest.last_takes_frames hlast
      rw [hunread, hframes, hreceives, hcount]
      exact hlater.behind (framesIn first)

/-! ## Whole actions -/

/-- An action ends after finitely many events, and takes a frame with each receive but for one that
may be tried in vain: whatever talk of its grammar takes place is the one that the action has. -/
structure Paced {α : Type} (s : NetworkSession) (act : EStateM SessionError NetworkSession α)
    (grammar : Grammar α) : Prop where
  ends : ∃ talk entries, grammar talk (act s).outcome ∧ Booked s talk entries (act s).state
  bounded : ∀ talk entries r t, grammar talk r → Booked s talk entries t →
    (act s).outcome = r ∧ (act s).state = t ∧
      TakesFrames s.connection.unread (framesIn entries) t.connection.unread (receivesIn talk) r ∧
      receivesIn talk ≤ s.connection.unread.length / 5 + 1 ∧
      t.traffic.messagesReceived =
        s.traffic.messagesReceived + UInt64.ofNat (framesIn entries).length ∧
      t.traffic.bytesReceived =
        s.traffic.bytesReceived + UInt64.ofNat ((framesIn entries).map Frame.size).sum

theorem Follows.paced {α : Type} {act : EStateM SessionError NetworkSession α} {grammar : Grammar α}
    (h : Follows s act grammar) (hsmooth : grammar.IsSmooth) : Paced s act grammar where
  ends := by
    obtain ⟨talk, hgrammar, htalk⟩ := h.spoken
    obtain ⟨entries, hbooked⟩ := htalk.exists_booked
    exact ⟨talk, entries, hgrammar, hbooked⟩
  bounded talk entries r t hgrammar hbooked := by
    obtain ⟨houtcome, hstate⟩ := h.determined hgrammar hbooked.dialogue
    have htakes := hbooked.takes_frames (hsmooth talk r hgrammar)
    obtain ⟨hmessages, hbytes⟩ := Books.traffic_of_history s.books entries
    rw [← hbooked.books] at hmessages hbytes
    exact ⟨houtcome, hstate, htakes, htakes.receives_le, hmessages, hbytes⟩

/-- Every frame that is read has a length of at least one, takes its four bytes and that many more,
and nothing behind them; the bytes behind a header that is accepted always have a type. So waiting
for a reply, requesting a capability and authenticating end on every stream. A connect that does not
encrypt makes at most one receive for every five bytes of the server and one more, and its traffic
grows by the frames that it takes, all of them complete. -/
theorem receives_make_progress (o : Options) (authenticated : Bool) (s : NetworkSession)
    (h : Host) :
    (∀ (x y : Transport) (f : Frame), Transport.readFrame x = .ok f y →
      let length := Bytes.toNat (x.unread.take 4)
      1 ≤ length ∧ f.size = 4 + length ∧ f.encode = x.unread.take (4 + length) ∧
        f.type :: f.payload = (x.unread.drop 4).take length ∧
        y = { x with unread := x.unread.drop (4 + length) }) ∧
    (∀ (header body : Bytes) (length : Nat) (y z : Transport),
      Frame.bodyLength header = .ok length → Transport.read length y = .ok body z → body ≠ []) ∧
    Paced s receiveReply Hearing ∧
    (∀ name value, Paced s (requestCapability name value) (capabilityGrammar name value)) ∧
    Paced s (authenticate o) (authenticationGrammar o s.authMethod) ∧
    (∀ e g, Host.openTransport o s.ipMode h = .error e g →
      connect o authenticated (s, h) = .error e (s.stranded, h) ∧
        s.stranded.traffic = s.traffic) ∧
    ∀ x g, s.tls = .ok .disabled → Host.openTransport o s.ipMode h = .ok x g →
      let begun := s.carriedBy x
      begun.connection.unread = x.unread ∧ begun.traffic = s.traffic ∧
        (connect o authenticated (s, h)).outcome = (establish o authenticated begun).outcome ∧
        (connect o authenticated (s, h)).state = ((establish o authenticated begun).state, g) ∧
        Paced begun (establish o authenticated) (establishGrammar o authenticated begun) := by
  refine ⟨fun x y f => Transport.read_frame_takes, fun header body length y z =>
    Transport.body_ne_nil, (receive_reply_follows s).paced .hearing, fun name value =>
    (request_capability_follows name value s).paced (.capability name value),
    (authenticate_follows o s).paced (.authentication o s.authMethod),
    fun e g hopen => ⟨connect_of_unopened hopen, rfl⟩, fun x g hdisabled hopen => ?_⟩
  obtain ⟨houtcome, hstate⟩ := @connect_of_opened o authenticated _ _ _ _ hopen
  exact ⟨rfl, rfl, houtcome, hstate,
    (establish_follows o authenticated _).paced (.establish o authenticated hdisabled)⟩

/-- A server sends two notices without content and stops within a third frame. These are twelve
bytes, so three receives are as many as there can be. Two of them take the notices, and the client
then finds the server gone. -/
theorem receives_make_progress_through_notices :
    let o : Options := { socket := "s" }
    let s : NetworkSession := .new
    let stream : Bytes := Frame.encode ⟨11, []⟩ ++ Frame.encode ⟨11, []⟩ ++ [1, 0]
    let x : Transport := (Peer.plain stream true).transport 0
    let left := (connect o true (s, hostStopping stream)).state.1
    (∃ g, Host.openTransport o s.ipMode (hostStopping stream) = .ok x g) ∧
      ∃ talk entries, establishGrammar o true (s.carriedBy x) talk (.error .gone) ∧
        Booked (s.carriedBy x) talk entries left ∧ receivesIn talk ≤ 3 ∧
        UInt64.ofNat (framesIn entries).length = 2 ∧
        UInt64.ofNat ((framesIn entries).map Frame.size).sum = 10 := by
  intro o s stream x left
  have hopen : ∃ g, Host.openTransport o s.ipMode (hostStopping stream) = .ok x g :=
    ⟨_, EStateM.Result.eq_ok_iff.mpr ⟨Except.eq_ok_of_toOption (by decide +kernel), rfl⟩⟩
  have hgone : (connect o true (s, hostStopping stream)).outcome = .error .gone := by
    decide +kernel
  have hread : left.traffic.messagesReceived = 2 := by decide +kernel
  have hsize : left.traffic.bytesReceived = 10 := by decide +kernel
  have hlength : x.unread.length / 5 + 1 = 3 := by decide
  obtain ⟨g, hg⟩ := hopen
  obtain ⟨-, -, -, -, -, -, hconnect⟩ := receives_make_progress o true s (hostStopping stream)
  obtain ⟨hunread, -, houtcome, hstate, hends, hbounded⟩ := hconnect x g rfl hg
  obtain ⟨talk, entries, hgrammar, hbooked⟩ := hends
  obtain ⟨-, -, -, hreceives, hmessages, hbytes⟩ := hbounded talk entries _ _ hgrammar hbooked
  have hleft : (establish o true (s.carriedBy x)).state = left := by simp only [left, hstate]
  rw [← houtcome, hgone] at hgrammar
  rw [hunread, hlength] at hreceives
  rw [hleft] at hbooked hmessages hbytes
  refine ⟨⟨g, hg⟩, talk, entries, hgrammar, hbooked, hreceives, ?_, ?_⟩
  · rw [← hread, hmessages]
    exact (UInt64.zero_add _).symm
  · rw [← hsize, hbytes]
    exact (UInt64.zero_add _).symm

end SessionKeeper
