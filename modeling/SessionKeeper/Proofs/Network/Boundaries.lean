import SessionKeeper.Proofs.Network.Dialogue
import SessionKeeper.Proofs.Network.Opening

/-!
# Where the frames of a stream begin

A stream is a sequence of frames, each a length of four bytes and a body of that length, and `bodies`
takes it apart. A client is in step with it as long as it goes on reading where a frame begins.
`NetworkSession.reception` says what one receive does to the bytes that are there. The main
statement, `messages_in_step`, follows a client that receives, sends and lets the server speak in
any order, and goes on whatever fails: up to the first receive that gets it out of step, the
messages are those of the frames of the stream, in their order. A receive does that if it meets a
length that is not accepted, whose body stays there, or if it loses the beginning of a frame, whose
end arrives later.
-/

namespace SessionKeeper

open NetworkSession (send receive)

/-! ## Taking a stream apart -/

/-- A body with its length in front. -/
def framed (body : Bytes) : Bytes :=
  Bytes.littleEndian Frame.headerLength body.length ++ body

/-- The size of the frame that the first bytes of a stream announce, with its length. -/
def announcedSize (stream : Bytes) : Nat :=
  Frame.headerLength + Bytes.toNat (stream.take Frame.headerLength)

/-- The bodies of the frames of a stream, as far as these are complete. -/
def bodies (stream : Bytes) : List Bytes :=
  if announcedSize stream ≤ stream.length then
    (stream.take (announcedSize stream)).drop Frame.headerLength ::
      bodies (stream.drop (announcedSize stream))
  else []
termination_by stream.length
decreasing_by
  simp only [List.length_drop, announcedSize, Frame.headerLength] at *
  omega

/-- What receiving a frame with the given body yields. -/
def contents : Bytes → Except SessionError ServerMessage
  | [] => .error (.malformed "frame without message type")
  | type :: payload => ServerMessage.ofFrame ⟨type, payload⟩

/-- The number that bytes spell is below the first that they cannot. -/
theorem Bytes.toNat_lt (bytes : Bytes) : toNat bytes < Nat.pow 256 bytes.length := by
  induction bytes with
  | nil => exact Nat.one_pos
  | cons b bytes ih =>
      have hb := b.toNat_lt
      show b.toNat + 256 * toNat bytes < Nat.pow 256 bytes.length * 256
      omega

/-- Nothing can be taken from the beginning of a frame. -/
theorem bodies_of_incomplete {stream : Bytes} (h : stream.length < announcedSize stream) :
    bodies stream = [] := by
  rw [bodies, if_neg (Nat.not_le.mpr h)]

@[simp]
theorem bodies_nil : bodies [] = [] :=
  bodies_of_incomplete (by decide)

/-- The frame at the front is taken first. -/
theorem bodies_framed_append (body rest : Bytes)
    (h : body.length < Nat.pow 256 Frame.headerLength) :
    bodies (framed body ++ rest) = body :: bodies rest := by
  have hheader : (Bytes.littleEndian Frame.headerLength body.length).length = Frame.headerLength :=
    Bytes.length_littleEndian _ _
  have hsize : announcedSize (framed body ++ rest) = (framed body).length := by
    rw [announcedSize, framed, List.append_assoc, List.take_left' hheader,
      Bytes.toNat_littleEndian h, List.length_append, hheader]
  rw [bodies, hsize, if_pos (by simp), List.take_left, List.drop_left, framed,
    List.drop_left' hheader]

/-! ## One receive -/

/-- What a receive finds on a transport, what it yields, and what it leaves. -/
inductive Reception (x : Transport) : Except SessionError ServerMessage → Transport → Prop where
  /-- Nothing is there. -/
  | idle (hnone : x.unread = []) :
      Reception x (.error (.ofTransport x.shortage)) x.interrupted
  /-- A frame is taken, and it may be no message. -/
  | whole {body rest : Bytes} (haccepted : body.length ≤ Frame.maxLength)
      (hunread : x.unread = framed body ++ rest) :
      Reception x (contents body) { x with unread := rest }
  /-- A length is taken that is not accepted. -/
  | refused {length : Nat} {rest : Bytes} (hlong : Frame.maxLength < length)
      (hfits : length < Nat.pow 256 Frame.headerLength)
      (hunread : x.unread = Bytes.littleEndian Frame.headerLength length ++ rest) :
      Reception x (.error (.malformed ("frame of " ++ toString length ++ " bytes exceeds limit")))
        { x with unread := rest }
  /-- The beginning of a frame is lost. -/
  | torn (hstart : x.unread ≠ []) (hpart : x.unread.length < announcedSize x.unread) :
      Reception x (.error (.ofTransport x.shortage)) x.interrupted

namespace Transport

variable {x : Transport}

/-- A read that asks for too much takes what there is. -/
theorem read_of_length_lt {count : Nat} (h : x.unread.length < count) :
    read count x = .error (.ofTransport x.shortage) x.interrupted := by
  rw [read, if_neg (Nat.not_le.mpr h)]

theorem read_append {count : Nat} {bytes rest : Bytes} (h : x.unread = bytes ++ rest)
    (hcount : bytes.length = count) : read count x = .ok bytes { x with unread := rest } := by
  rw [read_eq_ok_iff]
  exact ⟨hcount, h, rfl⟩

/-- What is unread does not matter for what comes later. -/
theorem interrupted_with_unread (unread : Bytes) :
    ({ x with unread } : Transport).interrupted = x.interrupted := by
  unfold interrupted
  cases x.later <;> rfl

/-- Four bytes are the length of some frame. -/
theorem exists_length (h : Frame.headerLength ≤ x.unread.length) :
    ∃ length rest, length < Nat.pow 256 Frame.headerLength ∧
      x.unread = Bytes.littleEndian Frame.headerLength length ++ rest := by
  have hcount : (x.unread.take Frame.headerLength).length = Frame.headerLength :=
    List.length_take_of_le h
  have hfits := Bytes.toNat_lt (x.unread.take Frame.headerLength)
  have hlayout := Bytes.littleEndian_toNat (x.unread.take Frame.headerLength)
  rw [hcount] at hfits hlayout
  refine ⟨_, x.unread.drop Frame.headerLength, hfits, ?_⟩
  rw [hlayout, List.take_append_drop]

/-- A frame of a length that is accepted is taken as a whole, or what is there of it is lost. -/
theorem read_frame_reception_of_accepted {length : Nat} {rest : Bytes} (hsome : length ≠ 0)
    (haccepted : length ≤ Frame.maxLength) (hfits : length < Nat.pow 256 Frame.headerLength)
    (hunread : x.unread = Bytes.littleEndian Frame.headerLength length ++ rest) :
    Reception x ((readFrame x).outcome.bind ServerMessage.ofFrame) (readFrame x).state := by
  have hlength : Frame.bodyLength (Bytes.littleEndian Frame.headerLength length) = .ok length := by
    rw [Frame.body_length_eq_ok_iff, Bytes.toNat_littleEndian hfits]
    omega
  rw [readFrame, read_append hunread (Bytes.length_littleEndian _ _)]
  simp only [hlength]
  by_cases hpart : rest.length < length
  · simp only [read_of_length_lt (x := { x with unread := rest }) hpart, interrupted_with_unread]
    refine .torn ?_ ?_
    · simp [hunread, Bytes.littleEndian, Frame.headerLength]
    · rw [hunread, announcedSize, List.take_left' (Bytes.length_littleEndian _ _),
        Bytes.toNat_littleEndian hfits, List.length_append, Bytes.length_littleEndian]
      omega
  · obtain ⟨body, later, rfl, rfl⟩ : ∃ body later, rest = body ++ later ∧ body.length = length :=
      ⟨rest.take length, rest.drop length, (List.take_append_drop _ _).symm,
        List.length_take_of_le (Nat.not_lt.mp hpart)⟩
    have hwhole : Reception x (contents body) { x with unread := later } :=
      .whole haccepted (by rw [hunread, framed, List.append_assoc])
    simp only [read_append (x := { x with unread := body ++ later }) rfl rfl]
    cases body with
    | nil => exact absurd rfl hsome
    | cons type payload => exact hwhole

/-- Reading a frame and decoding it is a reception of what is unread. -/
theorem read_frame_reception (x : Transport) :
    Reception x ((readFrame x).outcome.bind ServerMessage.ofFrame) (readFrame x).state := by
  by_cases hheader : x.unread.length < Frame.headerLength
  · rw [readFrame, read_of_length_lt hheader]
    by_cases hnone : x.unread = []
    · exact .idle hnone
    · exact .torn hnone (Nat.lt_add_right _ hheader)
  · obtain ⟨length, rest, hfits, hunread⟩ := exists_length (Nat.not_lt.mp hheader)
    by_cases haccepted : length ≠ 0 ∧ length ≤ Frame.maxLength
    · exact read_frame_reception_of_accepted haccepted.1 haccepted.2 hfits hunread
    · -- Nothing is read behind a length that is not accepted.
      rw [readFrame, read_append hunread (Bytes.length_littleEndian _ _)]
      simp only [Frame.bodyLength, Bytes.toNat_littleEndian hfits]
      by_cases hzero : length = 0
      · subst hzero
        have hempty : Reception x (contents []) { x with unread := rest } :=
          .whole (Nat.zero_le _) hunread
        rw [if_pos rfl]
        exact hempty
      · have hlong : Frame.maxLength < length := by omega
        rw [if_neg hzero, if_pos hlong]
        exact .refused hlong hfits hunread

end Transport

/-- Receiving is a reception, and changes nothing else about the connection. -/
theorem NetworkSession.reception {s : NetworkSession} {x : Transport}
    (hopen : s.connection.current = some x) :
    ∃ y, Reception x (receive s).outcome y ∧
      (receive s).state.connection = { s.connection with current := some y } := by
  refine ⟨(Transport.readFrame x).state, ?_, ?_⟩
  · have houtcome : (receive s).outcome =
        (Transport.readFrame x).outcome.bind ServerMessage.ofFrame := by
      simp only [receive, Connection.readFrame, Connection.onTransport, hopen]
      cases Transport.readFrame x with
      | error e y => rfl
      | ok frame y => cases hmessage : ServerMessage.ofFrame frame <;> simp [hmessage, Except.bind]
    rw [houtcome]
    exact Transport.read_frame_reception x
  · simp only [receive, Connection.readFrame, Connection.onTransport, hopen]
    cases Transport.readFrame x with
    | error e y => rfl
    | ok frame y => cases hmessage : ServerMessage.ofFrame frame <;> simp [hmessage]

/-! ## Schedules -/

/-- Something that a client does with an open session, or that its server does. -/
inductive Occasion where
  | sends (message : ClientMessage)
  | receives
  /-- The server sends bytes. -/
  | arrives (bytes : Bytes)
  /-- The server sends nothing more. -/
  | ends
  deriving DecidableEq

/-- The bytes that arrive from now on. -/
def arriving : List Occasion → Bytes
  | [] => []
  | .arrives bytes :: schedule => bytes ++ arriving schedule
  | .ends :: _ => []
  | .sends _ :: schedule | .receives :: schedule => arriving schedule

/-- What is still to come behind the bytes that are there. -/
def Transport.coming (schedule : List Occasion) (x : Transport) : Bytes :=
  x.later.flatMap Interruption.bytes ++ if x.ended then [] else arriving schedule

/-- What the server has sent and the client has not read, with all that is still to come. -/
def Transport.stream (schedule : List Occasion) (x : Transport) : Bytes :=
  x.unread ++ x.coming schedule

namespace NetworkSession

/-- Something happens at the other end of the transport. -/
def atPeer (f : Transport → Transport) (s : NetworkSession) : NetworkSession :=
  { s with connection := { s.connection with current := s.connection.current.map f } }

/-- What an occasion makes of a session. -/
def after (s : NetworkSession) : Occasion → NetworkSession
  | .sends message => (send message s).state
  | .receives => (receive s).state
  | .arrives bytes => s.atPeer (Transport.deliver bytes)
  | .ends => s.atPeer Transport.finish

/-- The message that an occasion brings. -/
def messageOn (s : NetworkSession) : Occasion → Option ServerMessage
  | .receives => (receive s).outcome.toOption
  | .sends _ | .arrives _ | .ends => none

/-- What a schedule makes of a session. -/
def afterAll (s : NetworkSession) (schedule : List Occasion) : NetworkSession :=
  schedule.foldl after s

/-- The messages that a schedule brings, in their order. -/
def messagesOn (s : NetworkSession) : List Occasion → List ServerMessage
  | [] => []
  | occasion :: schedule => (s.messageOn occasion).toList ++ (s.after occasion).messagesOn schedule

end NetworkSession

/-- A receive gets the client out of step: it takes a length that is not accepted and leaves the body
behind, or it loses the beginning of a frame of which more is to come. -/
inductive Transport.Slips (x : Transport) (later : List Occasion) : Prop where
  | refused (length : Nat) (rest : Bytes) (hlong : Frame.maxLength < length)
      (hfits : length < Nat.pow 256 Frame.headerLength)
      (hunread : x.unread = Bytes.littleEndian Frame.headerLength length ++ rest)
  | torn (hstart : x.unread ≠ []) (hpart : x.unread.length < announcedSize x.unread)
      (hcoming : x.coming later ≠ [])

variable {s : NetworkSession} {x : Transport} {occasion : Occasion} {later : List Occasion}

/-- What comes behind an interruption was still to come before. -/
theorem Transport.stream_interrupted (later : List Occasion) (x : Transport) :
    x.interrupted.stream later = x.coming later := by
  unfold interrupted
  split
  · next hlater => simp [stream, coming, hlater]
  · next next rest hlater => simp [stream, coming, hlater]

/-- A receive that does not slip takes a frame from the stream, or nothing. -/
theorem Reception.in_step {outcome : Except SessionError ServerMessage} {y : Transport}
    (h : Reception x outcome y) (hslips : ¬ x.Slips later) :
    ∃ taken, outcome.toOption.toList = taken.filterMap (fun body => (contents body).toOption) ∧
      bodies (x.stream later) = taken ++ bodies (y.stream later) := by
  cases h with
  | idle hnone =>
      refine ⟨[], rfl, ?_⟩
      rw [Transport.stream_interrupted, Transport.stream, hnone]
      rfl
  | @whole body rest haccepted hunread =>
      have hfits : body.length < Nat.pow 256 Frame.headerLength :=
        Nat.lt_of_le_of_lt haccepted (by decide)
      refine ⟨[body], ?_, ?_⟩
      · rw [List.filterMap_cons]
        cases contents body <;> rfl
      · rw [Transport.stream, hunread, List.append_assoc, bodies_framed_append _ _ hfits]
        rfl
  | refused hlong hfits hunread => exact absurd (.refused _ _ hlong hfits hunread) hslips
  | torn hstart hpart =>
      -- Whatever would complete the frame does not come.
      have hnothing : x.coming later = [] :=
        Classical.not_not.mp fun hcoming => hslips (.torn hstart hpart hcoming)
      refine ⟨[], rfl, ?_⟩
      rw [Transport.stream_interrupted, Transport.stream, hnothing, List.append_nil,
        bodies_of_incomplete hpart, bodies_nil]
      rfl

/-- What is delivered comes behind all that is there. -/
theorem Transport.stream_deliver (bytes : Bytes) (later : List Occasion) (x : Transport) :
    (x.deliver bytes).stream later = x.stream (.arrives bytes :: later) := by
  cases hended : x.ended with
  | true => simp [deliver, stream, coming, hended]
  | false =>
      rcases List.eq_nil_or_concat x.later with hnone | ⟨front, last, hlast⟩
      · simp [deliver, stream, coming, arriving, hended, hnone]
      · simp [deliver, stream, coming, arriving, hended, hlast]

namespace NetworkSession

/-- Sending may write on the transport, and changes nothing else that can be read. -/
theorem send_on_transport (message : ClientMessage) (hopen : s.connection.current = some x) :
    ∃ sends written broken, (send message s).state.connection.current =
      some { x with sends, written, broken } := by
  rw [send_of_open _ hopen]
  split
  · exact ⟨_, _, x.broken, rfl⟩
  · exact ⟨_, x.written, _, rfl⟩

/-- What happens on an open session, unless it is a receive that slips, takes from the stream what it
brings. -/
theorem after_in_step (hopen : s.connection.current = some x)
    (hslips : occasion = .receives → ¬ x.Slips later) :
    ∃ taken y, (s.after occasion).connection.current = some y ∧
      (s.messageOn occasion).toList = taken.filterMap (fun body => (contents body).toOption) ∧
      bodies (x.stream (occasion :: later)) = taken ++ bodies (y.stream later) := by
  cases occasion with
  | sends message =>
      obtain ⟨sends, written, broken, hleft⟩ := send_on_transport message hopen
      exact ⟨[], _, hleft, rfl, rfl⟩
  | receives =>
      obtain ⟨y, hreception, hleft⟩ := reception hopen
      obtain ⟨taken, hmessage, hbodies⟩ := hreception.in_step (hslips rfl)
      exact ⟨taken, y, by rw [after, hleft], hmessage, hbodies⟩
  | arrives bytes =>
      refine ⟨[], x.deliver bytes, ?_, rfl, ?_⟩
      · simp [after, atPeer, hopen]
      · rw [Transport.stream_deliver]
        rfl
  | ends =>
      refine ⟨[], x.finish, ?_, rfl, ?_⟩
      · simp [after, atPeer, hopen]
      · simp [Transport.stream, Transport.coming, Transport.finish, arriving]

/-- Along every schedule on an open session the client is in step with the stream up to some point:
the messages until then are what the frames at the front of the stream contain, each frame taken
once and in order, and what is left is left as whole frames. That point is the end of the schedule,
or a receive that slips. -/
theorem messages_in_step (hopen : s.connection.current = some x) (schedule : List Occasion) :
    ∃ before rest taken y,
      schedule = before ++ rest ∧
      s.messagesOn before = taken.filterMap (fun body => (contents body).toOption) ∧
      (s.afterAll before).connection.current = some y ∧
      bodies (x.stream schedule) = taken ++ bodies (y.stream rest) ∧
      (rest = [] ∨ ∃ later, rest = .receives :: later ∧ y.Slips later) := by
  induction schedule generalizing s x with
  | nil => exact ⟨[], [], [], x, rfl, rfl, hopen, rfl, .inl rfl⟩
  | cons occasion schedule ih =>
      by_cases hslips : occasion = .receives ∧ x.Slips schedule
      · obtain ⟨rfl, hslips⟩ := hslips
        exact ⟨[], _, [], x, rfl, rfl, hopen, rfl, .inr ⟨schedule, rfl, hslips⟩⟩
      · obtain ⟨first, y, hleft, hmessage, hbodies⟩ :=
          after_in_step hopen fun hreceives hslip => hslips ⟨hreceives, hslip⟩
        obtain ⟨before, rest, taken, z, rfl, hmessages, hafter, hlater, hend⟩ := ih hleft
        refine ⟨occasion :: before, rest, first ++ taken, z, rfl, ?_, hafter, ?_, hend⟩
        · rw [messagesOn, hmessage, hmessages, List.filterMap_append]
        · rw [hbodies, hlater, List.append_assoc]

/-- A transport with bytes to be read, over which more may come. -/
def holding (unread : Bytes) : Transport :=
  (Peer.plain unread false).transport 0

/-- An empty frame is no message, and the frame behind it is read all the same. -/
theorem messages_in_step_behind_empty_frame :
    let x := holding (framed [] ++ framed [4])
    let s := NetworkSession.new.carriedBy x
    let schedule := [.receives, .arrives (framed [9]), .receives]
    s.connection.current = some x ∧ s.messagesOn schedule = [.authenticateOk] ∧
      ∃ before rest taken y,
        schedule = before ++ rest ∧
        s.messagesOn before = taken.filterMap (fun body => (contents body).toOption) ∧
        (s.afterAll before).connection.current = some y ∧
        bodies (x.stream schedule) = taken ++ bodies (y.stream rest) ∧
        (rest = [] ∨ ∃ later, rest = .receives :: later ∧ y.Slips later) := by
  intro x s schedule
  exact ⟨rfl, rfl, messages_in_step (s := s) (x := x) rfl schedule⟩

/-- Neither stream has a frame that is a message, and yet one is received: the first stream announces
a frame that is too long and is read on behind its length, and of the second the beginning is lost
before the end arrives. -/
theorem messages_out_of_step :
    let long := holding [1, 0, 0, 4, 1, 0, 0, 0, 4]
    let slow := holding []
    let arrivals := [.arrives [5, 0, 0, 0], .receives, .arrives [1, 0, 0, 0, 4], .receives]
    bodies (long.stream [.receives, .receives]) = [] ∧
      (NetworkSession.new.carriedBy long).messagesOn [.receives, .receives] = [.authenticateOk] ∧
      bodies (slow.stream arrivals) = [[1, 0, 0, 0, 4]] ∧
      (contents [1, 0, 0, 0, 4]).toOption = none ∧
      (NetworkSession.new.carriedBy slow).messagesOn arrivals = [.authenticateOk] := by
  intro long slow arrivals
  refine ⟨bodies_of_incomplete ?_, ?_, ?_, ?_, ?_⟩
  · decide
  · rfl
  · exact (bodies_framed_append [1, 0, 0, 0, 4] [] (by decide)).trans (by rw [bodies_nil])
  · with_unfolding_all rfl
  · rfl

end NetworkSession

end SessionKeeper
