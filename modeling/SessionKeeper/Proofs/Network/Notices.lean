import SessionKeeper.Proofs.Network.Boundaries
import SessionKeeper.Proofs.Network.Conformance

/-!
# Notices in a handshake

A session that connects without encryption passes over notices wherever they come, so two servers
that send the same frames but for the notices among them meet the same client. What a notice may
change is the client id and what is counted. The main statement, `notices_transparent`, compares two
connects whose servers differ in this way, and says which client id a connect leaves.
-/

namespace SessionKeeper

open NetworkSession

/-! ## Streams that differ in notices -/

namespace Frame

/-- Whether the frame holds a notice. -/
def isNotice (f : Frame) : Bool :=
  (ServerMessage.ofFrame f).toOption.any (·.isNotice)

/-- Frames that a client accepts. -/
def AllAccepted (frames : List Frame) : Prop :=
  ∀ f ∈ frames, f.payload.length < maxLength

/-- Accepted frames that are the same but for the notices among them. -/
structure AlikeButNotices (frames frames' : List Frame) : Prop where
  accepted : AllAccepted frames
  accepted' : AllAccepted frames'
  same : frames.filter (!·.isNotice) = frames'.filter (!·.isNotice)

/-- Accepted frames that are all notices. -/
structure AreNotices (frames : List Frame) : Prop where
  accepted : AllAccepted frames
  notices : ∀ f ∈ frames, f.isNotice = true

/-- Where no other frame is there are notices only. -/
theorem are_notices_of_filter {frames : List Frame} (haccepted : AllAccepted frames)
    (hnone : frames.filter (!·.isNotice) = []) : AreNotices frames where
  accepted := haccepted
  notices := by simpa using hnone

/-- Before the first frame that is no notice there are notices only. -/
theorem split_of_filter {frames replies : List Frame} {f : Frame} (haccepted : AllAccepted frames)
    (h : frames.filter (!·.isNotice) = f :: replies) :
    ∃ notices later, frames = notices ++ f :: later ∧ AreNotices notices ∧
      f.payload.length < maxLength ∧ f.isNotice = false ∧ AllAccepted later ∧
        later.filter (!·.isNotice) = replies := by
  obtain ⟨notices, later, rfl, hnotices, hreply, hlater⟩ := List.filter_eq_cons_iff.mp h
  obtain ⟨hfirst, hrest⟩ := List.forall_mem_append.mp haccepted
  obtain ⟨hf, hrest⟩ := List.forall_mem_cons.mp hrest
  exact ⟨notices, later, rfl, ⟨hfirst, by simpa using hnotices⟩, hf, by simpa using hreply, hrest,
    hlater⟩

end Frame

/-- Two streams that end in the same way. Some frames that both have before that may have other
notices in front of them. -/
inductive Strewn (rest : Bytes) : Bytes → Bytes → Prop where
  | same (bytes : Bytes) : Strewn rest bytes bytes
  | reply {notices notices' : List Frame} {f : Frame} {later later' : Bytes}
      (hnotices : Frame.AreNotices notices) (hnotices' : Frame.AreNotices notices')
      (haccepted : f.payload.length < Frame.maxLength) (hreply : f.isNotice = false)
      (hrest : rest.length ≤ later.length) (hlater : Strewn rest later later') :
      Strewn rest (notices.flatMap Frame.encode ++ (f.encode ++ later))
        (notices'.flatMap Frame.encode ++ (f.encode ++ later'))

/-- What is left of both is the same once one of them is at its end. -/
theorem Strewn.eq_of_suffix {rest bytes bytes' : Bytes} (h : Strewn rest bytes bytes')
    (hend : bytes <:+ rest) : bytes' = bytes := by
  cases h with
  | same => rfl
  | reply _ _ _ _ hrest _ =>
      have hlength := hend.length_le
      simp only [List.length_append, Frame.length_encode, Frame.size] at hlength
      omega

/-- Frames that are the same but for notices make streams that are, if the last one is no notice.
The induction is on the frames that both series share. -/
theorem Frame.AlikeButNotices.strewn {frames frames' : List Frame} {last : Frame}
    (h : AlikeButNotices frames frames') (haccepted : last.payload.length < maxLength)
    (hlast : last.isNotice = false) (rest : Bytes) :
    Strewn rest (frames.flatMap encode ++ (last.encode ++ rest))
      (frames'.flatMap encode ++ (last.encode ++ rest)) := by
  obtain ⟨hsizes, hsizes', hsame⟩ := h
  generalize hreplies : frames.filter (!·.isNotice) = replies at hsame
  induction replies generalizing frames frames' with
  | nil =>
      exact .reply (are_notices_of_filter hsizes hreplies)
        (are_notices_of_filter hsizes' hsame.symm) haccepted hlast (Nat.le_refl _) (.same rest)
  | cons f replies ih =>
      obtain ⟨notices, later, rfl, hnotices, hf, hreply, hlater, hmore⟩ :=
        split_of_filter hsizes hreplies
      obtain ⟨notices', later', rfl, hnotices', -, -, hlater', hmore'⟩ :=
        split_of_filter hsizes' hsame.symm
      have hstrewn := ih hlater hlater' hmore hmore'.symm
      simp only [List.flatMap_append, List.flatMap_cons, List.append_assoc]
      exact .reply hnotices hnotices' hf hreply (by simp only [List.length_append]; omega) hstrewn

/-! ## Waiting for a reply -/

theorem Connection.unread_of_open {c : Connection} {x : Transport} (h : c.current = some x) :
    c.unread = x.unread := by
  rw [unread, h]

section Waiting

variable {s t : NetworkSession} {x : Transport} {f : Frame} {later : Bytes}

/-- What is received is the frame that comes next. -/
theorem NetworkSession.receive_of_frame (hopen : s.connection.current = some x)
    (haccepted : f.payload.length < Frame.maxLength) (hunread : x.unread = f.encode ++ later) :
    (receive s).outcome = ServerMessage.ofFrame f ∧
      (receive s).state.connection =
        { s.connection with current := some { x with unread := later } } := by
  have hread : Transport.readFrame x = .ok f { x with unread := later } :=
    Transport.read_frame_eq_ok_iff.mpr ⟨haccepted, hunread, rfl⟩
  simp only [receive, Connection.readFrame, Connection.onTransport, hopen, hread]
  cases ServerMessage.ofFrame f <;> exact ⟨rfl, rfl⟩

/-- A frame that is no notice ends the waiting. -/
theorem NetworkSession.receive_reply_of_front (hopen : s.connection.current = some x)
    (haccepted : f.payload.length < Frame.maxLength) (hreply : f.isNotice = false)
    (hunread : x.unread = f.encode ++ later) : receiveReply s = receive s := by
  obtain ⟨houtcome, -⟩ := receive_of_frame hopen haccepted hunread
  cases hreceive : receive s with
  | error e t => exact receive_reply_of_error hreceive
  | ok m t =>
      rw [hreceive] at houtcome
      have hm : m.isNotice = false := by
        simpa [Frame.isNotice, ← houtcome, Except.toOption] using hreply
      exact receive_reply_of_reply hreceive hm

/-- Waiting begins anew behind the notices that come first. -/
theorem NetworkSession.receive_reply_of_notices {notices : List Frame}
    (hopen : s.connection.current = some x) (hnotices : Frame.AreNotices notices)
    (hunread : x.unread = notices.flatMap Frame.encode ++ later) :
    ∃ t, receiveReply s = receiveReply t ∧
      t.connection = { s.connection with current := some { x with unread := later } } := by
  obtain ⟨haccepted, hall⟩ := hnotices
  induction notices generalizing s x with
  | nil =>
      obtain rfl : x.unread = later := hunread
      exact ⟨s, rfl, by rw [← hopen]⟩
  | cons notice notices ih =>
      obtain ⟨hnotice, hall⟩ := List.forall_mem_cons.mp hall
      obtain ⟨hfirst, haccepted⟩ := List.forall_mem_cons.mp haccepted
      rw [List.flatMap_cons, List.append_assoc] at hunread
      obtain ⟨houtcome, hconnection⟩ := receive_of_frame hopen hfirst hunread
      cases hreceive : receive s with
      | error e t =>
          rw [hreceive] at houtcome
          simp [Frame.isNotice, ← houtcome, Except.toOption] at hnotice
      | ok m t =>
          rw [hreceive] at houtcome hconnection
          have hm : m.isNotice = true := by
            simpa [Frame.isNotice, ← houtcome, Except.toOption] using hnotice
          -- The notice is taken off, and waiting goes on behind it.
          have hnext : (t.learn m).connection = { s.connection with
              current := some { x with unread := notices.flatMap Frame.encode ++ later } } :=
            (connection_learn t m).trans hconnection
          obtain ⟨u, hwait, hu⟩ := ih (congrArg Connection.current hnext) rfl haccepted hall
          rw [hnext] at hu
          exact ⟨u, (receive_reply_of_notice hreceive hm).trans hwait, hu⟩

/-- The first frame that is no notice decides what waiting comes to, and nothing behind it is
taken. -/
theorem NetworkSession.receive_reply_of_frame {notices : List Frame}
    (hopen : s.connection.current = some x) (hnotices : Frame.AreNotices notices)
    (haccepted : f.payload.length < Frame.maxLength) (hreply : f.isNotice = false)
    (hunread : x.unread = notices.flatMap Frame.encode ++ (f.encode ++ later)) :
    (receiveReply s).outcome = ServerMessage.ofFrame f ∧
      (receiveReply s).state.connection =
        { s.connection with current := some { x with unread := later } } := by
  obtain ⟨t, hwait, ht⟩ := receive_reply_of_notices hopen hnotices hunread
  have hcurrent := congrArg Connection.current ht
  obtain ⟨houtcome, hconnection⟩ := receive_of_frame hcurrent haccepted rfl
  rw [hwait, receive_reply_of_front hcurrent haccepted hreply rfl]
  exact ⟨houtcome, by rw [hconnection, ht]⟩

/-- No handshake takes place while a reply is waited for. -/
theorem Hearing.leaves_open {talk : List Event} {r : Except SessionError ServerMessage}
    (h : Hearing talk r) : ∀ event ∈ talk, event.leavesOpen = true := by
  intro event hmem
  cases h with
  | reply | missed =>
      rw [List.mem_append, List.mem_map, List.mem_singleton] at hmem
      obtain ⟨_, -, rfl⟩ | rfl := hmem <;> rfl

/-- Waiting changes no settings, and leaves an open transport open. -/
theorem NetworkSession.receive_reply_stays (hopen : s.connection.current = some x) :
    SameSettings s (receiveReply s).state ∧
      ∃ y, (receiveReply s).state.connection.current = some y := by
  obtain ⟨talk, hgrammar, htalk⟩ := (receive_reply_follows s).spoken
  obtain ⟨y, hleft⟩ := htalk.on_transport hopen
  exact ⟨htalk.settings, y, by rw [(hleft.stays hgrammar.leaves_open).1]⟩

/-- Sessions with the same connection receive the same. -/
theorem NetworkSession.receive_of_same (h : t.connection = s.connection) :
    (receive t).outcome = (receive s).outcome ∧
      (receive t).state.connection = (receive s).state.connection := by
  simp only [receive, h]
  cases s.connection.readFrame with
  | error e c => exact ⟨rfl, rfl⟩
  | ok frame c => cases hm : ServerMessage.ofFrame frame <;> simp [hm]

/-- They also wait for the same reply. The induction follows the waiting of the first one. -/
theorem NetworkSession.receive_reply_of_same (h : t.connection = s.connection) :
    (receiveReply t).outcome = (receiveReply s).outcome ∧
      (receiveReply t).state.connection = (receiveReply s).state.connection := by
  induction s using receiveReply.induct generalizing t with
  | case1 s e u hreceive =>
      have hsame := receive_of_same h
      rw [hreceive] at hsame
      have hother := EStateM.Result.eq_error_iff.mpr ⟨hsame.1, rfl⟩
      rw [receive_reply_of_error hreceive, receive_reply_of_error hother]
      exact ⟨rfl, hsame.2⟩
  | case2 s m u hreceive hnotice ih =>
      have hsame := receive_of_same h
      rw [hreceive] at hsame
      have hother := EStateM.Result.eq_ok_iff.mpr ⟨hsame.1, rfl⟩
      rw [receive_reply_of_notice hreceive hnotice, receive_reply_of_notice hother hnotice]
      refine ih ?_
      rw [connection_learn, connection_learn]
      exact hsame.2
  | case3 s m u hreceive hreply =>
      have hreply : m.isNotice = false := by simpa using hreply
      have hsame := receive_of_same h
      rw [hreceive] at hsame
      have hother := EStateM.Result.eq_ok_iff.mpr ⟨hsame.1, rfl⟩
      rw [receive_reply_of_reply hreceive hreply, receive_reply_of_reply hother hreply]
      exact ⟨rfl, hsame.2⟩

end Waiting

/-! ## Sessions that differ in notices -/

/-- Two sessions that were told the same, over transports that differ in the notices that come on
them at most. -/
structure Abreast (rest : Bytes) (s t : NetworkSession) : Prop where
  settings : SameSettings s t
  connection : ∃ x unread, s.connection.current = some x ∧ Strewn rest x.unread unread ∧
    t.connection = { s.connection with current := some { x with unread } }

variable {α β : Type}

/-- Whatever notices come, the action has the same outcome, and the sessions stay abreast. -/
structure PassesOver (act : EStateM SessionError NetworkSession α) : Prop where
  abreast : ∀ {rest s t}, Abreast rest s t →
    (act t).outcome = (act s).outcome ∧ Abreast rest (act s).state (act t).state

namespace PassesOver

variable {act : EStateM SessionError NetworkSession α}

theorem settled (r : Except SessionError α)
    (hact : ∀ s, (act s).outcome = r ∧ (act s).state = s) : PassesOver act where
  abreast {rest s t} h := by
    rw [(hact s).1, (hact s).2, (hact t).1, (hact t).2]
    exact ⟨rfl, h⟩

theorem judged (hact : PassesOver act) {verdict : α → Except SessionError β}
    {whole : EStateM SessionError NetworkSession β}
    (hwhole : ∀ s, (whole s).outcome = (act s).outcome.bind verdict ∧
      (whole s).state = (act s).state) : PassesOver whole where
  abreast {rest s t} h := by
    obtain ⟨houtcome, hstate⟩ := hact.abreast h
    rw [(hwhole s).1, (hwhole s).2, (hwhole t).1, (hwhole t).2, houtcome]
    exact ⟨rfl, hstate⟩

theorem andThen (hact : PassesOver act) {next : α → EStateM SessionError NetworkSession β}
    (hnext : ∀ a, PassesOver (next a)) : PassesOver (EStateM.bind act next) where
  abreast {rest s t} h := by
    obtain ⟨houtcome, hstate⟩ := hact.abreast h
    simp only [EStateM.bind]
    cases hs : act s with
    | error e u =>
        rw [hs] at houtcome hstate
        rw [EStateM.Result.eq_error_iff.mpr ⟨houtcome, rfl⟩]
        exact ⟨rfl, hstate⟩
    | ok a u =>
        rw [hs] at houtcome hstate
        rw [EStateM.Result.eq_ok_iff.mpr ⟨houtcome, rfl⟩]
        exact (hnext a).abreast hstate

end PassesOver

theorem send_passes_over (m : ClientMessage) : PassesOver (send m) := by
  constructor
  rintro rest s t ⟨⟨htls, hcapabilities, hmethod, hip⟩, x, unread, hopen, hstrewn, hconnection⟩
  have hother : t.connection.current = some { x with unread } := by rw [hconnection]
  have hsame : Transport.sendFailure? { x with unread } 0 = x.sendFailure? 0 := rfl
  rw [send_of_open m hopen, send_of_open m hother, hsame]
  cases x.sendFailure? 0 with
  | none =>
      exact ⟨rfl, ⟨htls, hcapabilities, hmethod, hip⟩,
        { x with sends := x.sends.tail, written := _ }, unread, rfl, hstrewn,
        by simp only [EStateM.Result.state_ok, hconnection]⟩
  | some failure =>
      exact ⟨rfl, ⟨htls, hcapabilities, hmethod, hip⟩,
        { x with sends := x.sends.tail, broken := _ }, unread, rfl, hstrewn,
        by simp only [EStateM.Result.state_error, hconnection]⟩

/-- On either side the same frame ends the waiting, whatever notices come before it. -/
theorem receive_reply_passes_over : PassesOver receiveReply := by
  constructor
  rintro rest s t ⟨hsettings, x, unread, hopen, hstrewn, hconnection⟩
  have hother : t.connection.current = some { x with unread } := by rw [hconnection]
  obtain ⟨hs, y, hy⟩ := receive_reply_stays hopen
  obtain ⟨ht, -⟩ := receive_reply_stays hother
  have hlater := hs.symm.trans (hsettings.trans ht)
  generalize hunread : x.unread = first at hstrewn
  cases hstrewn with
  | same =>
      subst hunread
      have hsame : t.connection = s.connection := by rw [hconnection, ← hopen]
      obtain ⟨houtcome, hleft⟩ := receive_reply_of_same hsame
      exact ⟨houtcome, hlater, y, y.unread, hy, .same _, by rw [hleft, ← hy]⟩
  | reply hnotices hnotices' haccepted hreply _ hbehind =>
      obtain ⟨houtcome, hleft⟩ := receive_reply_of_frame hopen hnotices haccepted hreply hunread
      obtain ⟨houtcome', hleft'⟩ := receive_reply_of_frame hother hnotices' haccepted hreply rfl
      refine ⟨houtcome'.trans houtcome.symm, hlater, _, _, congrArg Connection.current hleft,
        hbehind, ?_⟩
      rw [hleft', hleft, hconnection]

theorem exchange_passes_over (request : ClientMessage) : PassesOver (exchange request) :=
  (send_passes_over request).andThen fun _ => receive_reply_passes_over

theorem request_capability_passes_over (name : String) (value : Bool) :
    PassesOver (requestCapability name value) :=
  (exchange_passes_over _).judged (exchange_judged (capabilityRequest name value) capabilityVerdict)

theorem request_capabilities_passes_over (wanted : List (Capability × Bool)) :
    PassesOver (requestCapabilities wanted) := by
  induction wanted with
  | nil => exact .settled (.ok ()) fun _ => ⟨rfl, rfl⟩
  | cons entry rest ih =>
      rw [request_capabilities_cons]
      exact (request_capability_passes_over _ _).andThen fun _ => ih

theorem react_passes_over (o : Options) (m : ServerMessage) : PassesOver (react o m) := by
  cases m with
  | authenticateContinue challenge =>
      have hanswer : PassesOver (answerChallenge o challenge) :=
        (exchange_passes_over _).judged
          (exchange_judged (answerRequest o challenge) authenticationVerdict)
      constructor
      intro rest s t h
      simp only [react, h.settings.authMethod]
      split
      · exact hanswer.abreast h
      · exact ⟨rfl, h⟩
  | ok | error | capabilities | authenticateOk | notice | other =>
      exact .settled _ fun _ => ⟨rfl, rfl⟩

theorem authenticate_passes_over (o : Options) : PassesOver (authenticate o) where
  abreast {rest s t} h := by
    rw [authenticate_eq, authenticate_eq, h.settings.authMethod]
    exact ((exchange_passes_over _).andThen (react_passes_over o)).abreast h

theorem proceed_passes_over (o : Options) (authenticated : Bool) :
    PassesOver (proceed o authenticated) where
  abreast {rest s t} h := by
    have hlast : PassesOver (if authenticated then authenticate o else pure ()) := by
      cases authenticated with
      | true => exact authenticate_passes_over o
      | false => exact .settled (.ok ()) fun _ => ⟨rfl, rfl⟩
    simp only [proceed, h.settings.capabilities]
    exact ((request_capabilities_passes_over _).andThen fun _ => hlast).abreast h

/-! ## What a connect takes -/

/-- The messages that are taken from a transport if some bytes are left on it. They are the ones in
front of what is left, or a receive that fails behind them leaves it. -/
inductive Consumes (x : Transport) (left : Bytes) (messages : List ServerMessage) : Prop where
  | stopped (h : Delivers x.unread messages left)
  | failed {y z : Transport} {e : SessionError} (h : Delivers x.unread messages y.unread)
      (hlater : y.later = x.later) (hended : y.ended = x.ended)
      (hfails : Reception y (.error e) z) (hleft : z.unread = left)

/-- The last client id that some messages tell. -/
def lastClientId (messages : List ServerMessage) : Option UInt64 :=
  (messages.filterMap (·.assignedClientId)).getLast?

section Taking

variable {s t : NetworkSession} {x : Transport} {event : Event} {talk last : List Event}

theorem NetworkSession.client_id_receive (s : NetworkSession) :
    (receive s).state.clientId = s.clientId := by
  simp only [receive]
  split
  · rfl
  · split <;> rfl

/-- An event changes the client id if it brings a notice that tells one. -/
theorem Happens.client_id (h : Happens s event t) :
    t.clientId = (lastClientId event.receivedMessage?.toList).getD s.clientId := by
  cases h with
  | @received m u h =>
      have hsame := client_id_receive s
      rw [h, EStateM.Result.state_ok] at hsame
      rw [← hsame]
      cases hid : m.assignedClientId <;>
        simp [learn, hid, lastClientId, Event.receivedMessage?]
  | missed h =>
      have hsame := client_id_receive s
      rwa [h] at hsame
  | sent h | unsent h =>
      simp only [send] at h
      split at h <;> cases h
      rfl
  | secured h | unsecured h =>
      simp only [encrypt] at h
      split at h <;> cases h
      rfl

/-- After a dialogue the last client id that was told counts. -/
theorem Dialogue.client_id (h : Dialogue s talk t) :
    t.clientId = (lastClientId (receivedIn talk)).getD s.clientId := by
  induction h with
  | nil => rfl
  | cons hfirst _ ih =>
      rw [ih, hfirst.client_id, received_in_cons]
      simp only [lastClientId, List.filterMap_append, List.getLast?_append]
      cases (List.filterMap _ (receivedIn _)).getLast? <;> rfl

/-- What may come at the end of messages: nothing, or a call that fails. -/
inductive LastCall : List Event → Prop where
  | none : LastCall []
  | unsent (m : ClientMessage) (e : SessionError) : LastCall [.unsent m e]
  | missed (e : SessionError) : LastCall [.missed e]

/-- A conclusion consists of messages, but for a last call that may have failed. -/
theorem Conclusion.events_split (conclusion : Conclusion) :
    ∃ talk last, conclusion.events = talk ++ last ∧ (∀ event ∈ talk, event.isMessage = true) ∧
      LastCall last := by
  cases conclusion with
  | complete => exact ⟨[], [], rfl, nofun, .none⟩
  | refused turn =>
      exact ⟨turn.events, [], (List.append_nil _).symm, fun _ => turn.events_are_messages, .none⟩
  | unsent request cause => exact ⟨[], _, rfl, nofun, .unsent request cause⟩
  | unanswered request notices hnotices cause =>
      refine ⟨.sent request :: notices.map .received, _, rfl, ?_, .missed cause⟩
      intro event hevent
      rw [List.mem_cons, List.mem_map] at hevent
      obtain rfl | ⟨_, -, rfl⟩ := hevent <;> rfl

/-- So does a whole conversation. -/
theorem Conversation.events_split (c : Conversation) :
    ∃ talk last, c.events = talk ++ last ∧ (∀ event ∈ talk, event.isMessage = true) ∧
      LastCall last := by
  obtain ⟨talk, last, hevents, hmessages, hlast⟩ := c.conclusion.events_split
  refine ⟨c.turns.flatMap Turn.events ++ talk, last, ?_, ?_, hlast⟩
  · rw [events, hevents, List.append_assoc]
  · intro event hevent
    obtain hturn | hevent := List.mem_append.mp hevent
    · obtain ⟨turn, -, hturn⟩ := List.mem_flatMap.mp hturn
      exact turn.events_are_messages hturn
    · exact hmessages event hevent

/-- Messages that are sent and received take those received from the transport, and so does a call
that fails behind them. -/
theorem Dialogue.consumes (h : Dialogue s (talk ++ last) t) (hopen : s.connection.current = some x)
    (hmessages : ∀ event ∈ talk, event.isMessage = true) (hlast : LastCall last) :
    Consumes x t.connection.unread (receivedIn (talk ++ last)) := by
  obtain ⟨u, htalk, hend⟩ := h.split
  have htaken := htalk.delivers hmessages
  obtain ⟨y, hleft, hlater, hended⟩ := htalk.on_messages hopen hmessages
  have hcurrent := congrArg Connection.current hleft
  have hnone : receivedIn last = [] := by cases hlast <;> rfl
  rw [received_in_append, hnone, List.append_nil]
  rw [Connection.unread_of_open hopen] at htaken
  cases hlast with
  | none =>
      cases hend
      exact .stopped htaken
  | unsent m e =>
      cases hend.happens with
      | unsent hsend =>
          rw [send_of_open m hcurrent] at hsend
          split at hsend <;> cases hsend
          rw [Connection.unread_of_open hcurrent] at htaken
          exact .stopped htaken
  | missed e =>
      cases hend.happens with
      | missed hreceive =>
          obtain ⟨z, hreception, hrest⟩ := reception hcurrent
          rw [hreceive] at hreception hrest
          rw [EStateM.Result.state_error] at hrest
          rw [Connection.unread_of_open hcurrent] at htaken
          rw [Connection.unread_of_open (congrArg Connection.current hrest)]
          exact .failed htaken hlater hended hreception rfl

end Taking

/-! ## Connecting -/

section Connecting

variable {o : Options} {authenticated : Bool} {s : NetworkSession} {x : Transport}
  {unread rest : Bytes}

/-- Over transports that differ in notices only, connecting has the same outcome and leaves the same
connection, if the frames with the notices before them are all taken. -/
theorem establish_of_strewn (hdisabled : s.tls = .ok .disabled)
    (hstrewn : Strewn rest x.unread unread)
    (htaken : (establish o authenticated (s.carriedBy x)).state.connection.unread <:+ rest) :
    (establish o authenticated (s.carriedBy { x with unread })).outcome =
        (establish o authenticated (s.carriedBy x)).outcome ∧
      (establish o authenticated (s.carriedBy { x with unread })).state.connection =
        (establish o authenticated (s.carriedBy x)).state.connection := by
  have habreast : Abreast rest (s.carriedBy x) (s.carriedBy { x with unread }) :=
    ⟨⟨rfl, rfl, rfl, rfl⟩, x, unread, rfl, hstrewn, rfl⟩
  rw [establish_of_disabled (s := s.carriedBy x) hdisabled] at htaken ⊢
  rw [establish_of_disabled (s := s.carriedBy { x with unread }) hdisabled]
  obtain ⟨houtcome, -, y, left, hopen, hstrewn, hconnection⟩ :=
    (proceed_passes_over o authenticated).abreast habreast
  rw [Connection.unread_of_open hopen] at htaken
  refine ⟨houtcome, ?_⟩
  rw [hconnection, hstrewn.eq_of_suffix htaken, ← hopen]

/-- What a connect takes from the transport that it opened, and the client id that it leaves. -/
theorem establish_consumes (o : Options) (authenticated : Bool) (hdisabled : s.tls = .ok .disabled)
    (x : Transport) :
    ∃ messages,
      Consumes x (establish o authenticated (s.carriedBy x)).state.connection.unread
        messages ∧
      (establish o authenticated (s.carriedBy x)).state.clientId =
        (lastClientId messages).getD 0 := by
  obtain ⟨c, hplace⟩ :=
    exists_conversation (s := s.carriedBy x) o authenticated hdisabled
  obtain ⟨talk, last, hevents, hmessages, hlast⟩ := c.events_split
  have htalk := hplace.dialogue
  refine ⟨receivedIn c.events, ?_, htalk.client_id⟩
  rw [hevents] at htalk ⊢
  exact htalk.consumes rfl hmessages hlast

/-- Without encryption, a connect has the same outcome, has written the same, and leaves the same
behind it, whatever notices the server puts before the frames that the connect takes. The client id
is the last one that was told, or zero, whatever it was before. -/
theorem notices_transparent (o : Options) (authenticated : Bool) (s : NetworkSession)
    (hdisabled : s.tls = .ok .disabled) :
    (∀ (h h' : Host) (x : Transport) (frames frames' : List Frame) (last : Frame) (rest : Bytes),
      (Host.openTransport o s.ipMode h).outcome =
          .ok { x with unread := frames.flatMap Frame.encode ++ (last.encode ++ rest) } →
        (Host.openTransport o s.ipMode h').outcome =
          .ok { x with unread := frames'.flatMap Frame.encode ++ (last.encode ++ rest) } →
        Frame.AlikeButNotices frames frames' →
        last.payload.length < Frame.maxLength → last.isNotice = false →
        (connect o authenticated (s, h)).state.1.connection.unread <:+ rest →
          (connect o authenticated (s, h')).outcome = (connect o authenticated (s, h)).outcome ∧
            (connect o authenticated (s, h')).state.1.connection =
              (connect o authenticated (s, h)).state.1.connection) ∧
    ∀ h : Host,
      match Host.openTransport o s.ipMode h with
      | .error _ _ => (connect o authenticated (s, h)).state.1.clientId = 0
      | .ok x _ =>
          ∃ messages,
            Consumes x (connect o authenticated (s, h)).state.1.connection.unread
              messages ∧
            (connect o authenticated (s, h)).state.1.clientId = (lastClientId messages).getD 0 := by
  refine ⟨fun h h' x frames frames' last rest hopen hopen' hframes haccepted hlast htaken => ?_,
    fun h => ?_⟩
  · have hopened := EStateM.Result.eq_ok_iff.mpr ⟨hopen, rfl⟩
    have hopened' := EStateM.Result.eq_ok_iff.mpr ⟨hopen', rfl⟩
    obtain ⟨houtcome, hstate⟩ := @connect_of_opened o authenticated s _ _ _ hopened
    obtain ⟨houtcome', hstate'⟩ := @connect_of_opened o authenticated s _ _ _ hopened'
    rw [hstate] at htaken
    rw [houtcome, houtcome', hstate, hstate']
    exact establish_of_strewn (x := { x with unread := _ }) hdisabled
      (hframes.strewn haccepted hlast rest) htaken
  · cases hopen : Host.openTransport o s.ipMode h with
    | error e g =>
        rw [connect_of_unopened hopen]
        rfl
    | ok x g =>
        rw [(connect_of_opened hopen).2]
        exact establish_consumes o authenticated hdisabled x

end Connecting

/-- A notice that tells the client id 42. -/
def tellingNotice : Frame := ⟨11, [8, 3, 16, 2, 26, 8, 8, 11, 18, 4, 8, 2, 24, 42]⟩

/-- A host with a server that sends the frames, admits the client, and sends one more byte. -/
def hostSending (frames : List Frame) : Host :=
  (Host.new .empty .empty).listenAt "s"
    [.plain (frames.flatMap Frame.encode ++ (Frame.encode ⟨4, []⟩ ++ [9])) false]

/-- A notice before the capability is confirmed, and another one behind, change neither the outcome
nor the connection. The first one tells the client id. -/
theorem notices_transparent_to_asking :
    let o : Options := { socket := "s" }
    let plain := hostSending [⟨0, []⟩]
    let telling := hostSending [tellingNotice, ⟨0, []⟩, ⟨11, [8, 1]⟩]
    askingSession.tls = .ok .disabled ∧
      (connect o true (askingSession, telling)).outcome =
        (connect o true (askingSession, plain)).outcome ∧
      (connect o true (askingSession, telling)).state.1.connection =
        (connect o true (askingSession, plain)).state.1.connection ∧
      (connect o true (askingSession, plain)).state.1.connection.unread = [9] ∧
      (connect o true (askingSession, telling)).state.1.clientId = 42 := by
  intro o plain telling
  have hleft : (connect o true (askingSession, plain)).state.1.connection.unread = [9] := by
    decide +kernel
  have hframes : Frame.AlikeButNotices [⟨0, []⟩] [tellingNotice, ⟨0, []⟩, ⟨11, [8, 1]⟩] :=
    ⟨by unfold Frame.AllAccepted; decide, by unfold Frame.AllAccepted; decide,
      by with_unfolding_all rfl⟩
  obtain ⟨houtcome, hconnection⟩ := (notices_transparent o true askingSession rfl).1 plain telling
    ((Peer.plain [] false).transport 0) _ _ ⟨4, []⟩ [9]
    (Except.eq_ok_of_toOption (by decide +kernel)) (Except.eq_ok_of_toOption (by decide +kernel))
    hframes (by decide) (by with_unfolding_all rfl) ⟨[], hleft⟩
  exact ⟨rfl, houtcome, hconnection, hleft, by decide +kernel⟩

end SessionKeeper
