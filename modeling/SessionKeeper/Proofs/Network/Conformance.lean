import SessionKeeper.Proofs.Message.Recovery
import SessionKeeper.Proofs.Network.Conversation
import SessionKeeper.Proofs.Network.Opening

/-!
# Connecting without encryption

`connect_conforms` says what a session sends when it connects, when the connect succeeds, and with
which error it fails. It succeeds exactly if the server takes every request and sends the replies
with which it accepts, wherever notices stand between them, and then takes nothing beyond the last
reply. A write or a read that fails ends the connect with the failure of the transport.
-/

namespace SessionKeeper

open NetworkSession

variable {o : Options} {authenticated : Bool} {method : AuthMethod}
  {wanted : List (Capability × Bool)} {replies : List ServerMessage}

/-! ## What a server has to send -/

/-- The last message, if there is one, is no notice. -/
def EndsInReply (messages : List ServerMessage) : Prop :=
  ∀ m, messages.getLast? = some m → m.isNotice = false

/-- The messages that are no notices. -/
def repliesAmong (messages : List ServerMessage) : List ServerMessage :=
  messages.filter fun m => !m.isNotice

theorem replies_among_append (messages others : List ServerMessage) :
    repliesAmong (messages ++ others) = repliesAmong messages ++ repliesAmong others :=
  List.filter_append _ _

theorem replies_among_of_notices {notices : List ServerMessage}
    (h : ∀ notice ∈ notices, notice.isNotice = true) : repliesAmong notices = [] := by
  simpa [repliesAmong] using h

/-- Before the first reply there are notices only. -/
theorem split_at_reply {messages : List ServerMessage} {reply : ServerMessage}
    (h : repliesAmong messages = reply :: replies) (hlast : EndsInReply messages) :
    ∃ notices later, messages = notices ++ reply :: later ∧
      (∀ notice ∈ notices, notice.isNotice = true) ∧ reply.isNotice = false ∧
        repliesAmong later = replies ∧ EndsInReply later := by
  obtain ⟨notices, later, rfl, hnotices, hreply, hlater⟩ := List.filter_eq_cons_iff.mp h
  refine ⟨notices, later, rfl, by simpa using hnotices, by simpa using hreply, hlater,
    fun m hm => hlast m ?_⟩
  rw [List.getLast?_append, List.getLast?_cons, hm]
  rfl

/-- Messages that end in a reply are none at all if there is no reply among them. -/
theorem eq_nil_of_no_replies {messages : List ServerMessage} (h : repliesAmong messages = [])
    (hlast : EndsInReply messages) : messages = [] := by
  cases messages with
  | nil => rfl
  | cons m later =>
      have hm := List.getLast?_eq_some_getLast (List.cons_ne_nil m later)
      have hnotice := hlast _ hm
      have hall : ∀ notice ∈ m :: later, notice.isNotice = true := by
        simpa [repliesAmong] using h
      rw [hall _ (List.getLast_mem _)] at hnotice
      cases hnotice

/-- The next writes succeed, as many as given. -/
def Transport.Takes (x : Transport) (count : Nat) : Prop :=
  ∀ n < count, x.sendFailure? n = none

section Serving

variable {s : NetworkSession} {x : Transport} {count : Nat} {rest : Bytes}
  {later : List ServerMessage}

/-- After a write there is one less. -/
theorem Transport.Takes.next {y : Transport} (h : x.Takes (count + 1))
    (hsends : ∀ n, y.sendFailure? n = x.sendFailure? (1 + n)) : y.Takes count :=
  fun n hn => (hsends n).trans (h (1 + n) (by omega))

/-- Notices with a reply behind them are waited through. -/
theorem hearing_of_delivers {notices : List ServerMessage} {reply : ServerMessage}
    (hopen : s.connection.current = some x) (htakes : x.Takes count)
    (h : Delivers x.unread (notices ++ reply :: later) rest)
    (hnotices : ∀ notice ∈ notices, notice.isNotice = true) (hreply : reply.isNotice = false) :
    ∃ talk t y, Hearing talk (.ok reply) ∧ Dialogue s talk t ∧ t.connection.current = some y ∧
      y.Takes count ∧ Delivers y.unread later rest := by
  induction notices generalizing s x with
  | nil =>
      obtain ⟨t, middle, hreceive, hcurrent, hlater⟩ := receive_of_delivers hopen h
      refine ⟨_, t, _, @Hearing.reply [] _ nofun hreply, ?_, hcurrent, htakes, hlater⟩
      have hheard := Dialogue.single (Happens.received hreceive)
      rwa [learn_of_not_notice hreply] at hheard
  | cons notice notices ih =>
      obtain ⟨t, middle, hreceive, hcurrent, hlater⟩ := receive_of_delivers hopen h
      obtain ⟨hnotice, hnotices⟩ := List.forall_mem_cons.mp hnotices
      -- The notice is taken from the transport and from the list alike.
      obtain ⟨talk, u, y, hhearing, htalk, hend⟩ :=
        ih (s := t.learn notice) (x := { x with unread := middle })
          (by rw [connection_learn, hcurrent]) htakes hlater hnotices
      exact ⟨_, u, y, hhearing.notice hnotice, .cons (.received hreceive) htalk, hend⟩

/-- A request is sent and its reply received where the reply comes next. -/
theorem exchange_of_delivers (request : ClientMessage) {notices : List ServerMessage}
    {reply : ServerMessage} (hopen : s.connection.current = some x) (htakes : x.Takes (count + 1))
    (h : Delivers x.unread (notices ++ reply :: later) rest)
    (hnotices : ∀ notice ∈ notices, notice.isNotice = true) (hreply : reply.isNotice = false) :
    ∃ talk t y, Exchange request talk (.ok reply) ∧ Dialogue s talk t ∧
      t.connection.current = some y ∧ y.Takes count ∧ Delivers y.unread later rest := by
  let greeted : Transport :=
    { x with
      sends := x.sends.tail
      written := x.written ++ (Event.sent request).written x.encrypted }
  obtain ⟨t, hsend, hcurrent⟩ : ∃ t, send request s = .ok () t ∧
      t.connection.current = some greeted := by
    rw [send_of_open request hopen, htakes 0 (Nat.succ_pos _)]
    exact ⟨_, rfl, rfl⟩
  have hleft : greeted.Takes count := htakes.next (Transport.send_failure_of_tail rfl rfl)
  obtain ⟨talk, u, y, hhearing, htalk, hend⟩ :=
    hearing_of_delivers hcurrent hleft h hnotices hreply
  exact ⟨_, u, y, .sent hhearing, .cons (.sent hsend) htalk, hend⟩

/-- A client is admitted over a transport on which the replies come that admit it. -/
theorem authentication_of_delivers {messages : List ServerMessage}
    (hopen : s.connection.current = some x) (htakes : x.Takes (repliesAmong messages).length)
    (h : Delivers x.unread messages rest) (hlast : EndsInReply messages)
    (hadmits : Admits method (repliesAmong messages)) :
    ∃ talk t, authenticationGrammar o method talk (.ok ()) ∧ Dialogue s talk t ∧
      t.connection.unread = rest := by
  generalize hreplies : repliesAmong messages = replies at hadmits htakes
  cases hadmits with
  | outright =>
      obtain ⟨notices, later, rfl, hnotices, hreply, hnone, hlast⟩ :=
        split_at_reply hreplies hlast
      obtain rfl := eq_nil_of_no_replies hnone hlast
      obtain ⟨talk, t, y, hstart, htalk, hcurrent, -, hrest⟩ :=
        exchange_of_delivers (startRequest o method) hopen htakes h hnotices hreply
      exact ⟨talk ++ [], t, .go hstart ⟨rfl, rfl⟩, by rwa [List.append_nil],
        by rw [Connection.unread, hcurrent, hrest.rest_eq]⟩
  | challenged hmethod challenge =>
      obtain ⟨notices, later, rfl, hnotices, hreply, hnext, hlast⟩ :=
        split_at_reply hreplies hlast
      obtain ⟨others, last, rfl, hothers, hok, hnone, hlast⟩ := split_at_reply hnext hlast
      obtain rfl := eq_nil_of_no_replies hnone hlast
      obtain ⟨talk, t, y, hstart, htalk, hcurrent, htakes, hrest⟩ :=
        exchange_of_delivers (startRequest o method) hopen htakes h hnotices hreply
      obtain ⟨answer, u, z, hanswer, hmore, hcurrent, -, hrest⟩ :=
        exchange_of_delivers (answerRequest o challenge) hcurrent htakes hrest hothers hok
      refine ⟨talk ++ answer, u, .go hstart ?_, htalk.append hmore,
        by rw [Connection.unread, hcurrent, hrest.rest_eq]⟩
      rw [reactionGrammar, if_pos hmethod]
      exact ⟨_, hanswer, rfl⟩

/-- A connect succeeds over a transport on which the replies come with which it is accepted, and
leaves what comes behind them. -/
theorem proceeding_of_delivers {messages : List ServerMessage}
    (hopen : s.connection.current = some x) (htakes : x.Takes (repliesAmong messages).length)
    (h : Delivers x.unread messages rest) (hlast : EndsInReply messages)
    (haccepts : Accepts authenticated method wanted (repliesAmong messages)) :
    ∃ talk t, proceedingGrammar o authenticated method wanted talk (.ok ()) ∧ Dialogue s talk t ∧
      t.connection.unread = rest := by
  induction wanted generalizing s x messages with
  | nil =>
      rw [accepts_nil] at haccepts
      cases authenticated with
      | true =>
          obtain ⟨talk, t, hgrammar, htalk⟩ :=
            authentication_of_delivers hopen htakes h hlast haccepts
          exact ⟨talk, t, proceeding_nil.mpr hgrammar, htalk⟩
      | false =>
          obtain rfl := eq_nil_of_no_replies haccepts hlast
          exact ⟨[], s, proceeding_nil.mpr ⟨rfl, rfl⟩, .nil s,
            by rw [Connection.unread, hopen, h.rest_eq]⟩
  | cons entry wanted ih =>
      obtain ⟨text, replies, hreplies, haccepts⟩ := accepts_cons.mp haccepts
      rw [hreplies] at htakes
      obtain ⟨notices, later, rfl, hnotices, hreply, rfl, hlast⟩ := split_at_reply hreplies hlast
      obtain ⟨talk, t, y, hask, htalk, hcurrent, htakes, hlater⟩ :=
        exchange_of_delivers (capabilityRequest entry.1.name entry.2) hopen htakes h hnotices hreply
      obtain ⟨others, u, hgrammar, hothers, hrest⟩ := ih hcurrent htakes hlater hlast haccepts
      exact ⟨talk ++ others, u, proceeding_cons.mpr (.go ⟨_, hask, rfl⟩ hgrammar),
        htalk.append hothers, hrest⟩

end Serving

/-! ## Conformance -/

section Events

variable {turn : Turn} {turns : List Turn} {c : Conversation}

theorem Turn.replies_in_events : repliesAmong (receivedIn turn.events) = [turn.reply] := by
  rw [received_in_events, replies_among_append, replies_among_of_notices turn.hnotices]
  simp [repliesAmong, turn.hreply]

theorem replies_among_turns :
    repliesAmong (receivedIn (turns.flatMap Turn.events)) = turns.map Turn.reply := by
  induction turns with
  | nil => rfl
  | cons turn turns ih =>
      rw [List.flatMap_cons, received_in_append, replies_among_append, Turn.replies_in_events, ih]
      rfl

theorem turns_end_in_reply : EndsInReply (receivedIn (turns.flatMap Turn.events)) := by
  intro m hm
  obtain rfl | ⟨others, last, rfl⟩ := turns.eq_nil_or_concat
  · cases hm
  · rw [List.concat_eq_append, List.flatMap_append, received_in_append, List.flatMap_singleton,
      Turn.received_in_events, ← List.append_assoc, List.getLast?_concat] at hm
    cases hm
    exact last.hreply

/-- A server that accepts sends no errors. -/
theorem not_error_of_accepts {severity : Severity} {code : UInt32} {state text : String}
    (h : Accepts authenticated method wanted replies) :
    .error severity code state text ∉ replies := by
  obtain ⟨texts, last, rfl, -, hlast⟩ := h
  rw [List.mem_append, not_or]
  refine ⟨by simp, fun hmem => ?_⟩
  cases authenticated with
  | true =>
      have hadmits : Admits method last := hlast
      cases hadmits <;> simp at hmem
  | false =>
      obtain rfl : last = [] := hlast
      cases hmem

/-- A reply that is no error is refused as unexpected. -/
theorem refusal_of_other {m : ServerMessage}
    (h : ∀ severity code state text, m ≠ .error severity code state text) :
    ∃ text, refusal m = ⟨2027, text⟩ := by
  cases m with
  | error severity code state text => exact absurd rfl (h severity code state text)
  | ok | capabilities | authenticateContinue | authenticateOk | notice | other => exact ⟨_, rfl⟩

/-- Only a reply that was refused is received after the turns that went well. -/
theorem Conclusion.outcome_of_reply {conclusion : Conclusion} {m : ServerMessage}
    (h : m ∈ repliesAmong (receivedIn conclusion.events)) :
    conclusion.outcome = .error (refusal m) := by
  cases conclusion with
  | complete | unsent => cases h
  | refused turn =>
      rw [events, Turn.replies_in_events] at h
      rw [List.mem_singleton.mp h]
      rfl
  | unanswered request notices hnotices cause =>
      have hnone : repliesAmong (receivedIn (events (.unanswered request notices hnotices cause))) =
          [] := by
        simp [events, Event.receivedMessage?, replies_among_of_notices hnotices]
      rw [hnone] at h
      cases h

/-- An error that the server sends decides what comes of the conversation. -/
theorem Conversation.outcome_of_error {severity : Severity} {code : UInt32} {state text : String}
    (hfits : c.Fits o authenticated method wanted)
    (h : .error severity code state text ∈ receivedIn c.events) :
    c.conclusion.outcome = .error ⟨code, text⟩ := by
  have hreplies : .error severity code state text ∈ repliesAmong (receivedIn c.events) :=
    List.mem_filter.mpr ⟨h, rfl⟩
  rw [events, received_in_append, replies_among_append, replies_among_turns, List.mem_append]
    at hreplies
  obtain hwell | hlast := hreplies
  · obtain ⟨later, hlater⟩ := hfits.welcome
    exact absurd (List.mem_append_left later hwell) (not_error_of_accepts hlater)
  · exact c.conclusion.outcome_of_reply hlast

end Events

/-- What a conversation leaves of a transport in the clear, and how the transport takes part in
it. -/
structure Conversation.Over (c : Conversation) (x y : Transport) : Prop where
  /-- The messages sent are written in the clear, each as a frame, and nothing else is written. -/
  written : y.written = x.written ++ (sentIn c.events).map fun m => .clear m.frame.encode
  /-- What is written can be read as these messages, as long as their frames are accepted. -/
  legible : (∀ m ∈ sentIn c.events, m.Accepted) →
    y.clearBytes = x.clearBytes ++ ClientMessage.wire (sentIn c.events) ∧
      ClientMessage.contentsIn (ClientMessage.wire (sentIn c.events)) =
        (sentIn c.events).map fun m => some m.content
  /-- Each attempt to send comes out as the next write does. -/
  sends : attemptsIn c.events = (List.range (attemptsIn c.events).length).map fun n =>
    (x.sendFailure? n).map SessionError.ofTransport
  /-- A reply is missed because a read fails, or because what came is no message. -/
  missed : ∀ e, .missed e ∈ c.events →
    e = .ofTransport x.shortage ∨ e.code = Code.malformedPacket

/-- A conversation that took place when a session connected. -/
structure Conversation.TookPlace (c : Conversation) (o : Options) (authenticated : Bool)
    (s : NetworkSession) (result : EStateM.Result SessionError NetworkSession Unit) : Prop where
  dialogue : Dialogue s c.events result.state
  outcome : result.outcome = c.conclusion.outcome
  fits : c.Fits o authenticated s.authMethod s.capabilities
  /-- The messages sent are the requests, but for a last one that could not be sent. -/
  sent : sentIn c.events <+: c.requests
  /-- The transport stays open. -/
  carried : ∀ x, s.connection.current = some x → x.encrypted = false →
    ∃ y, result.state.connection = { s.connection with current := some y } ∧ c.Over x y
  /-- An error of the server at any point is the error of the connect. -/
  refused : ∀ {severity code state text}, .error severity code state text ∈ receivedIn c.events →
    result.outcome = .error ⟨code, text⟩
  /-- Any other reply with which the server does not accept is unexpected. -/
  unexpected : ∀ turn, c.conclusion = .refused turn →
    (∀ severity code state text, turn.reply ≠ .error severity code state text) →
      ∃ text, result.outcome = .error ⟨2027, text⟩
  /-- So is the error of a call that failed. -/
  failed : ∀ event ∈ c.events, ∀ e, event.cause? = some e → result.outcome = .error e

/-- The bytes in the clear are the frames of the messages. -/
theorem Transport.clear_bytes_of_written {x y : Transport} {messages : List ClientMessage}
    (h : y.written = x.written ++ messages.map fun m => .clear m.frame.encode) :
    y.clearBytes = x.clearBytes ++ ClientMessage.wire messages := by
  rw [clearBytes, h, List.flatMap_append, List.flatMap_map]
  rfl

/-- A message can only be missed at the end of a conversation, behind messages. -/
theorem Conversation.events_of_missed {c : Conversation} {e : SessionError}
    (h : .missed e ∈ c.events) :
    ∃ talk, c.events = talk ++ [.missed e] ∧ ∀ event ∈ talk, event.isMessage = true := by
  have hturns : ∀ event ∈ c.turns.flatMap Turn.events, event.isMessage = true := by
    intro event hevent
    obtain ⟨turn, -, hmem⟩ := List.mem_flatMap.mp hevent
    exact turn.events_are_messages hmem
  have hlast : .missed e ∈ c.conclusion.events :=
    (List.mem_append.mp h).resolve_left fun hmem => nomatch hturns _ hmem
  cases hconclusion : c.conclusion with
  | complete | unsent => simp [hconclusion, Conclusion.events] at hlast
  | refused turn =>
      rw [hconclusion] at hlast
      exact nomatch turn.events_are_messages hlast
  | unanswered request notices hnotices cause =>
      obtain rfl : e = cause := by simpa [hconclusion, Conclusion.events] using hlast
      refine ⟨c.turns.flatMap Turn.events ++ .sent request :: notices.map .received, ?_, ?_⟩
      · simp [events, hconclusion, Conclusion.events]
      · simp only [List.forall_mem_append, List.forall_mem_cons, List.forall_mem_map]
        exact ⟨hturns, rfl, fun _ _ => rfl⟩

variable {s : NetworkSession}

theorem establish_of_disabled (hdisabled : s.tls = .ok .disabled) :
    establish o authenticated s = proceed o authenticated s := by
  rw [establish_eq hdisabled]
  rfl

/-- What is left of the transport by a conversation. -/
theorem Conversation.over_of_dialogue {c : Conversation} {t : NetworkSession} {x : Transport}
    (h : Dialogue s c.events t) (hopen : s.connection.current = some x)
    (hclear : x.encrypted = false) :
    ∃ y, t.connection = { s.connection with current := some y } ∧ c.Over x y := by
  have hleaves : ∀ event ∈ c.events, event.leavesOpen = true :=
    fun event hevent => Event.leavesOpen_of_isPlain (c.events_plain hevent)
  obtain ⟨y, hleft⟩ := h.on_transport hopen
  have hwritten := hleft.written
  rw [written_in_plain fun event => c.events_plain, hclear] at hwritten
  refine ⟨y, (hleft.stays hleaves).1, hwritten,
    fun haccepted => ⟨Transport.clear_bytes_of_written hwritten,
      ClientMessage.contents_in_wire haccepted⟩, h.attempts_eq hopen hleaves, fun e he => ?_⟩
  obtain ⟨talk, hevents, hmessages⟩ := events_of_missed he
  rw [hevents] at h
  exact h.missed_cases hopen hmessages

/-- Connecting without encryption is a conversation. -/
theorem exists_conversation (o : Options) (authenticated : Bool)
    (hdisabled : s.tls = .ok .disabled) :
    ∃ c : Conversation, c.TookPlace o authenticated s (establish o authenticated s) := by
  rw [establish_of_disabled hdisabled]
  obtain ⟨talk, hgrammar, htalk⟩ := (proceed_follows o authenticated s).spoken
  obtain ⟨c, rfl, houtcome, hfits⟩ := conversation_of_proceeding hgrammar
  refine ⟨c, htalk, houtcome, hfits, c.sent_prefix, fun x => c.over_of_dialogue htalk,
    fun herror => houtcome.trans (c.outcome_of_error hfits herror), fun turn hturn hother => ?_,
    fun event hevent e hcause => houtcome.trans (c.outcome_of_failed hevent hcause)⟩
  obtain ⟨text, hrefusal⟩ := refusal_of_other hother
  exact ⟨text, by rw [houtcome, hturn, Conclusion.outcome, hrefusal]⟩

/-- In a conversation that is completed every turn used up a write that succeeded. -/
theorem Conversation.takes_of_complete {c : Conversation} {t : NetworkSession} {x : Transport}
    (h : Dialogue s (c.turns.flatMap Turn.events) t) (hopen : s.connection.current = some x) :
    x.Takes (repliesAmong (receivedIn (c.turns.flatMap Turn.events))).length := by
  have hmessages : ∀ event ∈ c.turns.flatMap Turn.events, event.isMessage = true := by
    intro event hevent
    obtain ⟨turn, -, hmem⟩ := List.mem_flatMap.mp hevent
    exact turn.events_are_messages hmem
  have hattempts := h.attempts_eq hopen fun event hevent =>
    Event.leavesOpen_of_isPlain (Event.isPlain_of_isMessage (hmessages event hevent))
  rw [attempts_in_messages hmessages, sent_in_turns, List.length_replicate, List.length_map]
    at hattempts
  rw [replies_among_turns, List.length_map]
  intro n hn
  have hnone := List.eq_of_mem_replicate (hattempts ▸
    List.mem_map.mpr ⟨n, List.mem_range.mpr hn, rfl⟩)
  simpa using hnone

/-- Connecting succeeds if every request is taken and the replies come with which it is accepted,
and it takes nothing beyond the last of them. -/
theorem establish_succeeds_iff {x : Transport} {rest : Bytes} (hdisabled : s.tls = .ok .disabled)
    (hopen : s.connection.current = some x) :
    (establish o authenticated s).outcome = .ok () ∧
        (establish o authenticated s).state.connection.unread = rest ↔
      ∃ messages, Delivers x.unread messages rest ∧ EndsInReply messages ∧
        Accepts authenticated s.authMethod s.capabilities (repliesAmong messages) ∧
          x.Takes (repliesAmong messages).length := by
  constructor
  -- A success is a conversation that was completed, and its turns are what was received.
  · rintro ⟨hok, rfl⟩
    obtain ⟨c, hplace⟩ := exists_conversation o authenticated hdisabled
    have hcomplete : c.conclusion = .complete := by
      have houtcome := hplace.outcome.symm.trans hok
      cases hconclusion : c.conclusion with
      | complete => rfl
      | refused | unsent | unanswered =>
          rw [hconclusion] at houtcome
          cases houtcome
    have hevents : c.events = c.turns.flatMap Turn.events := by
      rw [Conversation.events, hcomplete]
      exact List.append_nil _
    have hdelivers := hplace.dialogue.delivers fun event hevent => by
      obtain hmessage | ⟨-, e, -, houtcome⟩ := c.event_cases hevent
      · exact hmessage
      · rw [hcomplete] at houtcome
        cases houtcome
    rw [Connection.unread, hopen, hevents] at hdelivers
    refine ⟨_, hdelivers, turns_end_in_reply, ?_,
      Conversation.takes_of_complete (hevents ▸ hplace.dialogue) hopen⟩
    rw [replies_among_turns]
    exact hplace.fits.complete hcomplete
  -- The replies make a talk of the grammar, and only one such talk can take place.
  · rintro ⟨messages, hdelivers, hlast, haccepts, htakes⟩
    obtain ⟨talk, t, hgrammar, htalk, hrest⟩ :=
      proceeding_of_delivers (o := o) hopen htakes hdelivers hlast haccepts
    rw [establish_of_disabled hdisabled]
    obtain ⟨houtcome, rfl⟩ := (proceed_follows o authenticated s).determined hgrammar htalk
    exact ⟨houtcome, hrest⟩

/-- Without encryption, connecting is a conversation over the transport that was opened. It succeeds
exactly if the server takes every request and sends the replies with which it accepts. -/
theorem connect_conforms (o : Options) (authenticated : Bool) (s : NetworkSession)
    (hdisabled : s.tls = .ok .disabled) :
    (∀ h : Host,
      match Host.openTransport o s.ipMode h with
      | .error e _ => connect o authenticated (s, h) = .error e (s.stranded, h)
      | .ok x g =>
          x.Fresh h ∧
            (connect o authenticated (s, h)).outcome =
              (establish o authenticated (s.carriedBy x)).outcome ∧
            (connect o authenticated (s, h)).state =
              ((establish o authenticated (s.carriedBy x)).state, g)) ∧
    ∀ x : Transport,
      (∃ c : Conversation,
        c.TookPlace o authenticated (s.carriedBy x) (establish o authenticated (s.carriedBy x))) ∧
      ∀ rest : Bytes,
        (establish o authenticated (s.carriedBy x)).outcome = .ok () ∧
            (establish o authenticated (s.carriedBy x)).state.connection.unread = rest ↔
          ∃ messages, Delivers x.unread messages rest ∧ EndsInReply messages ∧
            Accepts authenticated s.authMethod s.capabilities (repliesAmong messages) ∧
              x.Takes (repliesAmong messages).length := by
  refine ⟨fun h => ?_, fun x => ⟨exists_conversation o authenticated hdisabled,
    fun rest => establish_succeeds_iff hdisabled rfl⟩⟩
  cases hopen : Host.openTransport o s.ipMode h with
  | error e g => exact connect_of_unopened hopen
  | ok x g => exact ⟨(Host.open_transport_fresh hopen).1, connect_of_opened hopen⟩

/-- A session that asks for a capability. -/
def askingSession : NetworkSession :=
  NetworkSession.new.setCapability .expiredPassword true

/-- A transport over which a server confirms a capability, challenges the client and admits it. One
more byte comes behind, and the given writes succeed or fail. -/
def challengingTransport (sends : List (Option TransportFailure)) : Transport :=
  let bytes :=
    Frame.encode ⟨0, []⟩ ++ (Frame.encode ⟨3, [10, 1, 7]⟩ ++ (Frame.encode ⟨4, []⟩ ++ [9]))
  { (Peer.plain bytes false).transport 0 with sends }

/-- The challenge is answered, and the byte behind the last reply is left. If the answer to the
challenge cannot be sent, that is the error. -/
theorem connect_conforms_challenged :
    let run (sends : List (Option TransportFailure)) :=
      establish {} true (askingSession.carriedBy (challengingTransport sends))
    askingSession.tls = .ok .disabled ∧
      (run []).outcome = .ok () ∧ (run []).state.connection.unread = [9] ∧
      (run [none, none, some (.other "broken")]).outcome = .error ⟨2006, "broken"⟩ := by
  intro run
  have hconforms (sends : List (Option TransportFailure)) :=
    (connect_conforms {} true askingSession rfl).2 (challengingTransport sends)
  have hconfirmed : ServerMessage.ofFrame ⟨0, []⟩ = .ok (.ok "") := by with_unfolding_all rfl
  have hchallenged : ServerMessage.ofFrame ⟨3, [10, 1, 7]⟩ = .ok (.authenticateContinue [7]) := by
    with_unfolding_all rfl
  have hsucceeds : (run []).outcome = .ok () ∧ (run []).state.connection.unread = [9] := by
    refine ((hconforms []).2 [9]).mpr
      ⟨[.ok "", .authenticateContinue [7], .authenticateOk], ?_, ?_, ?_, fun _ _ => rfl⟩
    · exact .cons (by decide) hconfirmed
        (.cons (by decide) hchallenged (.cons (by decide) rfl (.nil _)))
    · rintro _ ⟨⟩
      rfl
    · exact ⟨[""], _, rfl, rfl, .challenged rfl [7]⟩
  refine ⟨rfl, hsucceeds.1, hsucceeds.2, ?_⟩
  with_unfolding_all rfl

end SessionKeeper
