import SessionKeeper.Proofs.Network.Grammar

/-!
# Conversations

When a session connects without encryption, requests and replies take turns: every request waits for
the reply to the one before it, and the first turn that goes wrong is the last one. The main
statement, `conversation_of_proceeding`, says that every talk of the grammar is such a conversation,
with the requests in their order.
-/

namespace SessionKeeper

open NetworkSession

/-- A request with its reply, and the notices that came before the reply. -/
structure Turn where
  request : ClientMessage
  notices : List ServerMessage
  reply : ServerMessage
  hnotices : ∀ notice ∈ notices, notice.isNotice = true
  hreply : reply.isNotice = false

/-- The events of a turn. -/
def Turn.events (turn : Turn) : List Event :=
  .sent turn.request :: (turn.notices.map .received ++ [.received turn.reply])

/-- The error that a reply brings about if it is not the one that is waited for. -/
def refusal : ServerMessage → SessionError
  | .error _ code _ text => ⟨code, text⟩
  | m => .unexpected m

/-- How a conversation ends after the turns that went well. -/
inductive Conclusion where
  /-- There is nothing left to request. -/
  | complete
  /-- The last reply was not the one that is waited for. -/
  | refused (turn : Turn)
  /-- The last request could not be sent. -/
  | unsent (request : ClientMessage) (cause : SessionError)
  /-- No reply could be received to the last request. -/
  | unanswered (request : ClientMessage) (notices : List ServerMessage)
      (hnotices : ∀ notice ∈ notices, notice.isNotice = true) (cause : SessionError)

namespace Conclusion

/-- The events of a conclusion. -/
def events : Conclusion → List Event
  | complete => []
  | refused turn => turn.events
  | unsent request cause => [.unsent request cause]
  | unanswered request notices _ cause =>
      .sent request :: (notices.map .received ++ [.missed cause])

/-- The last request, if something came of it that ends the conversation. -/
def requests : Conclusion → List ClientMessage
  | complete => []
  | refused turn => [turn.request]
  | unsent request _ | unanswered request _ _ _ => [request]

/-- What comes of the conversation. -/
def outcome : Conclusion → Except SessionError Unit
  | complete => .ok ()
  | refused turn => .error (refusal turn.reply)
  | unsent _ cause | unanswered _ _ _ cause => .error cause

end Conclusion

/-- Turns that went well, and how they end. -/
structure Conversation where
  turns : List Turn
  conclusion : Conclusion

namespace Conversation

/-- The events of a conversation. -/
def events (c : Conversation) : List Event :=
  c.turns.flatMap Turn.events ++ c.conclusion.events

/-- The requests of a conversation, the last of which may not have been sent. -/
def requests (c : Conversation) : List ClientMessage :=
  c.turns.map Turn.request ++ c.conclusion.requests

/-- The replies of the turns that went well. -/
def replies (c : Conversation) : List ServerMessage :=
  c.turns.map Turn.reply

/-- The conversation with a turn before it. -/
def after (turn : Turn) (c : Conversation) : Conversation :=
  ⟨turn :: c.turns, c.conclusion⟩

variable {turn : Turn} {c : Conversation}

@[simp]
theorem events_after : (c.after turn).events = turn.events ++ c.events := by
  simp [after, events]

@[simp]
theorem requests_after : (c.after turn).requests = turn.request :: c.requests :=
  rfl

@[simp]
theorem replies_after : (c.after turn).replies = turn.reply :: c.replies :=
  rfl

@[simp]
theorem events_of_no_turns (conclusion : Conclusion) :
    (⟨[], conclusion⟩ : Conversation).events = conclusion.events :=
  rfl

@[simp]
theorem requests_of_no_turns (conclusion : Conclusion) :
    (⟨[], conclusion⟩ : Conversation).requests = conclusion.requests :=
  rfl

end Conversation

/-! ## The events of a conversation -/

section Events

variable {turn : Turn} {turns : List Turn} {conclusion : Conclusion} {c : Conversation}
  {event : Event}

@[simp]
theorem Turn.sent_in_events : sentIn turn.events = [turn.request] := by
  simp [events, Event.sentMessage?]

@[simp]
theorem Turn.received_in_events : receivedIn turn.events = turn.notices ++ [turn.reply] := by
  simp [events, Event.receivedMessage?]

@[simp]
theorem Turn.tried_in_events : triedIn turn.events = [turn.request] := by
  simp [events, Event.triedMessage?]

/-- A turn consists of messages sent and received. -/
theorem Turn.events_are_messages (h : event ∈ turn.events) : event.isMessage = true := by
  simp only [events, List.mem_cons, List.mem_append, List.mem_map, List.not_mem_nil, or_false] at h
  obtain rfl | ⟨notice, -, rfl⟩ | rfl := h <;> rfl

theorem sent_in_turns : sentIn (turns.flatMap Turn.events) = turns.map Turn.request := by
  induction turns with
  | nil => rfl
  | cons turn turns ih => simp [ih]

/-- Every event of a conclusion is a message, or the call in which the last request failed. -/
theorem Conclusion.event_cases (h : event ∈ conclusion.events) :
    event.isMessage = true ∨
      event.isPlain = true ∧ ∃ e, event.cause? = some e ∧ conclusion.outcome = .error e := by
  cases conclusion with
  | complete => cases h
  | refused turn => exact .inl (turn.events_are_messages h)
  | unsent request cause =>
      obtain rfl := List.mem_singleton.mp h
      exact .inr ⟨rfl, cause, rfl, rfl⟩
  | unanswered request notices hnotices cause =>
      simp only [events, List.mem_cons, List.mem_append, List.mem_map, List.not_mem_nil,
        or_false] at h
      obtain rfl | ⟨notice, -, rfl⟩ | rfl := h
      · exact .inl rfl
      · exact .inl rfl
      · exact .inr ⟨rfl, cause, rfl, rfl⟩

/-- Nothing is encrypted in a conclusion. -/
theorem Conclusion.events_plain (h : event ∈ conclusion.events) : event.isPlain = true := by
  obtain hmessage | ⟨hplain, -⟩ := event_cases h
  · exact Event.isPlain_of_isMessage hmessage
  · exact hplain

/-- The message that was to be sent is the request. -/
theorem Conclusion.tried_in_events (conclusion : Conclusion) :
    triedIn conclusion.events = conclusion.requests := by
  cases conclusion with
  | complete | unsent => rfl
  | refused turn => exact turn.tried_in_events
  | unanswered => simp [events, requests, Event.triedMessage?]

/-- The message sent is the request, unless it could not be sent. -/
theorem Conclusion.sent_prefix (conclusion : Conclusion) :
    sentIn conclusion.events <+: conclusion.requests := by
  cases conclusion with
  | complete => exact List.prefix_rfl
  | refused turn =>
      rw [events, Turn.sent_in_events]
      exact List.prefix_rfl
  | unsent request cause => exact List.nil_prefix
  | unanswered request notices hnotices cause => simp [events, requests, Event.sentMessage?]

theorem Conversation.event_cases (h : event ∈ c.events) :
    event.isMessage = true ∨
      event.isPlain = true ∧ ∃ e, event.cause? = some e ∧ c.conclusion.outcome = .error e := by
  obtain hmem | hmem := List.mem_append.mp h
  · obtain ⟨turn, -, hmem⟩ := List.mem_flatMap.mp hmem
    exact .inl (turn.events_are_messages hmem)
  · exact Conclusion.event_cases hmem

/-- Nothing is encrypted in a conversation. -/
theorem Conversation.events_plain (h : event ∈ c.events) : event.isPlain = true := by
  obtain hmessage | ⟨hplain, -⟩ := event_cases h
  · exact Event.isPlain_of_isMessage hmessage
  · exact hplain

/-- A call that fails decides what comes of the conversation. -/
theorem Conversation.outcome_of_failed {e : SessionError} (h : event ∈ c.events)
    (hcause : event.cause? = some e) : c.conclusion.outcome = .error e := by
  obtain hmessage | ⟨-, _, hsame, houtcome⟩ := event_cases h
  · cases event with
    | sent | received => cases hcause
    | unsent | missed | secured | unsecured => cases hmessage
  · cases hsame.symm.trans hcause
    exact houtcome

/-- The messages sent are the requests, but for a last one that could not be sent. -/
theorem Conversation.sent_prefix (c : Conversation) : sentIn c.events <+: c.requests := by
  rw [events, sent_in_append, sent_in_turns, requests, List.prefix_append_right_inj]
  exact c.conclusion.sent_prefix

end Events

/-! ## What is requested, and what is accepted -/

/-- The challenge that a message holds. -/
def challenge? : ServerMessage → Option Bytes
  | .authenticateContinue challenge => some challenge
  | _ => none

/-- Every request that there may be: one for each capability, and those of the authentication. Only
one method ever answers a challenge, and it does so once. -/
def plannedRequests (o : Options) (authenticated : Bool) (method : AuthMethod)
    (wanted : List (Capability × Bool)) (challenge : Bytes) : List ClientMessage :=
  wanted.map (fun entry => capabilityRequest entry.1.name entry.2) ++
    if authenticated then
      startRequest o method :: if method = .mysql41 then [answerRequest o challenge] else []
    else []

/-- The replies with which a server admits a client. -/
inductive Admits (method : AuthMethod) : List ServerMessage → Prop where
  | outright : Admits method [.authenticateOk]
  | challenged (hmethod : method = .mysql41) (challenge : Bytes) :
      Admits method [.authenticateContinue challenge, .authenticateOk]

/-- The replies with which a server accepts a connect: every capability is confirmed, and the client
is admitted if it authenticates. -/
def Accepts (authenticated : Bool) (method : AuthMethod) (wanted : List (Capability × Bool))
    (replies : List ServerMessage) : Prop :=
  ∃ (texts : List String) (last : List ServerMessage),
    replies = texts.map .ok ++ last ∧ texts.length = wanted.length ∧
      if authenticated then Admits method last else last = []

variable {o : Options} {authenticated : Bool} {method : AuthMethod} {entry : Capability × Bool}
  {wanted : List (Capability × Bool)} {replies : List ServerMessage}

theorem accepts_nil :
    Accepts authenticated method [] replies ↔
      if authenticated then Admits method replies else replies = [] := by
  constructor
  · rintro ⟨texts, last, rfl, hlength, hlast⟩
    obtain rfl := List.eq_nil_of_length_eq_zero hlength
    exact hlast
  · exact fun h => ⟨[], replies, rfl, rfl, h⟩

theorem accepts_cons :
    Accepts authenticated method (entry :: wanted) replies ↔
      ∃ text later, replies = .ok text :: later ∧ Accepts authenticated method wanted later := by
  constructor
  · rintro ⟨texts, last, rfl, hlength, hlast⟩
    cases texts with
    | nil => cases hlength
    | cons text texts =>
        exact ⟨text, texts.map .ok ++ last, rfl, texts, last, rfl, Nat.succ.inj hlength, hlast⟩
  · rintro ⟨text, later, rfl, texts, last, rfl, hlength, hlast⟩
    exact ⟨text :: texts, last, rfl, congrArg Nat.succ hlength, hlast⟩

/-- Every list of wanted capabilities can be accepted. -/
theorem exists_accepts (authenticated : Bool) (method : AuthMethod)
    (wanted : List (Capability × Bool)) :
    ∃ replies, Accepts authenticated method wanted replies := by
  refine ⟨_, wanted.map fun _ => "", if authenticated then [.authenticateOk] else [], rfl,
    by simp, ?_⟩
  cases authenticated with
  | true => exact .outright
  | false => rfl

/-- What is to be said of a conversation: its requests come in order, its turns go well, and it is
broken off only at a reply with which no server accepts. -/
structure Conversation.Fits (o : Options) (authenticated : Bool) (method : AuthMethod)
    (wanted : List (Capability × Bool)) (c : Conversation) : Prop where
  planned : c.requests <+: plannedRequests o authenticated method wanted
    ((c.replies.findSome? challenge?).getD [])
  welcome : ∃ later, Accepts authenticated method wanted (c.replies ++ later)
  complete : c.conclusion = .complete → Accepts authenticated method wanted c.replies
  refused : ∀ turn, c.conclusion = .refused turn →
    ∀ later, ¬ Accepts authenticated method wanted (c.replies ++ turn.reply :: later)

/-! ## Every talk is a conversation -/

theorem capability_verdict_eq_ok_iff {m : ServerMessage} :
    capabilityVerdict m = .ok () ↔ ∃ text, m = .ok text := by
  cases m <;> simp [capabilityVerdict]

theorem authentication_verdict_eq_ok_iff {m : ServerMessage} :
    authenticationVerdict m = .ok () ↔ m = .authenticateOk := by
  cases m <;> simp [authenticationVerdict]

/-- A verdict refuses a reply in the way that a conversation does. -/
def Refuses (verdict : ServerMessage → Except SessionError Unit) : Prop :=
  ∀ m, verdict m ≠ .ok () → verdict m = .error (refusal m)

theorem capability_verdict_refuses : Refuses capabilityVerdict := by
  intro m h
  cases m with
  | ok text => exact absurd rfl h
  | error | capabilities | authenticateContinue | authenticateOk | notice | other => rfl

theorem authentication_verdict_refuses : Refuses authenticationVerdict := by
  intro m h
  cases m with
  | authenticateOk => exact absurd rfl h
  | ok | error | capabilities | authenticateContinue | notice | other => rfl

section Talks

variable {talk : List Event} {request : ClientMessage} {r : Except SessionError Unit}

/-- An exchange is a turn, or it fails. -/
theorem Exchange.turn {r : Except SessionError ServerMessage} (h : Exchange request talk r) :
    (∃ turn : Turn, turn.request = request ∧ talk = turn.events ∧ r = .ok turn.reply) ∨
      ∃ (conclusion : Conclusion) (e : SessionError), talk = conclusion.events ∧ r = .error e ∧
        conclusion.outcome = .error e ∧ conclusion.requests = [request] ∧
          ∀ turn, conclusion ≠ .refused turn := by
  cases h with
  | @unsent e => exact .inr ⟨.unsent request e, e, rfl, rfl, rfl, rfl, fun _ h => nomatch h⟩
  | sent hhearing =>
      cases hhearing with
      | reply hnotices hreply => exact .inl ⟨⟨request, _, _, hnotices, hreply⟩, rfl, rfl, rfl⟩
      | @missed notices e hnotices =>
          exact .inr ⟨.unanswered request notices hnotices e, e, rfl, rfl, rfl, rfl,
            fun _ h => nomatch h⟩

/-- An exchange on whose reply a verdict decides is a turn that goes well, or it is the last one. -/
theorem Exchange.judged_turn {verdict : ServerMessage → Except SessionError Unit}
    (hverdict : Refuses verdict) (h : (Exchange request).judged verdict talk r) :
    (∃ turn : Turn, turn.request = request ∧ talk = turn.events ∧ verdict turn.reply = .ok () ∧
        r = .ok ()) ∨
      ∃ conclusion : Conclusion, talk = conclusion.events ∧ r = conclusion.outcome ∧
        conclusion.requests = [request] ∧ (∃ e, r = .error e) ∧
          ∀ turn, conclusion = .refused turn → verdict turn.reply ≠ .ok () := by
  obtain ⟨q, hexchange, rfl⟩ := h
  obtain ⟨turn, hrequest, rfl, rfl⟩ | ⟨conclusion, e, rfl, rfl, houtcome, hrequest, hnot⟩ :=
    hexchange.turn
  · by_cases hwell : verdict turn.reply = .ok ()
    · exact .inl ⟨turn, hrequest, rfl, hwell, hwell⟩
    · refine .inr ⟨.refused turn, rfl, hverdict _ hwell, congrArg (· :: []) hrequest,
        ⟨_, hverdict _ hwell⟩, ?_⟩
      rintro _ ⟨⟩
      exact hwell
  · exact .inr ⟨conclusion, rfl, houtcome.symm, hrequest, ⟨e, rfl⟩,
      fun turn h => absurd h (hnot turn)⟩

end Talks

/-- A conversation that ends at its first request. -/
theorem Conversation.Fits.of_first {conclusion : Conclusion} {request : ClientMessage}
    (hrequests : conclusion.requests = [request])
    (hplanned : [request] <+: plannedRequests o authenticated method wanted [])
    (hrefused : ∀ turn, conclusion = .refused turn →
      ∀ later, ¬ Accepts authenticated method wanted (turn.reply :: later)) :
    (⟨[], conclusion⟩ : Conversation).Fits o authenticated method wanted where
  planned := by
    rw [requests_of_no_turns, hrequests]
    exact hplanned
  welcome := exists_accepts authenticated method wanted
  complete := by
    rintro (rfl : conclusion = .complete)
    cases hrequests
  refused := hrefused

/-- A capability that is confirmed comes before a conversation about the other ones. -/
theorem Conversation.Fits.after {c : Conversation} (h : c.Fits o authenticated method wanted)
    {turn : Turn} {text : String} (hrequest : turn.request = capabilityRequest entry.1.name entry.2)
    (hreply : turn.reply = .ok text) :
    (c.after turn).Fits o authenticated method (entry :: wanted) where
  planned := by
    rw [requests_after, replies_after, hreply, hrequest]
    exact List.prefix_cons_inj _ |>.mpr h.planned
  welcome := by
    obtain ⟨later, hlater⟩ := h.welcome
    exact ⟨later, accepts_cons.mpr ⟨text, _, by rw [replies_after, hreply]; rfl, hlater⟩⟩
  complete hcomplete :=
    accepts_cons.mpr ⟨text, _, by rw [replies_after, hreply], h.complete hcomplete⟩
  refused last hlast later haccepts := by
    obtain ⟨_, _, heq, haccepts⟩ := accepts_cons.mp haccepts
    rw [replies_after, List.cons_append] at heq
    obtain ⟨-, rfl⟩ := List.cons.inj heq
    exact h.refused last hlast later haccepts

/-- The first reply of an authentication is answered, or it admits the client, or it refuses it. -/
theorem reaction_cases {m : ServerMessage} {talk : List Event} {r : Except SessionError Unit}
    (h : reactionGrammar o method m talk r) :
    (∃ challenge, m = .authenticateContinue challenge ∧ method = .mysql41 ∧
        (Exchange (answerRequest o challenge)).judged authenticationVerdict talk r) ∨
      (m = .authenticateOk ∧ talk = [] ∧ r = .ok ()) ∨
        (talk = [] ∧ r = .error (refusal m) ∧ ∀ later, ¬ Admits method (m :: later)) := by
  cases m with
  | authenticateContinue challenge =>
      cases method with
      | mysql41 => exact .inl ⟨challenge, rfl, rfl, h⟩
      | plain =>
          obtain ⟨rfl, rfl⟩ := h
          refine .inr (.inr ⟨rfl, rfl, fun later hadmits => ?_⟩)
          cases hadmits with
          | challenged hmethod => cases hmethod
  | authenticateOk => exact .inr (.inl ⟨rfl, h.1, h.2⟩)
  | ok | error | capabilities | notice | other => exact .inr (.inr ⟨h.1, h.2, nofun⟩)

theorem accepts_of_admits {replies : List ServerMessage} :
    Accepts true method [] replies ↔ Admits method replies :=
  accepts_nil

/-- A client that answers a challenge goes on with a conversation. -/
theorem conversation_of_challenge {first : Turn} {challenge : Bytes} {talk : List Event}
    {r : Except SessionError Unit} (hfirst : first.request = startRequest o .mysql41)
    (hreply : first.reply = .authenticateContinue challenge)
    (hanswer : (Exchange (answerRequest o challenge)).judged authenticationVerdict talk r) :
    ∃ c : Conversation, first.events ++ talk = c.events ∧ r = c.conclusion.outcome ∧
      c.Fits o true .mysql41 [] := by
  have hplanned : ∀ later, plannedRequests o true .mysql41 []
      (((first.reply :: later).findSome? challenge?).getD []) =
        [first.request, answerRequest o challenge] := by
    rw [hfirst, hreply]
    exact fun later => rfl
  obtain ⟨second, hrequest, rfl, hwell, rfl⟩ | ⟨conclusion, rfl, rfl, hrequests, ⟨e, he⟩, hnot⟩ :=
    Exchange.judged_turn authentication_verdict_refuses hanswer
  · have hadmits : Admits .mysql41 [first.reply, second.reply] := by
      rw [hreply, authentication_verdict_eq_ok_iff.mp hwell]
      exact .challenged rfl challenge
    refine ⟨⟨[first, second], .complete⟩, by simp [Conversation.events, Conclusion.events], rfl,
      ?_, ⟨[], accepts_of_admits.mpr hadmits⟩, fun _ => accepts_of_admits.mpr hadmits,
      fun _ h => nomatch h⟩
    rw [← hrequest] at hplanned
    exact hplanned _ ▸ List.prefix_rfl
  · refine ⟨⟨[first], conclusion⟩, by simp [Conversation.events], rfl, ?_,
      ⟨[.authenticateOk], accepts_of_admits.mpr ?_⟩, ?_, ?_⟩
    · refine (hplanned _).symm ▸ ?_
      simp [Conversation.requests, hrequests]
    · simp only [Conversation.replies, List.map_cons, List.map_nil, hreply]
      exact .challenged rfl challenge
    · rintro (rfl : conclusion = .complete)
      cases he
    · intro last hlast later hlater
      have hadmits := accepts_of_admits.mp hlater
      simp only [Conversation.replies, List.map_cons, List.map_nil, hreply] at hadmits
      refine hnot last hlast (authentication_verdict_eq_ok_iff.mpr ?_)
      generalize last.reply = m at hadmits
      cases hadmits with
      | challenged => rfl

/-- A client that sent the first message of an authentication goes on with a conversation. -/
theorem conversation_of_reaction {first : Turn} {talk : List Event} {r : Except SessionError Unit}
    (hfirst : first.request = startRequest o method)
    (h : reactionGrammar o method first.reply talk r) :
    ∃ c : Conversation, first.events ++ talk = c.events ∧ r = c.conclusion.outcome ∧
      c.Fits o true method [] := by
  have hstart : ∀ challenge, [first.request] <+: plannedRequests o true method [] challenge := by
    rw [hfirst]
    exact fun challenge => List.prefix_append _ _
  obtain ⟨challenge, hreply, rfl, hanswer⟩ | ⟨hreply, rfl, rfl⟩ | ⟨rfl, rfl, hrefused⟩ :=
    reaction_cases h
  · exact conversation_of_challenge hfirst hreply hanswer
  · have hadmits : Admits method [first.reply] := by
      rw [hreply]
      exact .outright
    exact ⟨⟨[first], .complete⟩, by simp [Conversation.events, Conclusion.events], rfl, hstart _,
      ⟨[], accepts_of_admits.mpr hadmits⟩, fun _ => accepts_of_admits.mpr hadmits,
      fun _ h => nomatch h⟩
  · refine ⟨⟨[], .refused first⟩, by simp [Conclusion.events], rfl,
      .of_first rfl (hstart _) ?_⟩
    rintro _ ⟨⟩ later hlater
    exact hrefused later (accepts_of_admits.mp hlater)

/-- Every talk in which the client authenticates is a conversation. -/
theorem conversation_of_authentication {talk : List Event} {r : Except SessionError Unit}
    (h : authenticationGrammar o method talk r) :
    ∃ c : Conversation, talk = c.events ∧ r = c.conclusion.outcome ∧ c.Fits o true method [] := by
  cases h with
  | stop h =>
      obtain ⟨turn, -, -, hr⟩ | ⟨conclusion, e, rfl, hr, houtcome, hrequests, hnot⟩ := h.turn
      · cases hr
      · cases hr
        exact ⟨⟨[], conclusion⟩, rfl, houtcome.symm, .of_first hrequests
          (List.prefix_append _ _) fun turn h => absurd h (hnot turn)⟩
  | go h hlater =>
      obtain ⟨first, hrequest, rfl, hr⟩ | ⟨_, _, _, hr, _⟩ := h.turn
      · cases hr
        exact conversation_of_reaction hrequest hlater
      · cases hr

/-- The first capability is requested before everything else. -/
theorem proceeding_cons {talk : List Event} {r : Except SessionError Unit} :
    proceedingGrammar o authenticated method (entry :: wanted) talk r ↔
      (capabilityGrammar entry.1.name entry.2).andThen
        (fun _ => proceedingGrammar o authenticated method wanted) talk r := by
  constructor
  · intro h
    cases h with
    | stop h =>
        cases h with
        | stop h => exact .stop h
        | go h hlater => exact .go h (.stop hlater)
    | go h hlast =>
        cases h with
        | go h hlater =>
            rw [List.append_assoc]
            exact .go h (.go hlater hlast)
  · intro h
    cases h with
    | stop h => exact .stop (.stop h)
    | go h hlater =>
        cases hlater with
        | stop hlater => exact .stop (.go h hlater)
        | go hlater hlast =>
            rw [← List.append_assoc]
            exact .go (.go h hlater) hlast

theorem proceeding_nil {talk : List Event} {r : Except SessionError Unit} :
    proceedingGrammar o authenticated method [] talk r ↔
      if authenticated then authenticationGrammar o method talk r else talk = [] ∧ r = .ok () := by
  constructor
  · intro h
    cases h with
    | stop h => cases h.2
    | go h hlater =>
        obtain ⟨rfl, -⟩ := h
        cases authenticated <;> exact hlater
  · intro h
    rw [← List.nil_append talk]
    refine .go ⟨rfl, rfl⟩ ?_
    cases authenticated <;> exact h

/-- Every talk over an unencrypted connection is a conversation. The induction is on the
capabilities, each of which is one turn. -/
theorem conversation_of_proceeding {talk : List Event} {r : Except SessionError Unit}
    (h : proceedingGrammar o authenticated method wanted talk r) :
    ∃ c : Conversation, talk = c.events ∧ r = c.conclusion.outcome ∧
      c.Fits o authenticated method wanted := by
  induction wanted generalizing talk with
  | nil =>
      rw [proceeding_nil] at h
      cases authenticated with
      | true => exact conversation_of_authentication h
      | false =>
          obtain ⟨rfl, rfl⟩ := h
          have haccepts : Accepts false method [] [] := accepts_nil.mpr rfl
          exact ⟨⟨[], .complete⟩, rfl, rfl, List.nil_prefix, ⟨[], haccepts⟩, fun _ => haccepts,
            fun _ h => nomatch h⟩
  | cons entry wanted ih =>
      -- A capability that is not confirmed ends the conversation.
      have hlast : ∀ {talk r}, capabilityGrammar entry.1.name entry.2 talk r → r ≠ .ok () →
          ∃ c : Conversation, talk = c.events ∧ r = c.conclusion.outcome ∧
            c.Fits o authenticated method (entry :: wanted) := by
        intro talk r hask hr
        obtain ⟨_, _, _, _, rfl⟩ | ⟨conclusion, rfl, rfl, hrequests, -, hnot⟩ :=
          Exchange.judged_turn capability_verdict_refuses hask
        · exact absurd rfl hr
        · refine ⟨⟨[], conclusion⟩, rfl, rfl, .of_first hrequests (List.prefix_append _ _) ?_⟩
          intro turn hturn later hlater
          obtain ⟨text, _, heq, -⟩ := accepts_cons.mp hlater
          exact hnot turn hturn (capability_verdict_eq_ok_iff.mpr ⟨text, (List.cons.inj heq).1⟩)
      cases proceeding_cons.mp h with
      | stop hask => exact hlast hask nofun
      | go hask hlater =>
          obtain ⟨turn, hrequest, rfl, hwell, -⟩ | ⟨_, _, _, _, ⟨_, hr⟩, _⟩ :=
            Exchange.judged_turn capability_verdict_refuses hask
          · obtain ⟨c, rfl, rfl, hfits⟩ := ih hlater
            obtain ⟨text, hreply⟩ := capability_verdict_eq_ok_iff.mp hwell
            exact ⟨c.after turn, Conversation.events_after.symm, rfl, hfits.after hrequest hreply⟩
          · cases hr

end SessionKeeper
