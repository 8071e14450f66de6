import SessionKeeper.Network.Session
import SessionKeeper.Proofs.Network.Stream

/-!
# Dialogues with a server

A dialogue is what happens on a session, event by event, each of which is one call that sends,
receives or encrypts. The order of the events is the order of the calls. `Dialogue.on_transport`
says what a dialogue leaves on the transport, and `Dialogue.delivers` which bytes it took from it.
-/

namespace SessionKeeper

open NetworkSession (send receive encrypt)

/-- Something that happens on a session. -/
inductive Event where
  | sent (message : ClientMessage)
  | unsent (message : ClientMessage) (cause : SessionError)
  | received (message : ServerMessage)
  /-- No message could be received. -/
  | missed (cause : SessionError)
  | secured (config : TlsConfig)
  | unsecured (config : TlsConfig) (cause : SessionError)
  deriving DecidableEq

namespace Event

/-- The message that was sent. -/
def sentMessage? : Event → Option ClientMessage
  | sent m => some m
  | _ => none

/-- The message that was received. -/
def receivedMessage? : Event → Option ServerMessage
  | received m => some m
  | _ => none

/-- The message that was to be sent. -/
def triedMessage? : Event → Option ClientMessage
  | sent m | unsent m _ => some m
  | _ => none

/-- The attempt to send a message, with the error if it failed. -/
def attempt? : Event → Option (Option SessionError)
  | sent _ => some none
  | unsent _ cause => some (some cause)
  | _ => none

/-- Whether a message was sent or received. -/
def isMessage : Event → Bool
  | sent _ | received _ => true
  | _ => false

/-- The error in which a call failed. -/
def cause? : Event → Option SessionError
  | unsent _ cause | missed cause | unsecured _ cause => some cause
  | _ => none

/-- Whether nothing is encrypted, and no handshake begun. -/
def isPlain : Event → Bool
  | secured _ | unsecured .. => false
  | _ => true

/-- Whether the transport is encrypted from then on. -/
def encrypts : Event → Bool
  | secured _ => true
  | _ => false

/-- Whether an open transport stays open: a failed handshake closes it. -/
def leavesOpen : Event → Bool
  | unsecured .. => false
  | _ => true

theorem isPlain_of_isMessage {event : Event} (h : event.isMessage = true) :
    event.isPlain = true := by
  cases event with
  | sent | received => rfl
  | unsent | missed | secured | unsecured => cases h

theorem leavesOpen_of_isPlain {event : Event} (h : event.isPlain = true) :
    event.leavesOpen = true := by
  cases event with
  | sent | unsent | received | missed => rfl
  | secured | unsecured => cases h

theorem encrypts_of_isPlain {event : Event} (h : event.isPlain = true) :
    event.encrypts = false := by
  cases event with
  | sent | unsent | received | missed => rfl
  | secured | unsecured => cases h

/-- What is written on an open transport. -/
def written (encrypted : Bool) : Event → List Written
  | sent m => [if encrypted then .encrypted m.frame.encode else .clear m.frame.encode]
  | secured config => if encrypted then [] else [.hello config]
  | unsecured config _ => [.hello config]
  | unsent .. | received _ | missed _ => []

/-- What is written in part at most on an open transport. -/
def broken (encrypted : Bool) : Event → List Written
  | unsent m _ => [if encrypted then .encrypted m.frame.encode else .clear m.frame.encode]
  | sent _ | received _ | missed _ | secured _ | unsecured .. => []

end Event

/-- An event turns a session into another one. The client id that a notice tells counts from then
on. -/
inductive Happens (s : NetworkSession) : Event → NetworkSession → Prop where
  | sent {m : ClientMessage} {t : NetworkSession} (h : send m s = .ok () t) :
      Happens s (.sent m) t
  | unsent {m : ClientMessage} {e : SessionError} {t : NetworkSession}
      (h : send m s = .error e t) : Happens s (.unsent m e) t
  | received {m : ServerMessage} {t : NetworkSession} (h : receive s = .ok m t) :
      Happens s (.received m) (t.learn m)
  | missed {e : SessionError} {t : NetworkSession} (h : receive s = .error e t) :
      Happens s (.missed e) t
  | secured {config : TlsConfig} {t : NetworkSession} (h : encrypt config s = .ok () t) :
      Happens s (.secured config) t
  | unsecured {config : TlsConfig} {e : SessionError} {t : NetworkSession}
      (h : encrypt config s = .error e t) : Happens s (.unsecured config e) t

/-- Events that happen one after the other, each on the session that the one before it left. -/
inductive Dialogue : NetworkSession → List Event → NetworkSession → Prop where
  | nil (s : NetworkSession) : Dialogue s [] s
  | cons {s t u : NetworkSession} {event : Event} {talk : List Event}
      (hfirst : Happens s event t) (hlater : Dialogue t talk u) : Dialogue s (event :: talk) u

/-- The messages sent in a talk. -/
def sentIn (talk : List Event) : List ClientMessage :=
  talk.filterMap Event.sentMessage?

/-- The messages received in a talk, with the notices among them. -/
def receivedIn (talk : List Event) : List ServerMessage :=
  talk.filterMap Event.receivedMessage?

/-- The messages that were to be sent in a talk, with those that could not be. -/
def triedIn (talk : List Event) : List ClientMessage :=
  talk.filterMap Event.triedMessage?

/-- The attempts to send a message in a talk. -/
def attemptsIn (talk : List Event) : List (Option SessionError) :=
  talk.filterMap Event.attempt?

/-- What the events of a talk leave on an open transport, given what each of them does. -/
def partsIn (left : Bool → Event → List Written) (encrypted : Bool) : List Event → List Written
  | [] => []
  | event :: talk =>
      left encrypted event ++
        if event.leavesOpen then partsIn left (encrypted || event.encrypts) talk else []

/-- What a talk writes on an open transport. -/
def writtenIn (encrypted : Bool) (talk : List Event) : List Written :=
  partsIn Event.written encrypted talk

/-- What a talk writes in part at most. -/
def brokenIn (encrypted : Bool) (talk : List Event) : List Written :=
  partsIn Event.broken encrypted talk

/-- What a session was told to do when it connects. -/
structure SameSettings (s t : NetworkSession) : Prop where
  tls : t.tls = s.tls
  capabilities : t.capabilities = s.capabilities
  authMethod : t.authMethod = s.authMethod
  ipMode : t.ipMode = s.ipMode

theorem SameSettings.refl (s : NetworkSession) : SameSettings s s :=
  ⟨rfl, rfl, rfl, rfl⟩

theorem SameSettings.trans {s t u : NetworkSession} (h : SameSettings s t)
    (hlater : SameSettings t u) : SameSettings s u :=
  ⟨hlater.tls.trans h.tls, hlater.capabilities.trans h.capabilities,
    hlater.authMethod.trans h.authMethod, hlater.ipMode.trans h.ipMode⟩

theorem SameSettings.symm {s t : NetworkSession} (h : SameSettings s t) : SameSettings t s :=
  ⟨h.tls.symm, h.capabilities.symm, h.authMethod.symm, h.ipMode.symm⟩

variable {s t u : NetworkSession} {event : Event} {talk later : List Event} {x : Transport}

/-! ## What a talk consists of -/

@[simp]
theorem sent_in_nil : sentIn [] = [] :=
  rfl

@[simp]
theorem received_in_nil : receivedIn [] = [] :=
  rfl

@[simp]
theorem tried_in_nil : triedIn [] = [] :=
  rfl

@[simp]
theorem sent_in_cons : sentIn (event :: talk) = event.sentMessage?.toList ++ sentIn talk := by
  cases event <;> rfl

@[simp]
theorem received_in_cons :
    receivedIn (event :: talk) = event.receivedMessage?.toList ++ receivedIn talk := by
  cases event <;> rfl

@[simp]
theorem tried_in_cons : triedIn (event :: talk) = event.triedMessage?.toList ++ triedIn talk := by
  cases event <;> rfl

@[simp]
theorem attempts_in_cons :
    attemptsIn (event :: talk) = event.attempt?.toList ++ attemptsIn talk := by
  cases event <;> rfl

/-- Where every call sends or receives a message, every attempt succeeds. -/
theorem attempts_in_messages (h : ∀ event ∈ talk, event.isMessage = true) :
    attemptsIn talk = List.replicate (sentIn talk).length none := by
  induction talk with
  | nil => rfl
  | cons event talk ih =>
      obtain ⟨hevent, hlater⟩ := List.forall_mem_cons.mp h
      rw [attempts_in_cons, sent_in_cons, List.length_append, ih hlater]
      cases event with
      | sent m =>
          show none :: List.replicate _ none = List.replicate (1 + _) none
          rw [Nat.add_comm, List.replicate_succ]
      | received m => simp [Event.attempt?, Event.sentMessage?]
      | unsent | missed | secured | unsecured => cases hevent

@[simp]
theorem tried_in_append : triedIn (talk ++ later) = triedIn talk ++ triedIn later :=
  List.filterMap_append

/-- What is sent was to be sent. -/
theorem sent_in_subset_tried_in (talk : List Event) : sentIn talk ⊆ triedIn talk := by
  intro m hm
  obtain ⟨event, hevent, hsent⟩ := List.mem_filterMap.mp hm
  refine List.mem_filterMap.mpr ⟨event, hevent, ?_⟩
  cases event with
  | sent => exact hsent
  | unsent | received | missed | secured | unsecured => cases hsent

@[simp]
theorem sent_in_append : sentIn (talk ++ later) = sentIn talk ++ sentIn later :=
  List.filterMap_append

@[simp]
theorem received_in_append : receivedIn (talk ++ later) = receivedIn talk ++ receivedIn later :=
  List.filterMap_append

@[simp]
theorem sent_in_received (messages : List ServerMessage) :
    sentIn (messages.map .received) = [] := by
  induction messages with
  | nil => rfl
  | cons m messages ih => exact ih

@[simp]
theorem tried_in_received (messages : List ServerMessage) :
    triedIn (messages.map .received) = [] := by
  induction messages with
  | nil => rfl
  | cons m messages ih => exact ih

@[simp]
theorem received_in_received (messages : List ServerMessage) :
    receivedIn (messages.map .received) = messages := by
  induction messages with
  | nil => rfl
  | cons m messages ih => exact congrArg (m :: ·) ih

/-- If nothing is encrypted, what is written is what is sent. -/
theorem written_in_plain {encrypted : Bool} (h : ∀ event ∈ talk, event.isPlain = true) :
    writtenIn encrypted talk = (sentIn talk).map fun m =>
      if encrypted then .encrypted m.frame.encode else .clear m.frame.encode := by
  unfold writtenIn
  induction talk with
  | nil => rfl
  | cons event talk ih =>
      obtain ⟨hevent, hlater⟩ := List.forall_mem_cons.mp h
      cases event with
      | sent | unsent | received | missed =>
          simp [partsIn, Event.written, Event.leavesOpen, Event.encrypts, ih hlater,
            Event.sentMessage?]
      | secured | unsecured => cases hevent

section Parts

variable {left : Bool → Event → List Written} {encrypted : Bool} {part : Written}

theorem parts_in_cons_of_open (h : event.leavesOpen = true) :
    partsIn left encrypted (event :: talk) =
      left encrypted event ++ partsIn left (encrypted || event.encrypts) talk := by
  rw [partsIn, if_pos h]

/-- Nothing that follows is left on a transport that was closed. -/
theorem parts_in_cons_of_closed (h : event.leavesOpen = false) :
    partsIn left encrypted (event :: talk) = left encrypted event := by
  rw [partsIn, if_neg (by simp [h]), List.append_nil]

theorem parts_in_single : partsIn left encrypted [event] = left encrypted event := by
  rw [partsIn, partsIn, ite_self, List.append_nil]

/-- What a talk leaves on the transport, if it stays open, comes before what is left later. -/
theorem parts_in_append_of_open (h : ∀ event ∈ talk, event.leavesOpen = true) :
    partsIn left encrypted (talk ++ later) =
      partsIn left encrypted talk ++ partsIn left (encrypted || talk.any Event.encrypts) later := by
  induction talk generalizing encrypted with
  | nil => rw [List.nil_append, List.any_nil, Bool.or_false, partsIn, List.nil_append]
  | cons event talk ih =>
      obtain ⟨hevent, htalk⟩ := List.forall_mem_cons.mp h
      rw [List.cons_append, parts_in_cons_of_open hevent, parts_in_cons_of_open hevent, ih htalk,
        List.append_assoc, List.any_cons, Bool.or_assoc]

/-- So does what is left by a talk that encrypts nothing. -/
theorem parts_in_append (h : ∀ event ∈ talk, event.isPlain = true) :
    partsIn left encrypted (talk ++ later) =
      partsIn left encrypted talk ++ partsIn left encrypted later := by
  have hclear : talk.any Event.encrypts = false :=
    List.any_eq_false.mpr fun event hevent => by simp [Event.encrypts_of_isPlain (h event hevent)]
  rw [parts_in_append_of_open fun event hevent => Event.leavesOpen_of_isPlain (h event hevent),
    hclear, Bool.or_false]

/-- Each part is left by some event. -/
theorem exists_event_of_mem_parts_in (hpart : part ∈ partsIn left encrypted talk) :
    ∃ event ∈ talk, ∃ encrypted, part ∈ left encrypted event := by
  induction talk generalizing encrypted with
  | nil => cases hpart
  | cons event talk ih =>
      rw [partsIn, List.mem_append] at hpart
      obtain hpart | hpart := hpart
      · exact ⟨event, List.mem_cons_self, encrypted, hpart⟩
      · split at hpart
        · obtain ⟨other, hother, hleft⟩ := ih hpart
          exact ⟨other, List.mem_cons_of_mem _ hother, hleft⟩
        · cases hpart

/-- A talk over an encrypted transport leaves nothing that no event leaves there. -/
theorem not_mem_parts_in_of_encrypted (hpart : ∀ event, part ∉ left true event) :
    part ∉ partsIn left true talk := by
  induction talk with
  | nil => exact List.not_mem_nil
  | cons event talk ih =>
      rw [partsIn, List.mem_append, not_or]
      refine ⟨hpart event, ?_⟩
      split
      · exact ih
      · exact List.not_mem_nil

end Parts

/-- What stands in the clear, whole or broken, is a message that was to be sent. -/
theorem exists_tried_of_clear {encrypted : Bool} {bytes : Bytes}
    (hclear : .clear bytes ∈ writtenIn encrypted talk ++ brokenIn encrypted talk) :
    ∃ m ∈ triedIn talk, bytes = m.frame.encode := by
  have htried {event : Event} {m : ClientMessage} (hevent : event ∈ talk)
      (hm : event.triedMessage? = some m) : m ∈ triedIn talk :=
    List.mem_filterMap.mpr ⟨event, hevent, hm⟩
  obtain hpart | hpart := List.mem_append.mp hclear
  · obtain ⟨event, hevent, e, hpart⟩ := exists_event_of_mem_parts_in hpart
    cases event with
    | sent m =>
        cases e <;> simp [Event.written] at hpart
        exact ⟨m, htried hevent rfl, hpart⟩
    | secured => cases e <;> simp [Event.written] at hpart
    | unsent | received | missed | unsecured => simp [Event.written] at hpart
  · obtain ⟨event, hevent, e, hpart⟩ := exists_event_of_mem_parts_in hpart
    cases event with
    | unsent m =>
        cases e <;> simp [Event.broken] at hpart
        exact ⟨m, htried hevent rfl, hpart⟩
    | sent | received | missed | secured | unsecured => cases hpart

/-- Over an encrypted transport nothing stands in the clear. -/
theorem not_clear_of_encrypted (talk : List Event) (bytes : Bytes) :
    Written.clear bytes ∉ writtenIn true talk ++ brokenIn true talk := by
  rw [List.mem_append, not_or]
  refine ⟨not_mem_parts_in_of_encrypted fun event => ?_,
    not_mem_parts_in_of_encrypted fun event => ?_⟩
  · cases event <;> simp [Event.written]
  · cases event <;> simp [Event.broken]

/-! ## Putting dialogues together -/

theorem Dialogue.append (h : Dialogue s talk t) (hlater : Dialogue t later u) :
    Dialogue s (talk ++ later) u := by
  induction h with
  | nil => exact hlater
  | cons hfirst _ ih => exact .cons hfirst (ih hlater)

theorem Dialogue.split (h : Dialogue s (talk ++ later) u) :
    ∃ t, Dialogue s talk t ∧ Dialogue t later u := by
  induction talk generalizing s with
  | nil => exact ⟨s, .nil s, h⟩
  | cons event talk ih =>
      cases h with
      | cons hfirst hrest =>
          obtain ⟨t, htalk, hlater⟩ := ih hrest
          exact ⟨t, .cons hfirst htalk, hlater⟩

theorem Dialogue.single (h : Happens s event t) : Dialogue s [event] t :=
  .cons h (.nil t)

theorem Dialogue.happens (h : Dialogue s [event] t) : Happens s event t := by
  cases h with
  | cons hfirst hlater =>
      cases hlater
      exact hfirst

/-! ## Single calls -/

theorem NetworkSession.settings_learn (s : NetworkSession) (m : ServerMessage) :
    SameSettings s (s.learn m) := by
  unfold NetworkSession.learn
  split <;> exact ⟨rfl, rfl, rfl, rfl⟩

/-- Only notices tell a client id. -/
theorem NetworkSession.learn_of_not_notice {m : ServerMessage} (h : m.isNotice = false) :
    s.learn m = s := by
  cases m <;> first | rfl | cases h

theorem NetworkSession.settings_send (m : ClientMessage) (s : NetworkSession) :
    SameSettings s (send m s).state := by
  simp only [send]
  split <;> exact ⟨rfl, rfl, rfl, rfl⟩

theorem NetworkSession.settings_receive (s : NetworkSession) :
    SameSettings s (receive s).state := by
  simp only [receive]
  split
  · exact ⟨rfl, rfl, rfl, rfl⟩
  · split <;> exact ⟨rfl, rfl, rfl, rfl⟩

theorem NetworkSession.settings_encrypt (config : TlsConfig) (s : NetworkSession) :
    SameSettings s (encrypt config s).state := by
  simp only [encrypt]
  split <;> exact ⟨rfl, rfl, rfl, rfl⟩

/-- No event changes the settings. -/
theorem Happens.settings (h : Happens s event t) : SameSettings s t := by
  cases h with
  | @sent m _ h | @unsent m _ _ h =>
      have hsame := NetworkSession.settings_send m s
      rwa [h] at hsame
  | @received m _ h =>
      have hsame := NetworkSession.settings_receive s
      rw [h] at hsame
      exact hsame.trans (NetworkSession.settings_learn _ m)
  | missed h =>
      have hsame := NetworkSession.settings_receive s
      rwa [h] at hsame
  | @secured config _ h | @unsecured config _ _ h =>
      have hsame := NetworkSession.settings_encrypt config s
      rwa [h] at hsame

/-- No dialogue changes the settings. -/
theorem Dialogue.settings (h : Dialogue s talk t) : SameSettings s t := by
  induction h with
  | nil s => exact .refl s
  | cons hfirst _ ih => exact hfirst.settings.trans ih

/-- An event of a dialogue happened at some point of it. -/
theorem Dialogue.happens_of_mem (h : Dialogue s talk t) (hmem : event ∈ talk) :
    ∃ u v, Happens u event v := by
  induction h with
  | nil => cases hmem
  | cons hfirst _ ih =>
      cases hmem with
      | head => exact ⟨_, _, hfirst⟩
      | tail _ hmem => exact ih hmem

/-! ## What happens on the transport -/

/-- Every event on a closed connection fails, and leaves the connection alone. -/
theorem Happens.on_closed (h : Happens s event t) (hclosed : s.connection.current = none) :
    t.connection = s.connection := by
  have hno : ∀ {α : Type} (act : EStateM SessionError Transport α),
      Connection.onTransport act s.connection = .error .gone s.connection := by
    intro α act
    simp only [Connection.onTransport, hclosed]
  cases h with
  | sent h | unsent h =>
      simp only [send, Connection.write, hno] at h
      cases h <;> rfl
  | received h | missed h =>
      simp only [receive, Connection.readFrame, hno] at h
      cases h <;> rfl
  | secured h | unsecured h =>
      simp only [encrypt, Connection.encrypt, hclosed] at h
      cases h <;> rfl

/-- The writes that come later are those that come behind the next one. -/
theorem Transport.send_failure_of_tail {y : Transport} (hsends : y.sends = x.sends.tail)
    (hheard : y.heard = x.heard) (n : Nat) : y.sendFailure? n = x.sendFailure? (1 + n) := by
  rw [sendFailure?, sendFailure?, hsends, hheard, List.getElem?_tail, Nat.add_comm]

/-- A message is sent, unless the next write fails. -/
theorem NetworkSession.send_of_open (m : ClientMessage)
    (hopen : s.connection.current = some x) :
    send m s =
      match x.sendFailure? 0 with
      | none =>
          .ok ()
            { s with
              connection :=
                { s.connection with
                  current :=
                    some
                      { x with
                        sends := x.sends.tail
                        written := x.written ++ (Event.sent m).written x.encrypted } }
              traffic := s.traffic.countSent m.frame.size }
      | some failure =>
          .error (.ofTransport failure)
            { s with
              connection :=
                { s.connection with
                  current :=
                    some
                      { x with
                        sends := x.sends.tail
                        broken := x.broken ++
                          (Event.unsent m (.ofTransport failure)).broken x.encrypted } } } := by
  obtain ⟨⟨current, past⟩, received, traffic, tls, capabilities, authMethod, ipMode, clientId⟩ := s
  obtain rfl : current = some x := hopen
  cases hfailure : x.sendFailure? 0 <;>
    simp [send, Connection.write, Connection.onTransport, Transport.write, hfailure, Event.written,
      Event.broken]

/-- Receiving changes what is unread on the transport and what comes later, and nothing else on
it. -/
theorem NetworkSession.receive_on_transport (hopen : s.connection.current = some x) :
    ∃ unread later, (receive s).state.connection =
      { s.connection with current := some { x with unread, later } } := by
  obtain ⟨unread, later, hstate⟩ := Transport.state_read_frame x
  refine ⟨unread, later, ?_⟩
  rw [← hstate]
  simp only [receive, Connection.readFrame, Connection.onTransport, hopen]
  cases Transport.readFrame x with
  | error e y => rfl
  | ok frame y =>
      simp only [EStateM.Result.state_ok]
      cases ServerMessage.ofFrame frame <;> rfl

/-- A message that is received changes what is unread only. -/
theorem NetworkSession.receive_ok_on_transport {m : ServerMessage}
    (hopen : s.connection.current = some x) (h : receive s = .ok m t) :
    ∃ unread, t.connection = { s.connection with current := some { x with unread } } := by
  simp only [receive, Connection.readFrame, Connection.onTransport, hopen] at h
  cases hread : Transport.readFrame x with
  | error e y =>
      simp only [hread] at h
      cases h
  | ok frame y =>
      obtain ⟨-, -, hrest⟩ := Transport.read_frame_eq_ok_iff.mp hread
      simp only [hread] at h
      split at h
      · cases h
      · cases h
        exact ⟨y.unread, by rw [← hrest]⟩

/-- Where no message is received, the error is the failure that the transport has next, or what came
is no message. -/
theorem NetworkSession.receive_error_of_open {e : SessionError}
    (hopen : s.connection.current = some x) (h : receive s = .error e t) :
    e = .ofTransport x.shortage ∨ e.code = Code.malformedPacket := by
  simp only [receive, Connection.readFrame, Connection.onTransport, hopen] at h
  cases hread : Transport.readFrame x with
  | error e y =>
      simp only [hread] at h
      cases h
      exact Transport.read_frame_error_cases hread
  | ok frame y =>
      simp only [hread] at h
      split at h
      · next hmessage =>
          cases h
          exact .inr (ServerMessage.of_frame_error_code hmessage)
      · cases h

/-- A message is unsent because of a failure of the transport. -/
theorem NetworkSession.send_error {m : ClientMessage} {e : SessionError}
    (h : send m s = .error e t) : ∃ failure, e = .ofTransport failure := by
  cases hcurrent : s.connection.current with
  | none =>
      simp only [send, Connection.write, Connection.onTransport, hcurrent] at h
      cases h
      exact ⟨.disconnected, rfl⟩
  | some x =>
      rw [send_of_open m hcurrent] at h
      split at h <;> cases h
      exact ⟨_, rfl⟩

/-- If no message is received, the transport failed, or what the server sent is no message. -/
theorem NetworkSession.receive_error_cases {e : SessionError} (h : receive s = .error e t) :
    (∃ failure, e = .ofTransport failure) ∨ e.code = Code.malformedPacket := by
  cases hcurrent : s.connection.current with
  | none =>
      simp only [receive, Connection.readFrame, Connection.onTransport, hcurrent] at h
      cases h
      exact .inl ⟨.disconnected, rfl⟩
  | some x => exact (receive_error_of_open hcurrent h).imp_left fun he => ⟨_, he⟩

/-- A transport in the clear is greeted, and closed if the handshake fails. -/
theorem NetworkSession.encrypt_of_open (config : TlsConfig)
    (hopen : s.connection.current = some x) :
    encrypt config s =
      if x.encrypted then .ok () s
      else
        match x.tlsAnswer with
        | .success bytes later =>
            .ok ()
              { s with
                connection :=
                  { s.connection with
                    current :=
                      some
                        { x with
                          written := x.written ++ [.hello config]
                          unread := bytes
                          later := later
                          encrypted := true } } }
        | .refusal reason =>
            .error (Transport.handshakeError reason)
              { s with
                connection :=
                  ⟨none,
                    { x with written := x.written ++ [.hello config], unread := [] } ::
                      s.connection.past⟩ } := by
  obtain ⟨⟨current, past⟩, received, traffic, tls, capabilities, authMethod, ipMode, clientId⟩ := s
  obtain rfl : current = some x := hopen
  cases hencrypted : x.encrypted with
  | true => simp [encrypt, Connection.encrypt, hencrypted]
  | false =>
      cases hanswer : x.tlsAnswer <;>
        simp [encrypt, Connection.encrypt, Transport.encrypt, Connection.close, hencrypted, hanswer]

theorem Dialogue.on_closed (h : Dialogue s talk t) (hclosed : s.connection.current = none) :
    t.connection = s.connection := by
  induction h with
  | nil => rfl
  | cons hfirst _ ih =>
      have hsame := hfirst.on_closed hclosed
      exact (ih (by rw [hsame, hclosed])).trans hsame

/-- What an event leaves of an open transport. -/
structure Transport.Leaves (x : Transport) (event : Event) (y : Transport) : Prop where
  number : y.number = x.number
  written : y.written = x.written ++ event.written x.encrypted
  broken : y.broken = x.broken ++ event.broken x.encrypted
  encrypted : y.encrypted = (x.encrypted || event.encrypts)
  /-- An attempt to send uses up the outcome of one write. -/
  attempt : ∀ attempt, event.attempt? = some attempt →
    attempt = (x.sendFailure? 0).map SessionError.ofTransport
  sends : ∀ n, y.sendFailure? n = x.sendFailure? (event.attempt?.toList.length + n)
  ended : y.ended = x.ended
  /-- Messages do not use up interruptions. -/
  later : event.isMessage = true → y.later = x.later

/-- What is left of an open transport by an event. -/
theorem Happens.on_transport (h : Happens s event t) (hopen : s.connection.current = some x) :
    ∃ y : Transport, x.Leaves event y ∧
      t.connection =
        if event.leavesOpen then { s.connection with current := some y }
        else ⟨none, y :: s.connection.past⟩ := by
  have hsame : { s.connection with current := some x } = s.connection := by rw [← hopen]
  -- What writes nothing and encrypts nothing leaves what was written and whether it is encrypted.
  have hwritten : x.written = x.written ++ [] := (List.append_nil _).symm
  have hbroken : x.broken = x.broken ++ [] := (List.append_nil _).symm
  have hencrypted : x.encrypted = (x.encrypted || false) := (Bool.or_false _).symm
  have hsends (n : Nat) : x.sendFailure? n = x.sendFailure? (0 + n) := by rw [Nat.zero_add]
  cases h with
  | @sent m t h =>
      rw [NetworkSession.send_of_open _ hopen] at h
      split at h <;> cases h
      next hnone =>
        refine ⟨{ x with sends := x.sends.tail, written := _ }, ⟨rfl, rfl, hbroken, hencrypted, ?_,
          Transport.send_failure_of_tail rfl rfl, rfl, fun _ => rfl⟩, rfl⟩
        rintro _ ⟨⟩
        rw [hnone]
        rfl
  | unsent h =>
      rw [NetworkSession.send_of_open _ hopen] at h
      split at h <;> cases h
      next failure hfailure =>
        refine ⟨{ x with sends := x.sends.tail, broken := _ }, ⟨rfl, hwritten, rfl, hencrypted, ?_,
          Transport.send_failure_of_tail rfl rfl, rfl, nofun⟩, rfl⟩
        rintro _ ⟨⟩
        rw [hfailure]
        rfl
  | received h =>
      obtain ⟨unread, hconnection⟩ := NetworkSession.receive_ok_on_transport hopen h
      exact ⟨{ x with unread },
        ⟨rfl, hwritten, hbroken, hencrypted, nofun, hsends, rfl, fun _ => rfl⟩,
        (NetworkSession.connection_learn _ _).trans hconnection⟩
  | missed h =>
      obtain ⟨unread, later, hconnection⟩ := NetworkSession.receive_on_transport hopen
      rw [h] at hconnection
      exact ⟨{ x with unread, later },
        ⟨rfl, hwritten, hbroken, hencrypted, nofun, hsends, rfl, nofun⟩, hconnection⟩
  | @secured config t h =>
      rw [NetworkSession.encrypt_of_open _ hopen] at h
      split at h
      -- A connection that is encrypted already is not greeted again.
      · next hyes =>
          cases h
          exact ⟨x, ⟨rfl, by simp [Event.written, hyes], hbroken, by simp [hyes], nofun, hsends,
            rfl, nofun⟩, hsame.symm⟩
      · next hno =>
          split at h <;> cases h
          exact ⟨{ x with written := _, unread := _, later := _, encrypted := true },
            ⟨rfl, by simp [Event.written, hno], hbroken, by simp [Event.encrypts], nofun, hsends,
              rfl, nofun⟩, rfl⟩
  | @unsecured config e t h =>
      rw [NetworkSession.encrypt_of_open _ hopen] at h
      split at h
      · cases h
      · next hno =>
          split at h <;> cases h
          exact ⟨{ x with written := _, unread := [] },
            ⟨rfl, rfl, hbroken, hencrypted, nofun, hsends, rfl, nofun⟩, rfl⟩

/-- What a talk leaves of the transport that was open when it began. -/
structure Transport.LeftBy (s : NetworkSession) (x : Transport) (talk : List Event)
    (t : NetworkSession) (y : Transport) : Prop where
  number : y.number = x.number
  written : y.written = x.written ++ writtenIn x.encrypted talk
  broken : y.broken = x.broken ++ brokenIn x.encrypted talk
  transports : t.connection.transports = y :: s.connection.past
  /-- Unless a handshake failed it is still open. -/
  stays : (∀ event ∈ talk, event.leavesOpen = true) →
    t.connection = { s.connection with current := some y } ∧
      y.encrypted = (x.encrypted || talk.any Event.encrypts)

/-- A dialogue leaves the transport as its talk says. -/
theorem Dialogue.on_transport (h : Dialogue s talk t) (hopen : s.connection.current = some x) :
    ∃ y, Transport.LeftBy s x talk t y := by
  induction h generalizing x with
  | nil s =>
      refine ⟨x, rfl, (List.append_nil _).symm, (List.append_nil _).symm, ?_,
        fun _ => ⟨?_, (Bool.or_false _).symm⟩⟩
      · simp [Connection.transports, hopen]
      · rw [← hopen]
  | @cons s t u event talk hfirst hlater ih =>
      obtain ⟨y, hleft, hconnection⟩ := hfirst.on_transport hopen
      cases hleaves : event.leavesOpen with
      | true =>
          rw [hleaves, if_pos rfl] at hconnection
          obtain ⟨z, hz⟩ := ih (x := y) (by rw [hconnection])
          refine ⟨z, hz.number.trans hleft.number, ?_, ?_, ?_, fun hall => ?_⟩
          · rw [hz.written, hleft.written, hleft.encrypted, List.append_assoc]
            exact congrArg (x.written ++ ·) (parts_in_cons_of_open hleaves).symm
          · rw [hz.broken, hleft.broken, hleft.encrypted, List.append_assoc]
            exact congrArg (x.broken ++ ·) (parts_in_cons_of_open hleaves).symm
          · rw [hz.transports, hconnection]
          · obtain ⟨hsame, hencrypted⟩ := hz.stays fun e he => hall e (List.mem_cons_of_mem _ he)
            refine ⟨by rw [hsame, hconnection], ?_⟩
            rw [hencrypted, hleft.encrypted, List.any_cons, Bool.or_assoc]
      | false =>
          -- The transport was closed, so nothing that follows is written on it.
          rw [hleaves, if_neg nofun] at hconnection
          refine ⟨y, hleft.number, ?_, ?_, ?_, fun hall => ?_⟩
          · rw [hleft.written, writtenIn, parts_in_cons_of_closed hleaves]
          · rw [hleft.broken, brokenIn, parts_in_cons_of_closed hleaves]
          · rw [hlater.on_closed (by rw [hconnection]), hconnection]
            rfl
          · have hopenLeft := hall event List.mem_cons_self
            rw [hleaves] at hopenLeft
            cases hopenLeft

/-- A transport that is open in the end was never closed. -/
theorem Dialogue.leaves_open (h : Dialogue s talk t) (hopen : t.connection.isOpen = true) :
    ∀ event ∈ talk, event.leavesOpen = true := by
  have hclosed {s t : NetworkSession} {talk : List Event} (h : Dialogue s talk t)
      (hcurrent : s.connection.current = none) : t.connection.isOpen = false := by
    rw [h.on_closed hcurrent, Connection.isOpen, hcurrent]
    rfl
  induction h with
  | nil s => exact fun _ hevent => nomatch hevent
  | @cons s t u event talk hfirst hlater ih =>
      refine List.forall_mem_cons.mpr ⟨?_, ih hopen⟩
      cases hcurrent : s.connection.current with
      | none => exact absurd (hclosed (.cons hfirst hlater) hcurrent) (by simp [hopen])
      | some x =>
          obtain ⟨y, -, hconnection⟩ := hfirst.on_transport hcurrent
          cases hleaves : event.leavesOpen with
          | true => rfl
          | false =>
              rw [hleaves, if_neg nofun] at hconnection
              exact absurd (hclosed hlater (by rw [hconnection])) (by simp [hopen])

/-- The attempts to send a message come out as the peer settles it for each of them, as long as the
transport is open. -/
theorem Dialogue.attempts_eq (h : Dialogue s talk t) (hopen : s.connection.current = some x)
    (hleaves : ∀ event ∈ talk, event.leavesOpen = true) :
    attemptsIn talk = (List.range (attemptsIn talk).length).map fun n =>
      (x.sendFailure? n).map SessionError.ofTransport := by
  induction h generalizing x with
  | nil s => rfl
  | @cons s t u event talk hfirst hlater ih =>
      obtain ⟨y, hleft, hconnection⟩ := hfirst.on_transport hopen
      obtain ⟨hevent, hrest⟩ := List.forall_mem_cons.mp hleaves
      rw [hevent, if_pos rfl] at hconnection
      have hlist := ih (x := y) (by rw [hconnection]) hrest
      rw [attempts_in_cons]
      cases hattempt : event.attempt? with
      | none =>
          have hsends := hleft.sends
          simp only [hattempt, Option.toList_none, List.length_nil, Nat.zero_add] at hsends
          simp only [hsends] at hlist
          simpa using hlist
      | some attempt =>
          have hsends := hleft.sends
          simp only [hattempt, Option.toList_some, List.length_singleton, Nat.add_comm 1] at hsends
          simp only [hsends] at hlist
          rw [Option.toList_some, List.singleton_append, List.length_cons, List.range_succ_eq_map,
            List.map_cons, List.map_map, hleft.attempt attempt hattempt]
          exact congrArg _ hlist

/-- Messages leave the transport open, with the interruptions that it had. -/
theorem Dialogue.on_messages (h : Dialogue s talk t) (hopen : s.connection.current = some x)
    (hmessages : ∀ event ∈ talk, event.isMessage = true) :
    ∃ y, t.connection = { s.connection with current := some y } ∧ y.later = x.later ∧
      y.ended = x.ended := by
  induction h generalizing x with
  | nil s => exact ⟨x, by rw [← hopen], rfl, rfl⟩
  | @cons s t u event talk hfirst hlater ih =>
      obtain ⟨hevent, hrest⟩ := List.forall_mem_cons.mp hmessages
      obtain ⟨y, hleft, hconnection⟩ := hfirst.on_transport hopen
      rw [Event.leavesOpen_of_isPlain (Event.isPlain_of_isMessage hevent), if_pos rfl]
        at hconnection
      obtain ⟨z, hz, hzlater, hzended⟩ := ih (x := y) (by rw [hconnection]) hrest
      exact ⟨z, by rw [hz, hconnection], hzlater.trans (hleft.later hevent),
        hzended.trans hleft.ended⟩

/-- A message that is missed behind others is missed because of the failure that the transport had
from the beginning, or because it is none. -/
theorem Dialogue.missed_cases {e : SessionError} (h : Dialogue s (talk ++ [.missed e]) t)
    (hopen : s.connection.current = some x) (hmessages : ∀ event ∈ talk, event.isMessage = true) :
    e = .ofTransport x.shortage ∨ e.code = Code.malformedPacket := by
  obtain ⟨u, htalk, hlast⟩ := h.split
  obtain ⟨y, hconnection, hlater, hended⟩ := htalk.on_messages hopen hmessages
  have hshortage : y.shortage = x.shortage := by
    rw [Transport.shortage, Transport.shortage, hlater, hended]
  cases hlast.happens with
  | missed h =>
      rw [← hshortage]
      exact NetworkSession.receive_error_of_open (congrArg Connection.current hconnection) h

/-! ## What is taken from the transport -/

/-- A message that is received takes its own frame from what is unread. -/
theorem NetworkSession.delivers_of_receive {m : ServerMessage} (h : receive s = .ok m t) :
    Delivers s.connection.unread [m] t.connection.unread := by
  cases hcurrent : s.connection.current with
  | none =>
      simp only [receive, Connection.readFrame, Connection.onTransport, hcurrent] at h
      cases h
  | some x =>
      simp only [receive, Connection.readFrame, Connection.onTransport, hcurrent] at h
      cases hread : Transport.readFrame x with
      | error e y =>
          simp only [hread] at h
          cases h
      | ok frame y =>
          simp only [hread] at h
          split at h
          · cases h
          · next hmessage =>
              cases h
              obtain ⟨hsize, hunread, -⟩ := Transport.read_frame_eq_ok_iff.mp hread
              simp only [Connection.unread, hcurrent, hunread]
              exact .cons hsize hmessage (.nil _)

/-- A message whose frame comes next is received. -/
theorem NetworkSession.receive_of_delivers {m : ServerMessage} {messages : List ServerMessage}
    {rest : Bytes} (hopen : s.connection.current = some x)
    (h : Delivers x.unread (m :: messages) rest) :
    ∃ t middle, receive s = .ok m t ∧
      t.connection.current = some { x with unread := middle } ∧
      Delivers middle messages rest := by
  generalize hunread : x.unread = bytes at h
  cases h with
  | @cons frame _ _ later _ hsize hmessage hlater =>
      have hread : Transport.readFrame x = .ok frame { x with unread := later } :=
        Transport.read_frame_eq_ok_iff.mpr ⟨hsize, hunread, rfl⟩
      simp only [receive, Connection.readFrame, Connection.onTransport, hopen, hread, hmessage]
      exact ⟨_, later, rfl, rfl, hlater⟩

/-- A talk in which every call succeeds and nothing is encrypted takes from the transport exactly
the frames of the messages that it receives. -/
theorem Dialogue.delivers (h : Dialogue s talk t)
    (hmessages : ∀ event ∈ talk, event.isMessage = true) :
    Delivers s.connection.unread (receivedIn talk) t.connection.unread := by
  induction h with
  | nil s => exact .nil _
  | @cons s t u event talk hfirst hlater ih =>
      have hrest := ih fun e he => hmessages e (List.mem_cons_of_mem _ he)
      have hevent := hmessages event List.mem_cons_self
      cases hfirst with
      | sent hsend =>
          have hsame : t.connection.unread = s.connection.unread := by
            cases hcurrent : s.connection.current with
            | none =>
                rw [(Happens.sent hsend).on_closed hcurrent]
            | some x =>
                rw [NetworkSession.send_of_open _ hcurrent] at hsend
                split at hsend <;> cases hsend
                simp [Connection.unread, hcurrent]
          rw [← hsame]
          exact hrest
      | received hreceive =>
          have hone := NetworkSession.delivers_of_receive hreceive
          rw [NetworkSession.connection_learn] at hrest
          exact hone.append hrest
      | unsent _ | missed _ | secured _ | unsecured _ => cases hevent

end SessionKeeper
