import SessionKeeper.Proofs.Message.Recovery
import SessionKeeper.Proofs.Network.Connecting

/-!
# Responses to challenges

A server keeps of a password the digest of its digest. It sends a challenge, and takes a response
for a proof of the password if what the response hides is a digest whose own digest is the one it
keeps; `Authentication.accepts` is this check. The main statement, `challenges_answered`, says that
the data with which a client answers a challenge spell such a response, and that a session that
connects answers the challenge that it just received, and no other.
-/

namespace SessionKeeper

namespace Authentication

/-! ## Hexadecimal digits -/

/-- The bytes of the digits `0` to `9` and `A` to `F`. -/
def upperHexDigits : Bytes :=
  [48, 49, 50, 51, 52, 53, 54, 55, 56, 57, 65, 66, 67, 68, 69, 70]

/-- The bytes that hexadecimal digits spell, two digits a byte. -/
def unhex? : Bytes → Option Bytes
  | [] => some []
  | [_] => none
  | high :: low :: digits =>
      match upperHexDigits.idxOf? high, upperHexDigits.idxOf? low, unhex? digits with
      | some high, some low, some bytes => some (UInt8.ofNat (16 * high + low) :: bytes)
      | _, _, _ => none

theorem hex_digit_mem {n : Nat} (h : n < 16) : hexDigit n ∈ upperHexDigits := by
  revert n
  decide

/-- A digit stands for its place among the digits. -/
theorem idx_of_hex_digit {n : Nat} (h : n < 16) : upperHexDigits.idxOf? (hexDigit n) = some n := by
  revert n
  decide

theorem hex_cons (b : UInt8) (bytes : Bytes) :
    hex (b :: bytes) = hexDigit (b.toNat / 16) :: hexDigit (b.toNat % 16) :: hex bytes :=
  rfl

theorem length_hex (bytes : Bytes) : (hex bytes).length = 2 * bytes.length := by
  induction bytes with
  | nil => rfl
  | cons b bytes ih =>
      rw [hex_cons, List.length_cons, List.length_cons, ih, List.length_cons]
      omega

theorem mem_of_mem_hex {bytes : Bytes} {digit : UInt8} (h : digit ∈ hex bytes) :
    digit ∈ upperHexDigits := by
  obtain ⟨b, -, hdigit⟩ := List.mem_flatMap.mp h
  have hb := b.toNat_lt
  rw [List.mem_cons, List.mem_singleton] at hdigit
  obtain rfl | rfl := hdigit
  · exact hex_digit_mem (by omega)
  · exact hex_digit_mem (by omega)

/-- Bytes are got back from their digits. -/
theorem unhex_hex (bytes : Bytes) : unhex? (hex bytes) = some bytes := by
  induction bytes with
  | nil => rfl
  | cons b bytes ih =>
      have hb := b.toNat_lt
      have hhigh : b.toNat / 16 < 16 := by omega
      have hlow : b.toNat % 16 < 16 := Nat.mod_lt _ (by decide)
      have hbyte : UInt8.ofNat (16 * (b.toNat / 16) + b.toNat % 16) = b := by
        rw [Nat.div_add_mod, UInt8.ofNat_toNat]
      simp only [hex_cons, unhex?, idx_of_hex_digit hhigh, idx_of_hex_digit hlow, ih, hbyte]

/-! ## What a server checks -/

/-- Whether a response to a challenge proves the password of which a server keeps something. -/
def accepts (kept challenge response : Bytes) : Bool :=
  Sha1.digest (xorBytes response (Sha1.digest (challenge.take 20 ++ kept))) == kept

/-- What is hidden by bytes is got back by means of the same bytes. -/
theorem xor_bytes_cancel {xs ys : Bytes} (h : xs.length ≤ ys.length) :
    xorBytes (xorBytes xs ys) ys = xs := by
  induction xs generalizing ys with
  | nil => rfl
  | cons x xs ih =>
      cases ys with
      | nil => cases h
      | cons y ys =>
          have hbyte : x ^^^ y ^^^ y = x := by rw [UInt8.xor_assoc, UInt8.xor_self, UInt8.xor_zero]
          simp only [xorBytes, List.zipWith_cons_cons, hbyte] at ih ⊢
          rw [ih (Nat.le_of_succ_le_succ h)]

theorem length_response (password challenge : Bytes) :
    (response password challenge).length = 20 := by
  simp [response, xorBytes]

/-- The response to a challenge proves the password. -/
theorem accepts_response (password challenge : Bytes) :
    accepts (stored password) challenge (response password challenge) = true := by
  have hhidden : xorBytes (response password challenge)
      (Sha1.digest (challenge.take 20 ++ stored password)) = Sha1.digest password :=
    xor_bytes_cancel (by simp)
  rw [accepts, hhidden]
  exact beq_self_eq_true (stored password)

/-- Data that answer a challenge as a server wants it: behind schema and user stand an asterisk and
forty digits, and the twenty bytes that these spell prove the password. -/
def PassesCheck (o : Options) (challenge data : Bytes) : Prop :=
  ∃ digits proof : Bytes,
    data = Text.utf8 o.schema ++ 0 :: (Text.utf8 o.user ++ 0 :: 42 :: digits) ∧
      digits.length = 40 ∧ (∀ digit ∈ digits, digit ∈ upperHexDigits) ∧
      unhex? digits = some proof ∧ proof.length = 20 ∧
      accepts (stored (Text.utf8 o.password)) challenge proof = true

theorem challenge_data_passes {o : Options} (hpassword : o.password ≠ "") (challenge : Bytes) :
    PassesCheck o challenge (challengeData o challenge) := by
  have hlength := length_response (Text.utf8 o.password) challenge
  refine ⟨hex (response (Text.utf8 o.password) challenge), _, ?_, ?_, fun _ => mem_of_mem_hex,
    unhex_hex _, hlength, accepts_response _ _⟩
  · have hsome : o.password.isEmpty = false := by simpa using hpassword
    simp [challengeData, identification, hsome]
  · rw [length_hex, hlength]

/-- Whoever has no password proves nothing. -/
theorem challenge_data_of_empty {o : Options} (hpassword : o.password = "") (challenge : Bytes) :
    challengeData o challenge = Text.utf8 o.schema ++ 0 :: (Text.utf8 o.user ++ [0]) := by
  simp [challengeData, identification, hpassword]

/-- Bytes of a challenge behind the twentieth, such as a zero at its end, do not matter. -/
theorem challenge_data_append (o : Options) {challenge : Bytes} (h : 20 ≤ challenge.length)
    (ending : Bytes) : challengeData o (challenge ++ ending) = challengeData o challenge := by
  have htake : (challenge ++ ending).take challengeLength = challenge.take challengeLength :=
    List.take_append_of_le_length h
  rw [challengeData, challengeData, response, response, htake]

end Authentication

/-! ## What a session answers -/

/-- Every answer in a talk directly follows a challenge, and is the answer to it. -/
def AnswersChallenges (o : Options) (talk : List Event) : Prop :=
  ∀ data, .sent (.authenticateContinue data) ∈ talk →
    ∃ before challenge after,
      talk = before ++ .received (.authenticateContinue challenge) ::
        .sent (.authenticateContinue data) :: after ∧
      data = Authentication.challengeData o challenge

variable {o : Options} {talk later : List Event}

theorem mem_sent_in {m : ClientMessage} : m ∈ sentIn talk ↔ .sent m ∈ talk := by
  constructor
  · intro h
    obtain ⟨event, hevent, hm⟩ := List.mem_filterMap.mp h
    cases event with
    | sent => exact Option.some.inj hm ▸ hevent
    | unsent | received | missed | secured | unsecured => cases hm
  · exact fun h => List.mem_filterMap.mpr ⟨_, h, rfl⟩

namespace AnswersChallenges

/-- Nothing is to be said of a talk without answers. -/
theorem of_unanswering (h : ∀ m ∈ sentIn talk, ∀ data, m ≠ .authenticateContinue data) :
    AnswersChallenges o talk :=
  fun data hdata => absurd rfl (h _ (mem_sent_in.mpr hdata) data)

theorem append (h : AnswersChallenges o talk) (hlater : AnswersChallenges o later) :
    AnswersChallenges o (talk ++ later) := by
  intro data hdata
  obtain hdata | hdata := List.mem_append.mp hdata
  · obtain ⟨before, challenge, after, rfl, hanswer⟩ := h data hdata
    exact ⟨before, challenge, after ++ later, by simp, hanswer⟩
  · obtain ⟨before, challenge, after, rfl, hanswer⟩ := hlater data hdata
    exact ⟨talk ++ before, challenge, after, by simp, hanswer⟩

end AnswersChallenges

theorem Hearing.sent_in {r : Except SessionError ServerMessage} (h : Hearing talk r) :
    sentIn talk = [] := by
  cases h <;> simp [Event.sentMessage?]

theorem Exchange.sent_in {request : ClientMessage} {r : Except SessionError ServerMessage}
    (h : Exchange request talk r) : ∀ m ∈ sentIn talk, m = request := by
  cases h with
  | unsent => exact fun m hm => absurd hm List.not_mem_nil
  | sent hhearing => simp [Event.sentMessage?, hhearing.sent_in]

/-- The reply is the last thing that is heard. -/
theorem Exchange.last_received {request : ClientMessage} {m : ServerMessage}
    (h : Exchange request talk (.ok m)) : ∃ before, talk = before ++ [.received m] := by
  cases h with
  | sent hhearing =>
      cases hhearing with
      | @reply notices => exact ⟨.sent request :: notices.map .received, rfl⟩

/-- A challenge is answered as soon as it is received. -/
theorem answers_challenges_of_answer {request : ClientMessage} {challenge : Bytes}
    {r : Except SessionError ServerMessage}
    (hchallenge : Exchange request talk (.ok (.authenticateContinue challenge)))
    (htalk : AnswersChallenges o talk) (hanswer : Exchange (answerRequest o challenge) later r) :
    AnswersChallenges o (talk ++ later) := by
  obtain ⟨before, rfl⟩ := hchallenge.last_received
  cases hanswer with
  | unsent => exact htalk.append (.of_unanswering fun m hm => absurd hm List.not_mem_nil)
  | @sent heard _ hhearing =>
      have hheard : AnswersChallenges o heard := .of_unanswering fun m hm => by
        rw [hhearing.sent_in] at hm
        cases hm
      intro data hdata
      obtain hdata | hdata := List.mem_append.mp hdata
      · obtain ⟨first, other, after, hsplit, hother⟩ := htalk data hdata
        exact ⟨first, other, after ++ .sent (answerRequest o challenge) :: heard,
          by rw [hsplit]; simp, hother⟩
      · obtain hsame | hdata := List.mem_cons.mp hdata
        · cases hsame
          exact ⟨before, challenge, heard, by simp [answerRequest], rfl⟩
        · obtain ⟨first, other, after, rfl, hother⟩ := hheard data hdata
          exact ⟨before ++ .received (.authenticateContinue challenge) ::
            .sent (answerRequest o challenge) :: first, other, after, by simp, hother⟩

theorem answers_challenges_of_authentication {method : AuthMethod} {r : Except SessionError Unit}
    (hgrammar : authenticationGrammar o method talk r) : AnswersChallenges o talk := by
  have hstart : ∀ {talk r}, Exchange (startRequest o method) talk r → AnswersChallenges o talk :=
    fun h => .of_unanswering fun m hm data => by
      rw [h.sent_in m hm]
      exact nofun
  cases hgrammar with
  | stop h => exact hstart h
  | @go first later m r h hlater =>
      cases m with
      | authenticateContinue challenge =>
          simp only [reactionGrammar] at hlater
          split at hlater
          · obtain ⟨q, hanswer, -⟩ := hlater
            exact answers_challenges_of_answer h (hstart h) hanswer
          · obtain ⟨rfl, -⟩ := hlater
            rw [List.append_nil]
            exact hstart h
      | ok | error | capabilities | authenticateOk | notice | other =>
          obtain ⟨rfl, -⟩ := hlater
          rw [List.append_nil]
          exact hstart h

theorem answers_challenges_of_capabilities {wanted : List (Capability × Bool)}
    {r : Except SessionError Unit} (hgrammar : capabilitiesGrammar wanted talk r) :
    AnswersChallenges o talk := by
  have hrequest : ∀ {name value talk r}, capabilityGrammar name value talk r →
      AnswersChallenges o talk := by
    rintro name value talk r ⟨q, h, -⟩
    refine .of_unanswering fun m hm data => ?_
    rw [h.sent_in m hm]
    exact nofun
  induction wanted generalizing talk r with
  | nil =>
      obtain ⟨rfl, -⟩ := hgrammar
      exact fun data hdata => absurd hdata List.not_mem_nil
  | cons entry wanted ih =>
      cases hgrammar with
      | stop h => exact hrequest h
      | go h hlater => exact (hrequest h).append (ih hlater)

/-- A session that connects answers the challenges that it receives, and no others. -/
theorem answers_challenges_of_establish {authenticated : Bool} {s : NetworkSession}
    {r : Except SessionError Unit} (hgrammar : establishGrammar o authenticated s talk r) :
    AnswersChallenges o talk := by
  cases htls : s.tls with
  | error e =>
      simp only [establishGrammar, htls] at hgrammar
      obtain ⟨rfl, -⟩ := hgrammar
      exact fun data hdata => absurd hdata List.not_mem_nil
  | ok policy =>
      simp only [establishGrammar, htls] at hgrammar
      have hnegotiation : ∀ {talk r}, negotiationGrammar policy talk r →
          AnswersChallenges o talk := fun h => .of_unanswering fun m hm data => by
        rw [sent_in_negotiation h m hm]
        intro hsame
        cases hsame
      cases hgrammar with
      | stop h => exact hnegotiation h
      | go h hproceeding =>
          refine (hnegotiation h).append ?_
          cases hproceeding with
          | stop hcapabilities => exact answers_challenges_of_capabilities hcapabilities
          | go hcapabilities hlater =>
              refine (answers_challenges_of_capabilities hcapabilities).append ?_
              split at hlater
              · exact answers_challenges_of_authentication hlater
              · obtain ⟨rfl, -⟩ := hlater
                exact fun data hdata => absurd hdata List.not_mem_nil

/-- A message is sent on an open connection only. -/
theorem NetworkSession.open_of_send {s t : NetworkSession} {m : ClientMessage}
    (h : NetworkSession.send m s = .ok () t) : s.connection.isOpen = true := by
  cases hcurrent : s.connection.current with
  | some x => rw [Connection.isOpen, hcurrent, Option.isSome_some]
  | none =>
      simp only [NetworkSession.send, Connection.write, Connection.onTransport, hcurrent] at h
      cases h

/-- What a session does about a challenge when it connects over a transport: the challenge is taken
from the next frame that the server sent, and the data that answer it are written next, in a frame
from which they can be read. -/
structure Answered (o : Options) (s : NetworkSession) (talk : List Event) (y : Transport)
    (challenge data : Bytes) : Prop where
  answer : data = Authentication.challengeData o challenge
  challenged : ∃ before after u frame rest,
    talk = before ++ .received (.authenticateContinue challenge) ::
      .sent (.authenticateContinue data) :: after ∧
    Dialogue s before u ∧ u.connection.unread = Frame.encode frame ++ rest ∧
    ServerMessage.ofFrame frame = .ok (.authenticateContinue challenge)
  written : ∃ (frame : Frame) (front back : List Written),
    (y.written = front ++ .clear frame.encode :: back ∨
      y.written = front ++ .encrypted frame.encode :: back) ∧
    (frame.payload.length < UInt64.size →
      RequestContent.ofFrame? frame = some (.authenticateContinue ⟨data⟩))

/-- Every answer in the talk of a connect is the answer to a challenge. -/
theorem Spoken.answered {authenticated : Bool} {s : NetworkSession} {h : Host} {x y : Transport}
    {data : Bytes} (hspoken : Spoken o authenticated s h x talk y)
    (hdata : .sent (.authenticateContinue data) ∈ talk) :
    ∃ challenge, Answered o (s.carriedBy x) talk y challenge data := by
  obtain ⟨before, challenge, after, hsplit, hanswer⟩ :=
    answers_challenges_of_establish hspoken.grammar data hdata
  refine ⟨challenge, hanswer, ?_, ?_⟩
  · have htalk := hspoken.dialogue
    rw [hsplit] at htalk
    obtain ⟨u, hbefore, hlater⟩ := htalk.split
    cases hlater with
    | cons hfirst _ =>
        cases hfirst with
        | received hreceive =>
            have hdelivers := NetworkSession.delivers_of_receive hreceive
            generalize hunread : u.connection.unread = unread at hdelivers
            cases hdelivers with
            | cons hsize hmessage hrest =>
                exact ⟨before, after, u, _, _, hsplit, hbefore, hunread, hmessage⟩
  · have hparts : talk = (before ++ [.received (.authenticateContinue challenge)]) ++
        .sent (.authenticateContinue data) :: after := by
      rw [hsplit, List.append_assoc]
      rfl
    have htalk := hspoken.dialogue
    rw [hparts] at htalk
    obtain ⟨u, hbefore, hlater⟩ := htalk.split
    have hopen : u.connection.isOpen = true := by
      cases hlater with
      | cons hfirst _ =>
          cases hfirst with
          | sent hsend => exact NetworkSession.open_of_send hsend
    have hwritten := hspoken.written
    rw [hparts, writtenIn, parts_in_append_of_open (hbefore.leaves_open hopen)] at hwritten
    -- Whether the frame is encrypted was settled before the answer.
    generalize (false || List.any _ Event.encrypts) = encrypted at hwritten
    cases encrypted with
    | false =>
        exact ⟨(ClientMessage.authenticateContinue data).frame, _, _, .inl hwritten,
          ClientMessage.of_frame_frame⟩
    | true =>
        exact ⟨(ClientMessage.authenticateContinue data).frame, _, _, .inr hwritten,
          ClientMessage.of_frame_frame⟩

/-- The data that answer a challenge pass the check of a server that keeps the digest of the
password's digest, and end behind the user if there is no password. Only the first twenty bytes of a
challenge count. These are the data that a session sends when it connects: each answer follows the
challenge to which it is the answer, and which is taken from what the server sent. -/
theorem challenges_answered (o : Options) :
    (o.password ≠ "" → ∀ challenge,
      Authentication.PassesCheck o challenge (Authentication.challengeData o challenge)) ∧
    (o.password = "" → ∀ challenge,
      Authentication.challengeData o challenge =
        Text.utf8 o.schema ++ 0 :: (Text.utf8 o.user ++ [0])) ∧
    (∀ challenge ending : Bytes, 20 ≤ challenge.length →
      Authentication.challengeData o (challenge ++ ending) =
        Authentication.challengeData o challenge) ∧
    ∀ (authenticated : Bool) (s : NetworkSession) (h g : Host) (x : Transport),
      Host.openTransport o s.ipMode h = .ok x g →
        ∃ talk y, Spoken o authenticated s h x talk y ∧
          ∀ data, .sent (.authenticateContinue data) ∈ talk →
            ∃ challenge, Answered o (s.carriedBy x) talk y challenge data := by
  refine ⟨fun hpassword => Authentication.challenge_data_passes hpassword,
    fun hpassword => Authentication.challenge_data_of_empty hpassword,
    fun challenge ending hlong => Authentication.challenge_data_append o hlong ending, ?_⟩
  intro authenticated s h g x hopen
  obtain ⟨talk, y, hspoken⟩ := connect_spoken o authenticated hopen
  exact ⟨talk, y, hspoken, fun data => hspoken.answered⟩

/-- A challenge of twenty bytes. -/
def twentyBytes : Bytes :=
  [1, 2, 3, 4, 5, 6, 7, 8, 9, 10, 11, 12, 13, 14, 15, 16, 17, 18, 19, 20]

/-- A host with a server that ends the challenge with a zero, and admits whoever answers. -/
def challengingHost : Host :=
  (Host.new .empty .empty).listenAt "s"
    [.plain (Frame.encode ⟨3, 10 :: 21 :: (twentyBytes ++ [0])⟩ ++ Frame.encode ⟨4, []⟩) false]

/-- A client with a password proves it, and one without a password proves nothing. The answer is
written when a session is challenged. -/
theorem challenges_answered_with_secret :
    let o : Options := { socket := "s", schema := "test", user := "root", password := "secret" }
    let data : Bytes := Text.utf8 "test" ++ 0 :: (Text.utf8 "root" ++
      0 :: Text.utf8 "*B32BB3A583E1340C0A1108D58B1BE49781AD8C2F")
    (o.password ≠ "" ∧ Authentication.PassesCheck o twentyBytes data) ∧
      (({} : Options).password = "" ∧ Authentication.challengeData {} twentyBytes = [0, 0]) ∧
      (20 ≤ twentyBytes.length ∧ Authentication.challengeData o (twentyBytes ++ [0]) = data) ∧
      (NetworkSession.connect o true
          (NetworkSession.new, challengingHost)).state.1.connection.current.map Transport.written =
        some [.clear (startRequest o .mysql41).frame.encode,
          .clear (ClientMessage.authenticateContinue data).frame.encode] ∧
      ∃ x talk y, Spoken o true NetworkSession.new challengingHost x talk y ∧
        ∀ data, .sent (.authenticateContinue data) ∈ talk →
          ∃ challenge, Answered o (NetworkSession.new.carriedBy x) talk y challenge data := by
  intro o data
  have hpassword : o.password ≠ "" := by decide
  have hlong : 20 ≤ twentyBytes.length := by decide
  have hdata : Authentication.challengeData o twentyBytes = data := by decide +kernel
  have hopens : (Host.openTransport o NetworkSession.new.ipMode challengingHost).outcome.isOk =
      true := by decide +kernel
  obtain ⟨hpasses, -, happend, hspoken⟩ := challenges_answered o
  refine ⟨⟨hpassword, hdata ▸ hpasses hpassword twentyBytes⟩,
    ⟨rfl, (challenges_answered {}).2.1 rfl twentyBytes⟩,
    ⟨hlong, (happend _ _ hlong).trans hdata⟩, by decide +kernel, ?_⟩
  cases hopen : Host.openTransport o NetworkSession.new.ipMode challengingHost with
  | error e g =>
      rw [hopen] at hopens
      cases hopens
  | ok x g => exact ⟨x, hspoken true NetworkSession.new challengingHost g x hopen⟩

end SessionKeeper
