import SessionKeeper.Proofs.Network.Conversation
import SessionKeeper.Proofs.Network.Opening

/-!
# Connecting where encryption is preferred

A session that prefers encryption requests it first. `preferred_connect_cases` lists what comes of
that: the request is granted and the connection encrypted, or the server is gone and the connect
ends, or the session goes on in the clear. It goes on after every failure that does not mean that
the server is gone, whether or not the server refused the request.
-/

namespace SessionKeeper

open NetworkSession

/-- The request for encryption fails with an error. -/
structure Conclusion.Denies (conclusion : Conclusion) (e : SessionError) : Prop where
  requests : conclusion.requests = [tlsRequest]
  outcome : conclusion.outcome = .error e
  /-- A reply is not held against the server if it grants the request. -/
  refused : ∀ turn, conclusion = .refused turn → ∀ text, turn.reply ≠ .ok text

variable {o : Options} {authenticated : Bool} {config : TlsConfig} {s t : NetworkSession}
  {talk : List Event} {e : SessionError}

/-- A request for encryption is a turn in which it is granted, or it is denied. -/
theorem tls_request_cases {r : Except SessionError Unit}
    (h : capabilityGrammar tlsCapability true talk r) :
    (∃ (turn : Turn) (text : String), turn.request = tlsRequest ∧ turn.reply = .ok text ∧
        talk = turn.events ∧ r = .ok ()) ∨
      ∃ (conclusion : Conclusion) (e : SessionError), talk = conclusion.events ∧ r = .error e ∧
        conclusion.Denies e := by
  obtain ⟨turn, hrequest, rfl, hwell, rfl⟩ |
      ⟨conclusion, rfl, houtcome, hrequests, ⟨e, rfl⟩, hnot⟩ :=
    Exchange.judged_turn capability_verdict_refuses h
  · obtain ⟨text, hreply⟩ := capability_verdict_eq_ok_iff.mp hwell
    exact .inl ⟨turn, text, hrequest, hreply, rfl, rfl⟩
  · exact .inr ⟨conclusion, e, rfl, rfl, hrequests, houtcome.symm, fun turn hturn text hreply =>
      hnot turn hturn (capability_verdict_eq_ok_iff.mpr ⟨text, hreply⟩)⟩

/-- The reply to the request for encryption is not the one that grants it, or none came, for a call
took too long or what came is no message. -/
inductive Passed (conclusion : Conclusion) (e : SessionError) : Prop where
  | reply (turn : Turn) (hturn : conclusion = .refused turn) (hcode : refusal turn.reply = e)
  | silence (hcode : e = .timedOut)
  | malformed (hcode : e.code = Code.malformedPacket)

/-- A failure of the transport is that nothing came in time, or it means that the server is gone. -/
theorem SessionError.of_transport_cases (failure : TransportFailure) :
    ofTransport failure = timedOut ∨ (ofTransport failure).code = Code.serverGone := by
  cases failure with
  | timeout => exact .inl rfl
  | disconnected | other => exact .inr rfl

/-- If a request was denied though the server is there, it was replied to or waited for. -/
theorem Conclusion.Denies.passed {conclusion : Conclusion} (h : conclusion.Denies e)
    (htalk : Dialogue s conclusion.events t) (hthere : e.code ≠ Code.serverGone) :
    Passed conclusion e := by
  obtain ⟨-, houtcome, -⟩ := h
  cases conclusion with
  | complete => cases houtcome
  | refused turn => exact .reply turn rfl (Except.error.inj houtcome)
  | unsent request cause =>
      cases houtcome
      cases htalk.happens with
      | unsent hsend =>
          obtain ⟨failure, rfl⟩ := NetworkSession.send_error hsend
          exact .silence ((SessionError.of_transport_cases failure).resolve_right hthere)
  | unanswered request notices hnotices cause =>
      cases houtcome
      have hmem : Event.missed e ∈ events (.unanswered request notices hnotices e) := by
        simp [events]
      obtain ⟨u, v, hmissed⟩ := htalk.happens_of_mem hmem
      cases hmissed with
      | missed hreceive =>
          obtain ⟨failure, rfl⟩ | hcode := NetworkSession.receive_error_cases hreceive
          · exact .silence ((SessionError.of_transport_cases failure).resolve_right hthere)
          · exact .malformed hcode

/-- What comes of connecting with a policy that prefers encryption. -/
inductive PreferredConnect (o : Options) (authenticated : Bool) (config : TlsConfig)
    (s : NetworkSession) (result : EStateM.Result SessionError NetworkSession Unit) : Prop where
  /-- The request is granted, and all that follows comes after the handshake. -/
  | encrypted (turn : Turn) (text : String) (c : Conversation)
      (hrequest : turn.request = tlsRequest) (hreply : turn.reply = .ok text)
      (htalk : Dialogue s (turn.events ++ .secured config :: c.events) result.state)
      (houtcome : result.outcome = c.conclusion.outcome)
      (hfits : c.Fits o authenticated s.authMethod s.capabilities)
  /-- The request is granted, but the handshake fails. -/
  | unencrypted (turn : Turn) (text : String) (e : SessionError)
      (hrequest : turn.request = tlsRequest) (hreply : turn.reply = .ok text)
      (htalk : Dialogue s (turn.events ++ [.unsecured config e]) result.state)
      (houtcome : result.outcome = .error e)
  /-- The server is gone, and that is the end. -/
  | lost (conclusion : Conclusion) (e : SessionError) (hdenies : conclusion.Denies e)
      (hgone : e.code = Code.serverGone)
      (htalk : Dialogue s conclusion.events result.state)
      (houtcome : result.outcome = .error e)
  /-- The request is passed over, and the session goes on in the clear. -/
  | declined (conclusion : Conclusion) (e : SessionError) (c : Conversation)
      (hdenies : conclusion.Denies e) (hthere : e.code ≠ Code.serverGone)
      (hpassed : Passed conclusion e)
      (htalk : Dialogue s (conclusion.events ++ c.events) result.state)
      (houtcome : result.outcome = c.conclusion.outcome)
      (hfits : c.Fits o authenticated s.authMethod s.capabilities)

/-- Over a transport, a session that prefers encryption goes on in the clear exactly if the request
for it fails and the failure does not tell that the server is gone. -/
theorem establish_cases_of_preferred (o : Options) (authenticated : Bool)
    (hpreferred : s.tls = .ok (.preferred config)) :
    PreferredConnect o authenticated config s (establish o authenticated s) := by
  obtain ⟨talk, hgrammar, htalk⟩ := (establish_follows o authenticated s).spoken
  simp only [establishGrammar, hpreferred, negotiationGrammar] at hgrammar
  generalize houtcome : (establish o authenticated s).outcome = r at hgrammar
  cases hgrammar with
  | stop hnegotiation =>
      cases hnegotiation with
      | granted hask hsecuring =>
          obtain ⟨turn, text, hrequest, hreply, rfl, -⟩ | ⟨_, _, _, hr, _⟩ := tls_request_cases hask
          · cases hsecuring
            exact .unencrypted turn text _ hrequest hreply htalk houtcome
          · cases hr
      | lost hask hgone =>
          obtain ⟨_, _, _, _, _, hr⟩ | ⟨conclusion, e, rfl, hr, hdenies⟩ := tls_request_cases hask
          · cases hr
          · cases hr
            exact .lost conclusion _ hdenies hgone htalk houtcome
  | go hnegotiation hproceeding =>
      obtain ⟨c, rfl, rfl, hfits⟩ := conversation_of_proceeding hproceeding
      cases hnegotiation with
      | granted hask hsecuring =>
          obtain ⟨turn, text, hrequest, hreply, rfl, -⟩ | ⟨_, _, _, hr, _⟩ := tls_request_cases hask
          · cases hsecuring
            rw [List.append_assoc] at htalk
            exact .encrypted turn text c hrequest hreply htalk houtcome hfits
          · cases hr
      | declined hask hthere =>
          obtain ⟨_, _, _, _, _, hr⟩ | ⟨conclusion, e, rfl, hr, hdenies⟩ := tls_request_cases hask
          · cases hr
          · cases hr
            obtain ⟨u, hfirst, -⟩ := htalk.split
            -- The call that failed is part of this talk, so its error is one that a call can have.
            exact .declined conclusion _ c hdenies hthere (hdenies.passed hfirst hthere) htalk
              houtcome hfits

/-- A connect that prefers encryption goes on in the clear exactly if the request for it fails and
the failure does not tell that the server is gone; otherwise it is encrypted or ends. -/
theorem preferred_connect_cases (o : Options) (authenticated : Bool) (s : NetworkSession)
    (config : TlsConfig) (hpreferred : s.tls = .ok (.preferred config)) (h : Host) :
    match Host.openTransport o s.ipMode h with
    | .error e _ => connect o authenticated (s, h) = .error e (s.stranded, h)
    | .ok x g =>
        x.Fresh h ∧
          (connect o authenticated (s, h)).outcome =
            (establish o authenticated (s.carriedBy x)).outcome ∧
          (connect o authenticated (s, h)).state =
            ((establish o authenticated (s.carriedBy x)).state, g) ∧
          PreferredConnect o authenticated config (s.carriedBy x)
            (establish o authenticated (s.carriedBy x)) := by
  cases hopen : Host.openTransport o s.ipMode h with
  | error e g => exact connect_of_unopened hopen
  | ok x g =>
      obtain ⟨houtcome, hstate⟩ := connect_of_opened hopen
      exact ⟨(Host.open_transport_fresh hopen).1, houtcome, hstate,
        establish_cases_of_preferred o authenticated hpreferred⟩

/-- A session that prefers encryption and authenticates by the password itself. -/
def preferringSession : NetworkSession :=
  { NetworkSession.new with
    tls := .ok (.preferred ⟨[], [], .skipped, [], none⟩)
    authMethod := .plain }

/-- A host with a server that sends the message of a statement, and then admits the client. -/
def strayHost : Host :=
  (Host.new .empty .empty).listenAt "s"
    [.plain (Frame.encode ⟨17, []⟩ ++ Frame.encode ⟨4, []⟩) false]

/-- That server does not refuse the request, and it is passed over. -/
theorem preferred_connect_cases_of_stray :
    let o : Options := { socket := "s", password := "secret" }
    preferringSession.tls = .ok (.preferred ⟨[], [], .skipped, [], none⟩) ∧
      ∃ x, (connect o true (preferringSession, strayHost)).outcome =
          (establish o true (preferringSession.carriedBy x)).outcome ∧
        PreferredConnect o true ⟨[], [], .skipped, [], none⟩ (preferringSession.carriedBy x)
          (establish o true (preferringSession.carriedBy x)) := by
  intro o
  have hcases := preferred_connect_cases o true preferringSession _ rfl strayHost
  have hopens : (Host.openTransport o preferringSession.ipMode strayHost).outcome.isOk = true := by
    decide +kernel
  cases hopen : Host.openTransport o preferringSession.ipMode strayHost with
  | error e g =>
      rw [hopen] at hopens
      cases hopens
  | ok x g =>
      rw [hopen] at hcases
      exact ⟨rfl, x, hcases.2.1, hcases.2.2.2⟩

/-- The request for encryption may be passed over though it was not refused: the server sent no
error, and the password follows in the clear. -/
theorem preferred_connect_not_refused :
    let o : Options := { socket := "s", password := "secret" }
    let result := connect o true (preferringSession, strayHost)
    result.outcome = .ok () ∧
      result.state.1.connection.current.map Transport.written =
        some [.clear tlsRequest.frame.encode, .clear (startRequest o .plain).frame.encode] ∧
      ServerMessage.ofFrame ⟨17, []⟩ = .ok (.other 17 []) := by
  refine ⟨?_, ?_, rfl⟩
  · with_unfolding_all rfl
  · with_unfolding_all rfl

end SessionKeeper
