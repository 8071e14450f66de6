import SessionKeeper.Proofs.Network.Fallback

/-!
# Why a connect fails

A connect over an open transport fails for one of three reasons: its TLS options are wrong, the
server reported an error, or the client itself found something wrong. `cause_of_establish` says so of
every talk that fails. The codes of the client's own findings are few, but those of the server are
its own choice, so a code alone does not tell where an error came from.
-/

namespace SessionKeeper

open NetworkSession

/-- The codes of the errors in which calls over an open transport fail, and of replies that do not
fit. -/
def noticedCodes : List UInt32 :=
  [Code.serverGone, Code.readTimeout, Code.malformedPacket, Code.tlsFailed]

/-- The codes of the errors in which no transport is opened. -/
def unopenedCodes : List UInt32 :=
  [Code.connectionError, Code.hostError, Code.unknownHost]

/-- Why a talk in which a session was to connect fails with an error. -/
inductive Cause (s : NetworkSession) (talk : List Event) (e : SessionError) : Prop where
  /-- The TLS options are wrong, and nothing happens. -/
  | misconfigured (htls : s.tls = .error e) (htalk : talk = [])
  /-- The last message is an error of the server, and the transport stays as it is. -/
  | reported (severity : Severity) (state : String)
      (hlast : (receivedIn talk).getLast? = some (.error severity e.code state e.message))
      (hopen : ∀ event ∈ talk, event.leavesOpen = true)
  /-- The client found something wrong. -/
  | noticed (hcode : e.code ∈ noticedCodes)

variable {o : Options} {authenticated : Bool} {s t : NetworkSession} {h g : Host}
  {talk before : List Event} {e : SessionError}

/-! ## Single calls -/

theorem SessionError.of_transport_code (failure : TransportFailure) :
    (ofTransport failure).code ∈ noticedCodes := by
  obtain htimeout | hgone := of_transport_cases failure
  · rw [htimeout]
    decide
  · rw [hgone]
    decide

/-- A session cannot be encrypted if the server is gone or the handshake fails. -/
theorem NetworkSession.encrypt_error_code {config : TlsConfig}
    (h : encrypt config s = .error e t) : e.code ∈ noticedCodes := by
  cases hcurrent : s.connection.current with
  | none =>
      simp only [encrypt, Connection.encrypt, hcurrent] at h
      cases h
      decide
  | some x =>
      rw [encrypt_of_open config hcurrent] at h
      split at h
      · cases h
      · split at h
        · cases h
        · cases h
          exact (by decide : Code.tlsFailed ∈ noticedCodes)

/-- A call fails with an error of the client. -/
theorem Happens.cause_code {event : Event} (h : Happens s event t)
    (hcause : event.cause? = some e) : e.code ∈ noticedCodes := by
  cases h with
  | sent | received | secured => cases hcause
  | unsent hsend =>
      cases hcause
      obtain ⟨failure, rfl⟩ := send_error hsend
      exact SessionError.of_transport_code failure
  | missed hreceive =>
      cases hcause
      obtain ⟨failure, rfl⟩ | hcode := receive_error_cases hreceive
      · exact SessionError.of_transport_code failure
      · rw [hcode]
        decide
  | unsecured hencrypt =>
      cases hcause
      exact encrypt_error_code hencrypt

/-- So does every call in a dialogue that fails. -/
theorem Dialogue.cause_code {event : Event} (h : Dialogue s talk t) (hmem : event ∈ talk)
    (hcause : event.cause? = some e) : e.code ∈ noticedCodes := by
  obtain ⟨u, v, hhappens⟩ := h.happens_of_mem hmem
  exact hhappens.cause_code hcause

/-! ## Talks that fail -/

theorem Turn.leavesOpen_of_mem {turn : Turn} {event : Event} (h : event ∈ turn.events) :
    event.leavesOpen = true :=
  Event.leavesOpen_of_isPlain (Event.isPlain_of_isMessage (turn.events_are_messages h))

theorem Conclusion.leavesOpen_of_mem {conclusion : Conclusion} {event : Event}
    (h : event ∈ conclusion.events) : event.leavesOpen = true :=
  Event.leavesOpen_of_isPlain (events_plain h)

/-- A conclusion has its cause in the reply that it ends with, or in the call that failed. -/
theorem Conclusion.cause {conclusion : Conclusion} (houtcome : conclusion.outcome = .error e)
    (htalk : Dialogue s (before ++ conclusion.events) t)
    (hbefore : ∀ event ∈ before, event.leavesOpen = true) :
    Cause s (before ++ conclusion.events) e := by
  cases conclusion with
  | complete => cases houtcome
  | refused turn =>
      have hlast : (receivedIn (before ++ turn.events)).getLast? = some turn.reply := by
        rw [received_in_append, Turn.received_in_events, ← List.append_assoc,
          List.getLast?_concat]
      have hopen : ∀ event ∈ before ++ turn.events, event.leavesOpen = true := fun event hmem =>
        (List.mem_append.mp hmem).elim (hbefore event) Turn.leavesOpen_of_mem
      have hrefusal : refusal turn.reply = e := Except.error.inj houtcome
      cases hreply : turn.reply with
      | error severity code state text =>
          rw [hreply] at hrefusal hlast
          subst hrefusal
          exact .reported severity state hlast hopen
      | ok | capabilities | authenticateContinue | authenticateOk | notice | other =>
          rw [hreply] at hrefusal
          subst hrefusal
          exact .noticed (by decide : Code.malformedPacket ∈ noticedCodes)
  | unsent request cause =>
      cases houtcome
      have hmem : Event.unsent request e ∈ before ++ events (.unsent request e) := by simp [events]
      exact .noticed (htalk.cause_code hmem rfl)
  | unanswered request notices hnotices cause =>
      cases houtcome
      have hmem : Event.missed e ∈ before ++ events (.unanswered request notices hnotices e) := by
        simp [events]
      exact .noticed (htalk.cause_code hmem rfl)

/-- While it is settled whether the connection is encrypted, only a failure closes the transport. -/
theorem leavesOpen_of_negotiation {policy : TlsPolicy}
    (hgrammar : negotiationGrammar policy talk (.ok ())) :
    ∀ event ∈ talk, event.leavesOpen = true := by
  have hgranted : ∀ {config asked later},
      capabilityGrammar tlsCapability true asked (.ok ()) → Encryption config later (.ok ()) →
        ∀ event ∈ asked ++ later, event.leavesOpen = true := by
    intro config asked later hask hlater event hmem
    cases hlater
    obtain ⟨turn, -, -, -, rfl, -⟩ | ⟨_, _, _, hr, _⟩ := tls_request_cases hask
    · obtain hmem | hmem := List.mem_append.mp hmem
      · exact Turn.leavesOpen_of_mem hmem
      · obtain rfl := List.mem_singleton.mp hmem
        rfl
    · cases hr
  cases policy with
  | disabled =>
      obtain ⟨rfl, -⟩ := hgrammar
      exact fun _ hmem => absurd hmem List.not_mem_nil
  | preferred config =>
      cases hgrammar with
      | granted hask hlater => exact hgranted hask hlater
      | declined hask =>
          obtain ⟨_, _, _, _, _, hr⟩ | ⟨conclusion, _, rfl, -, -⟩ := tls_request_cases hask
          · cases hr
          · exact fun _ hmem => Conclusion.leavesOpen_of_mem hmem
  | required config =>
      cases hgrammar with
      | go hask hlater => exact hgranted hask hlater

/-- A connection that could not be encrypted, for a cause. -/
theorem cause_of_negotiation {policy : TlsPolicy}
    (hgrammar : negotiationGrammar policy talk (.error e)) (htalk : Dialogue s talk t) :
    Cause s talk e := by
  have hdenied : ∀ {asked}, capabilityGrammar tlsCapability true asked (.error e) →
      Dialogue s asked t → Cause s asked e := by
    intro asked hask htalk
    obtain ⟨_, _, _, _, _, hr⟩ | ⟨conclusion, _, rfl, hr, hdenies⟩ := tls_request_cases hask
    · cases hr
    · cases hr
      rw [← List.nil_append conclusion.events] at htalk ⊢
      exact Conclusion.cause hdenies.outcome htalk nofun
  have hfailed : ∀ {config asked later}, Encryption config later (.error e) →
      Dialogue s (asked ++ later) t → Cause s (asked ++ later) e := by
    intro config asked later hlater htalk
    cases hlater
    have hmem : Event.unsecured config e ∈ asked ++ [.unsecured config e] := by simp
    exact .noticed (htalk.cause_code hmem rfl)
  cases policy with
  | disabled => cases hgrammar.2
  | preferred config =>
      cases hgrammar with
      | granted hask hlater => exact hfailed hlater htalk
      | lost hask hgone => exact hdenied hask htalk
  | required config =>
      cases hgrammar with
      | stop hask => exact hdenied hask htalk
      | go hask hlater => exact hfailed hlater htalk

/-- Every talk in which a connect fails has one of the three causes. -/
theorem cause_of_establish (hgrammar : establishGrammar o authenticated s talk (.error e))
    (htalk : Dialogue s talk t) : Cause s talk e := by
  cases htls : s.tls with
  | error fault =>
      simp only [establishGrammar, htls] at hgrammar
      obtain ⟨rfl, hsame⟩ := hgrammar
      cases hsame
      exact .misconfigured htls rfl
  | ok policy =>
      simp only [establishGrammar, htls] at hgrammar
      generalize houtcome : (Except.error e : Except SessionError Unit) = r at hgrammar
      cases hgrammar with
      | stop hnegotiation =>
          cases houtcome
          exact cause_of_negotiation hnegotiation htalk
      | go hnegotiation hproceeding =>
          obtain ⟨c, rfl, rfl, -⟩ := conversation_of_proceeding hproceeding
          have hturns : ∀ event ∈ c.turns.flatMap Turn.events, event.leavesOpen = true := by
            intro event hmem
            obtain ⟨turn, -, hmem⟩ := List.mem_flatMap.mp hmem
            exact Turn.leavesOpen_of_mem hmem
          rw [Conversation.events, ← List.append_assoc] at htalk ⊢
          exact Conclusion.cause houtcome.symm htalk fun event hmem =>
            (List.mem_append.mp hmem).elim (leavesOpen_of_negotiation hnegotiation event)
              (hturns event)

/-! ## Connects that fail -/

/-- A transport that cannot be opened is an error of its own. -/
theorem Host.open_transport_error_code {mode : IpMode}
    (hopen : openTransport o mode h = .error e g) : e.code ∈ unopenedCodes := by
  simp only [openTransport] at hopen
  split at hopen
  · simp only [connectPort] at hopen
    split at hopen
    · next hresolve =>
        cases hopen
        simp only [resolve] at hresolve
        split at hresolve
        · cases hresolve
          exact (by decide : Code.unknownHost ∈ unopenedCodes)
        · split at hresolve <;> cases hresolve
          exact (by decide : Code.unknownHost ∈ unopenedCodes)
    · split at hopen
      · cases hopen
      · cases hopen
        exact (by decide : Code.hostError ∈ unopenedCodes)
  · simp only [connectSocket] at hopen
    split at hopen
    · cases hopen
      exact (by decide : Code.connectionError ∈ unopenedCodes)
    · split at hopen
      · cases hopen
        exact (by decide : Code.connectionError ∈ unopenedCodes)
      · cases hopen

/-- A connect that fails with the code of wrong TLS options has opened a transport, which is still
open. The options are wrong then, and nothing was said, or the code is the one of an error that the
server sent. -/
theorem connect_failed_as_misconfigured
    (hfail : (connect o authenticated (s, h)).outcome = .error e)
    (hcode : e.code = Code.tlsMisconfigured) :
    ∃ x g talk, Host.openTransport o s.ipMode h = .ok x g ∧
      Dialogue (s.carriedBy x) talk (connect o authenticated (s, h)).state.1 ∧
      (connect o authenticated (s, h)).state.1.connection.isOpen = true ∧
      (s.tls = .error e ∧ talk = [] ∨
        (∃ policy, s.tls = .ok policy) ∧ ∃ severity state, (receivedIn talk).getLast? =
          some (.error severity Code.tlsMisconfigured state e.message)) := by
  cases hopen : Host.openTransport o s.ipMode h with
  | error cause g =>
      have hunopened := Host.open_transport_error_code hopen
      rw [connect_of_unopened hopen] at hfail
      cases hfail
      rw [hcode] at hunopened
      exact absurd hunopened (by decide)
  | ok x g =>
      obtain ⟨talk, hgrammar, htalk⟩ := (establish_follows o authenticated (s.carriedBy x)).spoken
      obtain ⟨houtcome, hstate⟩ := connect_of_opened hopen
      rw [← houtcome, hfail] at hgrammar
      have hstays : (∀ event ∈ talk, event.leavesOpen = true) →
          (connect o authenticated (s, h)).state.1.connection.isOpen = true := by
        intro hleaves
        obtain ⟨y, hleft⟩ := htalk.on_transport (x := x) rfl
        rw [hstate, (hleft.stays hleaves).1]
        rfl
      have hdialogue : Dialogue (s.carriedBy x) talk (connect o authenticated (s, h)).state.1 := by
        rw [hstate]
        exact htalk
      refine ⟨x, g, talk, rfl, hdialogue, ?_⟩
      cases cause_of_establish hgrammar htalk with
      | misconfigured htls htalk =>
          subst htalk
          exact ⟨hstays nofun, .inl ⟨htls, rfl⟩⟩
      | reported severity state hlast hleaves =>
          have hpolicy : ∃ policy, s.tls = .ok policy := by
            cases htls : s.tls with
            | ok policy => exact ⟨policy, rfl⟩
            | error fault =>
                -- With wrong options nothing is received.
                simp only [establishGrammar, carriedBy, htls] at hgrammar
                obtain ⟨rfl, -⟩ := hgrammar
                cases hlast
          rw [hcode] at hlast
          exact ⟨hstays hleaves, .inr ⟨hpolicy, severity, state, hlast⟩⟩
      | noticed hnoticed =>
          rw [hcode] at hnoticed
          exact absurd hnoticed (by decide)

end SessionKeeper
