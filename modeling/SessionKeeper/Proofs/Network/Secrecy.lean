import SessionKeeper.Proofs.Message.Recovery
import SessionKeeper.Proofs.Network.Connecting

/-!
# What is written where encryption is required

If the policy requires encryption, only the request for it is written in the clear, and a connect
that succeeds leaves an encrypted connection; if the TLS options are wrong, nothing is written at
all. `clear_of_required`, `encrypted_of_required` and `connect_of_misconfigured` say so for every
server.
-/

namespace SessionKeeper

open NetworkSession

variable {o : Options} {authenticated : Bool} {config : TlsConfig} {s : NetworkSession}
  {h : Host} {talk : List Event} {r : Except SessionError Unit} {bytes : Bytes}

theorem accepted_tls_request : tlsRequest.Accepted := by
  unfold ClientMessage.Accepted
  decide +kernel

/-- In the talk that requests encryption nothing is encrypted. -/
theorem plain_of_tls_request (hask : capabilityGrammar tlsCapability true talk r) :
    ∀ event ∈ talk, event.isPlain = true := by
  obtain ⟨turn, -, -, -, rfl, -⟩ | ⟨conclusion, e, rfl, -, -⟩ := tls_request_cases hask
  · exact fun event hmem => Event.isPlain_of_isMessage (turn.events_are_messages hmem)
  · exact fun event hmem => Conclusion.events_plain hmem

/-- Where only the request for encryption is to be sent, nothing else stands in the clear. -/
theorem clear_of_tried {encrypted : Bool} (htried : triedIn talk = [tlsRequest])
    (hmem : .clear bytes ∈ writtenIn encrypted talk ++ brokenIn encrypted talk) :
    bytes = tlsRequest.frame.encode := by
  obtain ⟨m, hm, rfl⟩ := exists_tried_of_clear hmem
  rw [htried] at hm
  rw [List.mem_singleton.mp hm]

/-- The talks of a session that requires encryption: only the request for it comes before the
handshake, and all else comes after it. -/
theorem establish_grammar_of_required (hrequired : s.tls = .ok (.required config))
    (hgrammar : establishGrammar o authenticated s talk r) :
    (capabilityGrammar tlsCapability true talk r ∧ ∃ e, r = .error e) ∨
      ∃ asked, capabilityGrammar tlsCapability true asked (.ok ()) ∧
        ((∃ e, talk = asked ++ [.unsecured config e] ∧ r = .error e) ∨
          ∃ c : Conversation, talk = asked ++ .secured config :: c.events ∧
            r = c.conclusion.outcome) := by
  simp only [establishGrammar, hrequired, negotiationGrammar] at hgrammar
  cases hgrammar with
  | @stop _ e hsecuring =>
      cases hsecuring with
      | stop hask => exact .inl ⟨hask, e, rfl⟩
      | go hask hencryption =>
          cases hencryption
          exact .inr ⟨_, hask, .inl ⟨_, rfl, rfl⟩⟩
  | go hsecuring hproceeding =>
      obtain ⟨c, rfl, rfl, -⟩ := conversation_of_proceeding hproceeding
      cases hsecuring with
      | go hask hencryption =>
          cases hencryption
          exact .inr ⟨_, hask, .inr ⟨c, by rw [List.append_assoc]; rfl, rfl⟩⟩

/-- Where encryption is required, only the request for it stands in the clear, whole or broken. -/
theorem clear_of_required (hrequired : s.tls = .ok (.required config))
    (hgrammar : establishGrammar o authenticated s talk r)
    (hmem : .clear bytes ∈ writtenIn false talk ++ brokenIn false talk) :
    bytes = tlsRequest.frame.encode := by
  obtain ⟨hask, -⟩ | ⟨asked, hask, ⟨e, rfl, -⟩ | ⟨c, rfl, -⟩⟩ :=
    establish_grammar_of_required hrequired hgrammar
  · exact clear_of_tried (tried_in_tls_request hask) hmem
  · refine clear_of_tried ?_ hmem
    rw [tried_in_append, tried_in_tls_request hask]
    rfl
  -- After the handshake nothing stands in the clear.
  · have hplain := plain_of_tls_request hask
    have hlater := not_clear_of_encrypted c.events bytes
    rw [writtenIn, brokenIn, parts_in_append hplain, parts_in_append hplain, List.mem_append,
      List.mem_append, List.mem_append] at hmem
    have hasked : Written.clear bytes ∈ writtenIn false asked ++ brokenIn false asked := by
      obtain (hmem | hmem) | hmem | hmem := hmem
      · exact List.mem_append_left _ hmem
      · obtain hmem | hmem := List.mem_cons.mp hmem
        · cases hmem
        · exact absurd (List.mem_append_left _ hmem) hlater
      · exact List.mem_append_right _ hmem
      · exact absurd (List.mem_append_right _ hmem) hlater
    exact clear_of_tried (tried_in_tls_request hask) hasked

/-- Where encryption is required, a connect that succeeds leaves an encrypted connection. -/
theorem encrypted_of_required {t : NetworkSession} {g : Host}
    (hrequired : s.tls = .ok (.required config))
    (hconnect : connect o authenticated (s, h) = .ok () (t, g)) :
    t.connection.isEncrypted = true := by
  cases hopen : Host.openTransport o s.ipMode h with
  | error e _ =>
      rw [connect_of_unopened hopen] at hconnect
      cases hconnect
  | ok x _ =>
      obtain ⟨talk, y, hspoken⟩ := connect_spoken o authenticated hopen
      have hgrammar := hspoken.grammar
      rw [hconnect] at hgrammar
      obtain ⟨-, _, hr⟩ | ⟨asked, hask, ⟨_, -, hr⟩ | ⟨c, rfl, -⟩⟩ :=
        establish_grammar_of_required hrequired hgrammar
      · cases hr
      · cases hr
      · have hopen : ∀ event ∈ asked ++ .secured config :: c.events, event.leavesOpen = true := by
          intro event hmem
          obtain hmem | hmem := List.mem_append.mp hmem
          · exact Event.leavesOpen_of_isPlain (plain_of_tls_request hask event hmem)
          · obtain rfl | hmem := List.mem_cons.mp hmem
            · rfl
            · exact Event.leavesOpen_of_isPlain (c.events_plain hmem)
        obtain ⟨hcurrent, hencrypted⟩ := hspoken.stays hopen
        rw [hconnect] at hcurrent
        rw [Connection.isEncrypted, show t.connection.current = some y from hcurrent,
          Option.any_some, hencrypted]
        simp [Event.encrypts]

/-- If the TLS options are wrong, nothing is written on the transport, and their error is the one
that is returned. -/
theorem connect_of_misconfigured (o : Options) (authenticated : Bool) {e : SessionError}
    {x : Transport} {g : Host} (hwrong : s.tls = .error e)
    (hopen : Host.openTransport o s.ipMode h = .ok x g) :
    connect o authenticated (s, h) = .error e (s.carriedBy x, g) := by
  have hestablish : establish o authenticated (s.carriedBy x) = .error e (s.carriedBy x) := by
    have htls : (s.carriedBy x).tls = .error e := hwrong
    simp only [establish, htls]
  obtain ⟨houtcome, hstate⟩ := connect_of_opened hopen
  rw [hestablish] at houtcome hstate
  exact EStateM.Result.eq_error_iff.mpr ⟨houtcome, hstate⟩

end SessionKeeper
