import SessionKeeper.Proofs.Network.Fallback

/-!
# What a connect leaves

A connect that opens a transport has a talk over it, and what the transport carries afterwards is
what was written in that talk. `connect_spoken` says so for every policy, and
`requests_of_establish` which requests there are in such a talk.
-/

namespace SessionKeeper

open NetworkSession

variable {o : Options} {authenticated : Bool} {s : NetworkSession} {h g : Host} {x y : Transport}
  {talk : List Event}

/-- A talk over the transport that a connect opened, and what is left of that transport. -/
structure Spoken (o : Options) (authenticated : Bool) (s : NetworkSession) (h : Host)
    (x : Transport) (talk : List Event) (y : Transport) : Prop where
  grammar : establishGrammar o authenticated s talk (connect o authenticated (s, h)).outcome
  /-- The talk took place over the transport, so what was received came from it. -/
  dialogue : Dialogue (s.carriedBy x) talk (connect o authenticated (s, h)).state.1
  transports : (connect o authenticated (s, h)).state.1.connection.transports =
    y :: s.connection.transports
  number : y.number = h.opened
  written : y.written = writtenIn false talk
  broken : y.broken = brokenIn false talk
  stays : (∀ event ∈ talk, event.leavesOpen = true) →
    (connect o authenticated (s, h)).state.1.connection.current = some y ∧
      y.encrypted = talk.any Event.encrypts

/-- A connect over a transport that was opened is a talk. -/
theorem connect_spoken (o : Options) (authenticated : Bool)
    (hopen : Host.openTransport o s.ipMode h = .ok x g) :
    ∃ talk y, Spoken o authenticated s h x talk y := by
  obtain ⟨hfresh, -⟩ := Host.open_transport_fresh hopen
  obtain ⟨houtcome, hstate⟩ := connect_of_opened hopen
  obtain ⟨talk, hgrammar, htalk⟩ := (establish_follows o authenticated (s.carriedBy x)).spoken
  obtain ⟨y, hleft⟩ := htalk.on_transport (x := x) rfl
  refine ⟨talk, y, ?_, ?_, ?_, hleft.number.trans hfresh.number, ?_, ?_, fun hopen => ?_⟩
  · rw [houtcome]
    exact hgrammar
  · rw [hstate]
    exact htalk
  · rw [hstate]
    exact hleft.transports
  · rw [hleft.written, hfresh.written, hfresh.encrypted, List.nil_append]
  · rw [hleft.broken, hfresh.broken, hfresh.encrypted, List.nil_append]
  · obtain ⟨hconnection, hencrypted⟩ := hleft.stays hopen
    rw [hstate, hencrypted, hfresh.encrypted, hconnection]
    exact ⟨rfl, Bool.false_or _⟩

/-! ## What is requested -/

/-- In the talk that requests encryption nothing else is requested. -/
theorem tried_in_tls_request {r : Except SessionError Unit}
    (hask : capabilityGrammar tlsCapability true talk r) : triedIn talk = [tlsRequest] := by
  obtain ⟨turn, -, hrequest, -, rfl, -⟩ | ⟨conclusion, e, rfl, -, hdenies⟩ := tls_request_cases hask
  · rw [Turn.tried_in_events, hrequest]
  · rw [Conclusion.tried_in_events, hdenies.requests]

/-- Nor is anything else while it is settled whether the connection is encrypted. -/
theorem sent_in_negotiation {policy : TlsPolicy} {r : Except SessionError Unit}
    (hgrammar : negotiationGrammar policy talk r) : ∀ m ∈ sentIn talk, m = tlsRequest := by
  have hasking : ∀ {asked} {q : Except SessionError Unit},
      capabilityGrammar tlsCapability true asked q → ∀ m ∈ sentIn asked, m = tlsRequest := by
    intro asked q hask m hm
    have htried := sent_in_subset_tried_in asked hm
    rw [tried_in_tls_request hask] at htried
    exact List.mem_singleton.mp htried
  have hencryption : ∀ {config asked later} {q : Except SessionError Unit},
      capabilityGrammar tlsCapability true asked (.ok ()) → Encryption config later q →
        ∀ m ∈ sentIn (asked ++ later), m = tlsRequest := by
    intro config asked later q hask hlater m hm
    have hnone : sentIn later = [] := by cases hlater <;> rfl
    rw [sent_in_append, hnone, List.append_nil] at hm
    exact hasking hask m hm
  cases policy with
  | disabled =>
      obtain ⟨rfl, -⟩ := hgrammar
      exact fun _ hm => absurd hm List.not_mem_nil
  | preferred config =>
      cases hgrammar with
      | granted hask hlater => exact hencryption hask hlater
      | lost hask | declined hask => exact hasking hask
  | required config =>
      cases hgrammar with
      | stop hask => exact hasking hask
      | go hask hlater => exact hencryption hask hlater

/-- What is planned is a capability, or it belongs to the authentication. -/
theorem planned_request_cases {method : AuthMethod} {wanted : List (Capability × Bool)}
    {challenge : Bytes} {m : ClientMessage}
    (h : m ∈ plannedRequests o authenticated method wanted challenge) :
    (∃ entry ∈ wanted, capabilityRequest entry.1.name entry.2 = m) ∨
      m = startRequest o method ∨ m = answerRequest o challenge := by
  obtain hcapability | hauthentication := List.mem_append.mp h
  · exact .inl (List.mem_map.mp hcapability)
  · split at hauthentication
    · obtain rfl | hanswer := List.mem_cons.mp hauthentication
      · exact .inr (.inl rfl)
      · split at hanswer
        · exact .inr (.inr (List.mem_singleton.mp hanswer))
        · cases hanswer
    · cases hauthentication

/-- A connect requests encryption, its capabilities and the authentication, and nothing else. -/
theorem requests_of_establish {r : Except SessionError Unit}
    (hgrammar : establishGrammar o authenticated s talk r) :
    ∀ m ∈ sentIn talk, m = tlsRequest ∨
      ∃ challenge, m ∈ plannedRequests o authenticated s.authMethod s.capabilities challenge := by
  cases htls : s.tls with
  | error e =>
      simp only [establishGrammar, htls] at hgrammar
      obtain ⟨rfl, -⟩ := hgrammar
      exact fun _ hm => absurd hm List.not_mem_nil
  | ok policy =>
      simp only [establishGrammar, htls] at hgrammar
      cases hgrammar with
      | stop hnegotiation => exact fun m hm => .inl (sent_in_negotiation hnegotiation m hm)
      | go hnegotiation hproceeding =>
          obtain ⟨c, rfl, -, hfits⟩ := conversation_of_proceeding hproceeding
          intro m hm
          rw [sent_in_append, List.mem_append] at hm
          obtain hm | hm := hm
          · exact .inl (sent_in_negotiation hnegotiation m hm)
          · exact .inr ⟨_, (c.sent_prefix.trans hfits.planned).subset hm⟩

/-- What a connect writes on the transport that it opens, if it opens one. -/
theorem connect_said (o : Options) (authenticated : Bool) (s : NetworkSession) (h : Host) :
    (connect o authenticated (s, h)).state.1.connection.transports = s.connection.transports ∨
      ∃ talk y, (connect o authenticated (s, h)).state.1.connection.transports =
          y :: s.connection.transports ∧
        y.written = writtenIn false talk ∧
        ∀ m ∈ sentIn talk, m = tlsRequest ∨ ∃ challenge,
          m ∈ plannedRequests o authenticated s.authMethod s.capabilities challenge := by
  cases hopen : Host.openTransport o s.ipMode h with
  | error e g =>
      left
      rw [connect_of_unopened hopen]
      rfl
  | ok x g =>
      obtain ⟨talk, y, hspoken⟩ := connect_spoken o authenticated hopen
      exact .inr ⟨talk, y, hspoken.transports, hspoken.written,
        requests_of_establish hspoken.grammar⟩

/-! ## What else a connect leaves -/

/-- A connect does not change what the session was told. -/
theorem settings_of_connect (o : Options) (authenticated : Bool) (s : NetworkSession) (h : Host) :
    SameSettings s (connect o authenticated (s, h)).state.1 := by
  cases hopen : Host.openTransport o s.ipMode h with
  | error e g =>
      rw [connect_of_unopened hopen]
      exact ⟨rfl, rfl, rfl, rfl⟩
  | ok x g =>
      rw [(connect_of_opened hopen).2]
      obtain ⟨talk, -, htalk⟩ := (establish_follows o authenticated (s.carriedBy x)).spoken
      have hcarried : SameSettings s (s.carriedBy x) := ⟨rfl, rfl, rfl, rfl⟩
      exact hcarried.trans htalk.settings

/-- A transport that is opened takes the next number. -/
theorem opened_of_connect (o : Options) (authenticated : Bool)
    (hopen : Host.openTransport o s.ipMode h = .ok x g) :
    (connect o authenticated (s, h)).state.2.opened = h.opened + 1 := by
  rw [(connect_of_opened hopen).2]
  exact (Host.open_transport_fresh hopen).2.1

/-- A connect leaves the files as they are. -/
theorem files_of_connect (o : Options) (authenticated : Bool) (s : NetworkSession) (h : Host) :
    h.SameFiles (connect o authenticated (s, h)).state.2 := by
  cases hopen : Host.openTransport o s.ipMode h with
  | error e g =>
      rw [connect_of_unopened hopen]
      exact .refl h
  | ok x g =>
      rw [(connect_of_opened hopen).2]
      exact (Host.open_transport_fresh hopen).2.2

end SessionKeeper
