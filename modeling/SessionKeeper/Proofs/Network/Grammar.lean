import SessionKeeper.Proofs.Network.Dialogue

/-!
# What a session says when it connects

A grammar lists the talks that an action may have, each with the outcome that belongs to it. An
action follows a grammar if every run of it is one of these talks, and if every such talk that a
server takes part in is the run. `establish_follows` gives the grammar of connecting.
-/

namespace SessionKeeper

open NetworkSession

/-- The talks that an action may have, with their outcomes. -/
abbrev Grammar (α : Type) := List Event → Except SessionError α → Prop

namespace Grammar

variable {α β : Type}

/-- Nothing happens, and the outcome is settled. -/
def settled (r : Except SessionError α) : Grammar α := fun talk q => talk = [] ∧ q = r

/-- The outcome is judged. -/
def judged (grammar : Grammar α) (verdict : α → Except SessionError β) : Grammar β := fun talk r =>
  ∃ q, grammar talk q ∧ r = q.bind verdict

/-- After a success another grammar goes on. -/
inductive andThen (grammar : Grammar α) (next : α → Grammar β) : Grammar β where
  | stop {talk : List Event} {e : SessionError} (h : grammar talk (.error e)) :
      andThen grammar next talk (.error e)
  | go {talk later : List Event} {a : α} {r : Except SessionError β} (h : grammar talk (.ok a))
      (hlater : next a later r) : andThen grammar next (talk ++ later) r

end Grammar

/-- From a session, an action has one of the talks of a grammar, and each talk of the grammar that
can take place there is the one that the action has. -/
structure Follows {α : Type} (s : NetworkSession) (act : EStateM SessionError NetworkSession α)
    (grammar : Grammar α) : Prop where
  spoken : ∃ talk, grammar talk (act s).outcome ∧ Dialogue s talk (act s).state
  determined : ∀ {talk r t}, grammar talk r → Dialogue s talk t →
    (act s).outcome = r ∧ (act s).state = t

namespace Follows

variable {α β : Type} {s : NetworkSession} {act : EStateM SessionError NetworkSession α}
  {grammar : Grammar α}

theorem settled (r : Except SessionError α)
    (hact : (act s).outcome = r ∧ (act s).state = s) : Follows s act (.settled r) where
  spoken := ⟨[], ⟨rfl, hact.1⟩, by rw [hact.2]; exact .nil s⟩
  determined := by
    rintro talk q t ⟨rfl, rfl⟩ htalk
    cases htalk
    exact hact

theorem judged (h : Follows s act grammar) {verdict : α → Except SessionError β}
    {whole : EStateM SessionError NetworkSession β}
    (hwhole : (whole s).outcome = (act s).outcome.bind verdict ∧
      (whole s).state = (act s).state) : Follows s whole (grammar.judged verdict) where
  spoken := by
    obtain ⟨talk, hgrammar, htalk⟩ := h.spoken
    exact ⟨talk, ⟨_, hgrammar, hwhole.1⟩, hwhole.2 ▸ htalk⟩
  determined := by
    rintro talk r t ⟨q, hgrammar, rfl⟩ htalk
    obtain ⟨houtcome, hstate⟩ := h.determined hgrammar htalk
    exact ⟨hwhole.1.trans (by rw [houtcome]), hwhole.2.trans hstate⟩

/-- Carry out an action, and another one if it succeeds. -/
theorem andThen (h : Follows s act grammar)
    {next : α → EStateM SessionError NetworkSession β} {grammars : α → Grammar β}
    (hnext : ∀ (a : α) (talk : List Event) (t : NetworkSession), Dialogue s talk t →
      Follows t (next a) (grammars a)) :
    Follows s (EStateM.bind act next) (grammar.andThen grammars) where
  spoken := by
    obtain ⟨talk, hgrammar, htalk⟩ := h.spoken
    simp only [EStateM.bind]
    cases hact : act s with
    | error e t =>
        rw [hact] at hgrammar htalk
        exact ⟨talk, .stop hgrammar, htalk⟩
    | ok a t =>
        rw [hact] at hgrammar htalk
        obtain ⟨later, hlater, hrest⟩ := (hnext a talk t htalk).spoken
        exact ⟨talk ++ later, .go hgrammar hlater, htalk.append hrest⟩
  determined := by
    intro talk r t hgrammar htalk
    cases hgrammar with
    | stop hstop =>
        have hact := EStateM.Result.eq_error_iff.mpr (h.determined hstop htalk)
        simp only [EStateM.bind, hact]
        exact ⟨rfl, rfl⟩
    | go hgo hlater =>
        -- The talk is split where the grammar is; the first part settles where the second begins.
        obtain ⟨u, hfirst, hrest⟩ := htalk.split
        have hact := EStateM.Result.eq_ok_iff.mpr (h.determined hgo hfirst)
        simp only [EStateM.bind, hact]
        exact (hnext _ _ _ hfirst).determined hlater hrest

end Follows

/-! ## Waiting for a reply -/

/-- A reply is waited for: notices may come before it, and it may fail to come. -/
inductive Hearing : Grammar ServerMessage where
  | reply {notices : List ServerMessage} {m : ServerMessage}
      (hnotices : ∀ notice ∈ notices, notice.isNotice = true) (hreply : m.isNotice = false) :
      Hearing (notices.map .received ++ [.received m]) (.ok m)
  | missed {notices : List ServerMessage} {e : SessionError}
      (hnotices : ∀ notice ∈ notices, notice.isNotice = true) :
      Hearing (notices.map .received ++ [.missed e]) (.error e)

/-- One more notice does not matter. -/
theorem Hearing.notice {talk : List Event} {r : Except SessionError ServerMessage}
    (h : Hearing talk r) {notice : ServerMessage} (hnotice : notice.isNotice = true) :
    Hearing (.received notice :: talk) r := by
  cases h with
  | reply hnotices hreply =>
      exact .reply (List.forall_mem_cons.mpr ⟨hnotice, hnotices⟩) hreply
  | missed hnotices => exact .missed (List.forall_mem_cons.mpr ⟨hnotice, hnotices⟩)

variable {s t : NetworkSession} {m : ServerMessage} {e : SessionError}

theorem receive_reply_of_error (h : receive s = .error e t) : receiveReply s = .error e t := by
  unfold receiveReply
  split
  · next h' => exact h'.symm.trans h
  · next h' => cases h'.symm.trans h

theorem receive_reply_of_reply (h : receive s = .ok m t) (hreply : m.isNotice = false) :
    receiveReply s = .ok m t := by
  unfold receiveReply
  split
  · next h' => cases h'.symm.trans h
  · next h' =>
      cases h'.symm.trans h
      simp [hreply]

theorem receive_reply_of_notice (h : receive s = .ok m t) (hnotice : m.isNotice = true) :
    receiveReply s = receiveReply (t.learn m) := by
  conv => lhs; unfold receiveReply
  split
  · next h' => cases h'.symm.trans h
  · next h' =>
      cases h'.symm.trans h
      simp [hnotice]

/-- Waiting passes over notices until a reply comes or receiving fails. -/
theorem receive_reply_follows (s : NetworkSession) : Follows s receiveReply Hearing where
  spoken := by
    -- Induction along the waiting itself, which ends because every message takes bytes.
    induction s using receiveReply.induct with
    | case1 s e t h =>
        rw [receive_reply_of_error h]
        exact ⟨_, @Hearing.missed [] e nofun, .single (.missed h)⟩
    | case2 s m t h hnotice ih =>
        obtain ⟨talk, hgrammar, htalk⟩ := ih
        rw [receive_reply_of_notice h hnotice]
        exact ⟨_, hgrammar.notice hnotice, .cons (.received h) htalk⟩
    | case3 s m t h hreply =>
        have hreply : m.isNotice = false := by simpa using hreply
        rw [receive_reply_of_reply h hreply]
        have hheard := Dialogue.single (Happens.received h)
        rw [learn_of_not_notice hreply] at hheard
        exact ⟨_, @Hearing.reply [] m nofun hreply, hheard⟩
  determined := by
    -- Induction on the notices, each of which is one receive.
    have hnotices : ∀ (notices : List ServerMessage) (s : NetworkSession),
        (∀ notice ∈ notices, notice.isNotice = true) →
          ∀ {last t}, Dialogue s (notices.map Event.received ++ [last]) t →
            ∃ u, Happens u last t ∧ receiveReply s = receiveReply u := by
      intro notices
      induction notices with
      | nil => exact fun s _ last t htalk => ⟨s, htalk.happens, rfl⟩
      | cons notice notices ih =>
          intro s hall last t htalk
          obtain ⟨hnotice, hrest⟩ := List.forall_mem_cons.mp hall
          cases htalk with
          | cons hfirst hlater =>
              obtain ⟨u, hlast, hsame⟩ := ih _ hrest hlater
              cases hfirst with
              | received h => exact ⟨u, hlast, (receive_reply_of_notice h hnotice).trans hsame⟩
    intro talk r t hgrammar htalk
    cases hgrammar with
    | reply hall hreply =>
        obtain ⟨u, hlast, hsame⟩ := hnotices _ s hall htalk
        cases hlast with
        | received h =>
            rw [hsame, receive_reply_of_reply h hreply, learn_of_not_notice hreply]
            exact ⟨rfl, rfl⟩
    | missed hall =>
        obtain ⟨u, hlast, hsame⟩ := hnotices _ s hall htalk
        cases hlast with
        | missed h =>
            rw [hsame, receive_reply_of_error h]
            exact ⟨rfl, rfl⟩

/-! ## Requests -/

/-- A request is sent, and its reply is waited for. -/
inductive Exchange (request : ClientMessage) : Grammar ServerMessage where
  | unsent {e : SessionError} : Exchange request [.unsent request e] (.error e)
  | sent {talk : List Event} {r : Except SessionError ServerMessage} (h : Hearing talk r) :
      Exchange request (.sent request :: talk) r

/-- Send a request and wait for its reply. -/
def exchange (request : ClientMessage) : EStateM SessionError NetworkSession ServerMessage :=
  EStateM.bind (send request) fun _ => receiveReply

theorem exchange_follows (request : ClientMessage) (s : NetworkSession) :
    Follows s (exchange request) (Exchange request) where
  spoken := by
    simp only [exchange, EStateM.bind]
    cases hsend : send request s with
    | error e t => exact ⟨_, .unsent, .single (.unsent hsend)⟩
    | ok _ t =>
        obtain ⟨talk, hgrammar, htalk⟩ := (receive_reply_follows t).spoken
        exact ⟨_, .sent hgrammar, .cons (.sent hsend) htalk⟩
  determined := by
    intro talk r t hgrammar htalk
    simp only [exchange, EStateM.bind]
    cases hgrammar with
    | unsent =>
        cases htalk.happens with
        | unsent hsend =>
            rw [hsend]
            exact ⟨rfl, rfl⟩
    | sent hhearing =>
        cases htalk with
        | cons hfirst hlater =>
            cases hfirst with
            | sent hsend =>
                rw [hsend]
                exact (receive_reply_follows _).determined hhearing hlater

/-- The request to set a capability. -/
def capabilityRequest (name : String) (value : Bool) : ClientMessage :=
  .capabilitiesSet name (.bool value)

/-- The talks in which a capability is requested. -/
def capabilityGrammar (name : String) (value : Bool) : Grammar Unit :=
  (Exchange (capabilityRequest name value)).judged capabilityVerdict

/-- An exchange on whose reply a verdict decides. -/
theorem exchange_judged (request : ClientMessage)
    (verdict : ServerMessage → Except SessionError Unit) (s : NetworkSession) :
    let whole : EStateM.Result SessionError NetworkSession Unit :=
      match send request s with
      | .error e s => .error e s
      | .ok () s => await verdict s
    whole.outcome = (exchange request s).outcome.bind verdict ∧
      whole.state = (exchange request s).state := by
  simp only [exchange, EStateM.bind]
  cases send request s with
  | error e t => exact ⟨rfl, rfl⟩
  | ok _ t =>
      simp only [await]
      cases receiveReply t with
      | error e u => exact ⟨rfl, rfl⟩
      | ok reply u =>
          simp only [EStateM.Result.outcome_ok, EStateM.Result.state_ok, Except.bind]
          cases verdict reply <;> exact ⟨rfl, rfl⟩

theorem request_capability_follows (name : String) (value : Bool) (s : NetworkSession) :
    Follows s (requestCapability name value) (capabilityGrammar name value) :=
  (exchange_follows _ s).judged (exchange_judged (capabilityRequest name value) capabilityVerdict s)

/-- The talks in which capabilities are requested one after the other. -/
def capabilitiesGrammar : List (Capability × Bool) → Grammar Unit
  | [] => .settled (.ok ())
  | (capability, value) :: rest =>
      (capabilityGrammar capability.name value).andThen fun _ => capabilitiesGrammar rest

/-- A list of requests is one request with the rest of the list behind it. -/
theorem request_capabilities_cons (entry : Capability × Bool) (rest : List (Capability × Bool)) :
    requestCapabilities (entry :: rest) =
      EStateM.bind (requestCapability entry.1.name entry.2) fun _ => requestCapabilities rest := by
  funext s
  simp only [requestCapabilities, EStateM.bind]
  cases requestCapability entry.1.name entry.2 s <;> rfl

theorem request_capabilities_follows (wanted : List (Capability × Bool)) (s : NetworkSession) :
    Follows s (requestCapabilities wanted) (capabilitiesGrammar wanted) := by
  induction wanted generalizing s with
  | nil => exact .settled _ ⟨rfl, rfl⟩
  | cons entry rest ih =>
      rw [request_capabilities_cons]
      exact (request_capability_follows _ _ s).andThen fun _ _ t _ => ih t

/-! ## Authentication -/

/-- The message that starts an authentication. -/
def startRequest (o : Options) (method : AuthMethod) : ClientMessage :=
  .authenticateStart method.name (initialData o method)

/-- The message that answers a challenge. -/
def answerRequest (o : Options) (challenge : Bytes) : ClientMessage :=
  .authenticateContinue (Authentication.challengeData o challenge)

/-- The talks that follow the first reply of an authentication: a challenge is answered by the
method that knows challenges, and nothing else is. -/
def reactionGrammar (o : Options) (method : AuthMethod) : ServerMessage → Grammar Unit
  | .authenticateContinue challenge =>
      if method = .mysql41 then (Exchange (answerRequest o challenge)).judged authenticationVerdict
      else .settled (.error (.unexpected (.authenticateContinue challenge)))
  | m => .settled (authenticationVerdict m)

/-- The talks in which the client authenticates. -/
def authenticationGrammar (o : Options) (method : AuthMethod) : Grammar Unit :=
  (Exchange (startRequest o method)).andThen (reactionGrammar o method)

/-- What a session does with the first reply of an authentication. -/
def react (o : Options) (m : ServerMessage) : EStateM SessionError NetworkSession Unit := fun s =>
  match m with
  | .authenticateContinue challenge =>
      if s.authMethod = .mysql41 then answerChallenge o challenge s
      else .error (.unexpected (.authenticateContinue challenge)) s
  | m =>
      match authenticationVerdict m with
      | .ok () => .ok () s
      | .error e => .error e s

theorem react_follows (o : Options) (m : ServerMessage) (s : NetworkSession) :
    Follows s (react o m) (reactionGrammar o s.authMethod m) := by
  cases m with
  | authenticateContinue challenge =>
      cases hmethod : s.authMethod with
      | mysql41 =>
          refine (exchange_follows _ s).judged ?_
          have hwhole := exchange_judged (answerRequest o challenge) authenticationVerdict s
          simp only [react, hmethod, if_true]
          exact hwhole
      | plain => exact .settled _ (by simp [react, hmethod])
  | ok | error | capabilities | authenticateOk | notice | other => exact .settled _ ⟨rfl, rfl⟩

/-- An authentication is an exchange and what its reply brings about. -/
theorem authenticate_eq (o : Options) (s : NetworkSession) :
    authenticate o s = EStateM.bind (exchange (startRequest o s.authMethod)) (react o) s := by
  simp only [authenticate, exchange, EStateM.bind, startRequest]
  cases send (.authenticateStart s.authMethod.name (initialData o s.authMethod)) s with
  | error e t => rfl
  | ok _ t =>
      simp only
      cases receiveReply t with
      | error e u => rfl
      | ok m u => cases m <;> rfl

theorem authenticate_follows (o : Options) (s : NetworkSession) :
    Follows s (authenticate o) (authenticationGrammar o s.authMethod) := by
  have hfollows : Follows s (EStateM.bind (exchange (startRequest o s.authMethod)) (react o))
      (authenticationGrammar o s.authMethod) := by
    refine (exchange_follows _ s).andThen fun m talk t htalk => ?_
    rw [← htalk.settings.authMethod]
    exact react_follows o m t
  exact ⟨by rw [authenticate_eq]; exact hfollows.spoken,
    by rw [authenticate_eq]; exact hfollows.determined⟩

/-! ## Encryption -/

/-- The talks in which the connection is encrypted. -/
inductive Encryption (config : TlsConfig) : Grammar Unit where
  | secured : Encryption config [.secured config] (.ok ())
  | unsecured {e : SessionError} : Encryption config [.unsecured config e] (.error e)

theorem encrypt_follows (config : TlsConfig) (s : NetworkSession) :
    Follows s (encrypt config) (Encryption config) where
  spoken := by
    cases h : encrypt config s with
    | ok _ t => exact ⟨_, .secured, .single (.secured h)⟩
    | error e t => exact ⟨_, .unsecured, .single (.unsecured h)⟩
  determined := by
    intro talk r t hgrammar htalk
    cases hgrammar with
    | secured =>
        cases htalk.happens with
        | secured h =>
            rw [h]
            exact ⟨rfl, rfl⟩
    | unsecured =>
        cases htalk.happens with
        | unsecured h =>
            rw [h]
            exact ⟨rfl, rfl⟩

/-- The request for encryption. -/
def tlsRequest : ClientMessage := capabilityRequest tlsCapability true

/-- The talks in which encryption is requested and carried out. -/
def securingGrammar (config : TlsConfig) : Grammar Unit :=
  (capabilityGrammar tlsCapability true).andThen fun _ => Encryption config

/-- The talks in which encryption is only preferred: a request that fails is passed over, unless
the failure is that the server is gone. -/
inductive Preferring (config : TlsConfig) : Grammar Unit where
  | granted {talk later : List Event} {r : Except SessionError Unit}
      (h : capabilityGrammar tlsCapability true talk (.ok ()))
      (hlater : Encryption config later r) :
      Preferring config (talk ++ later) r
  | lost {talk : List Event} {e : SessionError}
      (h : capabilityGrammar tlsCapability true talk (.error e))
      (hgone : e.code = Code.serverGone) :
      Preferring config talk (.error e)
  | declined {talk : List Event} {e : SessionError}
      (h : capabilityGrammar tlsCapability true talk (.error e))
      (hthere : e.code ≠ Code.serverGone) : Preferring config talk (.ok ())

/-- The talks in which it is settled whether the connection is encrypted. -/
def negotiationGrammar : TlsPolicy → Grammar Unit
  | .disabled => .settled (.ok ())
  | .preferred config => Preferring config
  | .required config => securingGrammar config

/-- Request encryption and encrypt. -/
def secure (config : TlsConfig) : EStateM SessionError NetworkSession Unit :=
  EStateM.bind (requestCapability tlsCapability true) fun _ => encrypt config

theorem secure_follows (config : TlsConfig) (s : NetworkSession) :
    Follows s (secure config) (securingGrammar config) :=
  (request_capability_follows _ _ s).andThen fun _ _ t _ => encrypt_follows config t

theorem negotiate_tls_preferred_follows (config : TlsConfig) (s : NetworkSession) :
    Follows s (negotiateTls (.preferred config)) (Preferring config) where
  spoken := by
    obtain ⟨talk, hgrammar, htalk⟩ := (request_capability_follows tlsCapability true s).spoken
    simp only [negotiateTls]
    cases hask : requestCapability tlsCapability true s with
    | ok _ t =>
        rw [hask] at hgrammar htalk
        obtain ⟨later, hlater, hrest⟩ := (encrypt_follows config t).spoken
        exact ⟨_, .granted hgrammar hlater, htalk.append hrest⟩
    | error e t =>
        rw [hask] at hgrammar htalk
        by_cases hgone : e.code = Code.serverGone
        · simp only [hgone, if_true]
          exact ⟨_, .lost hgrammar hgone, htalk⟩
        · simp only [hgone, if_false]
          exact ⟨_, .declined hgrammar hgone, htalk⟩
  determined := by
    intro talk r t hgrammar htalk
    have hrequest := request_capability_follows tlsCapability true s
    cases hgrammar with
    | granted h hlater =>
        obtain ⟨u, hfirst, hrest⟩ := htalk.split
        have hask := EStateM.Result.eq_ok_iff.mpr (hrequest.determined h hfirst)
        simp only [negotiateTls, hask]
        exact (encrypt_follows config u).determined hlater hrest
    | lost h hgone =>
        have hask := EStateM.Result.eq_error_iff.mpr (hrequest.determined h htalk)
        simp only [negotiateTls, hask, hgone, if_true]
        exact ⟨rfl, rfl⟩
    | declined h hthere =>
        have hask := EStateM.Result.eq_error_iff.mpr (hrequest.determined h htalk)
        simp only [negotiateTls, hask, hthere, if_false]
        exact ⟨rfl, rfl⟩

theorem negotiate_tls_follows (policy : TlsPolicy) (s : NetworkSession) :
    Follows s (negotiateTls policy) (negotiationGrammar policy) := by
  cases policy with
  | disabled => exact .settled _ ⟨rfl, rfl⟩
  | preferred config => exact negotiate_tls_preferred_follows config s
  | required config =>
      have hact : negotiateTls (.required config) = secure config := by
        funext s
        simp only [negotiateTls, secure, EStateM.bind]
        cases requestCapability tlsCapability true s <;> rfl
      rw [hact]
      exact secure_follows config s

/-! ## Connecting -/

/-- What a session does once it is settled whether the connection is encrypted. -/
def proceed (o : Options) (authenticated : Bool) : EStateM SessionError NetworkSession Unit :=
  fun s =>
    EStateM.bind (requestCapabilities s.capabilities)
      (fun _ => if authenticated then authenticate o else pure ()) s

/-- The talks that follow once it is settled whether the connection is encrypted. -/
def proceedingGrammar (o : Options) (authenticated : Bool) (method : AuthMethod)
    (wanted : List (Capability × Bool)) : Grammar Unit :=
  (capabilitiesGrammar wanted).andThen fun _ =>
    if authenticated then authenticationGrammar o method else .settled (.ok ())

theorem proceed_follows (o : Options) (authenticated : Bool) (s : NetworkSession) :
    Follows s (proceed o authenticated)
      (proceedingGrammar o authenticated s.authMethod s.capabilities) := by
  have hfollows : Follows s
      (EStateM.bind (requestCapabilities s.capabilities)
        (fun _ => if authenticated then authenticate o else pure ()))
      (proceedingGrammar o authenticated s.authMethod s.capabilities) := by
    refine (request_capabilities_follows _ s).andThen fun _ talk t htalk => ?_
    cases authenticated with
    | true =>
        rw [← htalk.settings.authMethod]
        exact authenticate_follows o t
    | false => exact .settled _ ⟨rfl, rfl⟩
  exact ⟨hfollows.spoken, hfollows.determined⟩

/-- The talks in which a session connects. -/
def establishGrammar (o : Options) (authenticated : Bool) (s : NetworkSession) : Grammar Unit :=
  match s.tls with
  | .error e => .settled (.error e)
  | .ok policy =>
      (negotiationGrammar policy).andThen fun _ =>
        proceedingGrammar o authenticated s.authMethod s.capabilities

theorem establish_eq {o : Options} {authenticated : Bool} {s : NetworkSession} {policy : TlsPolicy}
    (h : s.tls = .ok policy) :
    establish o authenticated s =
      EStateM.bind (negotiateTls policy) (fun _ => proceed o authenticated) s := by
  simp only [establish, h, EStateM.bind, proceed]
  cases negotiateTls policy s with
  | error e t => rfl
  | ok _ t =>
      simp only
      cases requestCapabilities t.capabilities t with
      | error e u => rfl
      | ok _ u => cases authenticated <;> rfl

/-- Connecting over an open transport follows its grammar. -/
theorem establish_follows (o : Options) (authenticated : Bool) (s : NetworkSession) :
    Follows s (establish o authenticated) (establishGrammar o authenticated s) := by
  cases htls : s.tls with
  | error e =>
      have hgrammar : establishGrammar o authenticated s = .settled (.error e) := by
        simp only [establishGrammar, htls]
      rw [hgrammar]
      exact .settled _ (by simp only [establish, htls]; exact ⟨rfl, rfl⟩)
  | ok policy =>
      have hfollows :
          Follows s (EStateM.bind (negotiateTls policy) fun _ => proceed o authenticated)
            (establishGrammar o authenticated s) := by
        simp only [establishGrammar, htls]
        refine (negotiate_tls_follows policy s).andThen fun _ talk t htalk => ?_
        rw [← htalk.settings.authMethod, ← htalk.settings.capabilities]
        exact proceed_follows o authenticated t
      exact ⟨by rw [establish_eq htls]; exact hfollows.spoken,
        by rw [establish_eq htls]; exact hfollows.determined⟩

end SessionKeeper
