import SessionKeeper.Proofs.Network.Connecting

/-!
# Sessions that are alike

Two sessions with the same settings over the same transport are alike, whatever was said over
earlier transports and whatever was counted. What happens to one of them can happen to the other,
so by `connect_alike` they connect in the same way.
-/

namespace SessionKeeper

open NetworkSession

namespace Connection

variable {α : Type}

/-- An action does not look at the transports that are closed already. -/
def Blind (act : EStateM SessionError Connection α) : Prop :=
  ∀ (c : Connection) (past : List Transport), ∃ closed,
    (act c).state.past = closed ++ c.past ∧
      (act { c with past }).outcome = (act c).outcome ∧
      (act { c with past }).state = ⟨(act c).state.current, closed ++ past⟩

theorem on_transport_blind (act : EStateM SessionError Transport α) : Blind (onTransport act) := by
  rintro ⟨current, past⟩ others
  refine ⟨[], ?_⟩
  cases current with
  | none => exact ⟨rfl, rfl, rfl⟩
  | some x =>
      simp only [onTransport]
      cases act x <;> exact ⟨rfl, rfl, rfl⟩

/-- If a handshake fails, one more transport is closed. -/
theorem encrypt_blind (config : TlsConfig) : Blind (encrypt config) := by
  rintro ⟨current, past⟩ others
  cases current with
  | none => exact ⟨[], rfl, rfl, rfl⟩
  | some x =>
      simp only [encrypt]
      split
      · exact ⟨[], rfl, rfl, rfl⟩
      · cases Transport.encrypt config x with
        | ok _ y => exact ⟨[], rfl, rfl, rfl⟩
        | error e y => exact ⟨[y], rfl, rfl, rfl⟩

end Connection

/-- The sessions differ in what they counted, and in the transports that were closed before some
point, at most. -/
structure Alike (p q : List Transport) (s t : NetworkSession) : Prop where
  settings : SameSettings s t
  clientId : t.clientId = s.clientId
  connection : ∃ closed, s.connection.past = closed ++ p ∧
    t.connection = ⟨s.connection.current, closed ++ q⟩

variable {α : Type} {p q : List Transport} {s t : NetworkSession} {o : Options}
  {authenticated : Bool}

/-- Sessions that are alike go on alike. -/
def KeepsAlike (act : EStateM SessionError NetworkSession α) : Prop :=
  ∀ {p q s t}, Alike p q s t →
    (act t).outcome = (act s).outcome ∧ Alike p q (act s).state (act t).state

/-- What a blind action does to the connections of sessions that are alike. -/
theorem Alike.blind {act : EStateM SessionError Connection α} (h : Alike p q s t)
    (hact : Connection.Blind act) :
    ∃ closed,
      (∀ a c, act s.connection = .ok a c →
        c.past = closed ++ p ∧ act t.connection = .ok a ⟨c.current, closed ++ q⟩) ∧
      ∀ e c, act s.connection = .error e c →
        c.past = closed ++ p ∧ act t.connection = .error e ⟨c.current, closed ++ q⟩ := by
  obtain ⟨closed, hpast, hconnection⟩ := h.connection
  obtain ⟨more, hmore, houtcome, hstate⟩ := hact s.connection (closed ++ q)
  rw [hpast, ← List.append_assoc] at hmore
  rw [hconnection]
  rw [← List.append_assoc] at hstate
  refine ⟨more ++ closed, fun a c hs => ?_, fun e c hs => ?_⟩
  · rw [hs] at hmore houtcome hstate
    exact ⟨hmore, EStateM.Result.eq_ok_iff.mpr ⟨houtcome, hstate⟩⟩
  · rw [hs] at hmore houtcome hstate
    exact ⟨hmore, EStateM.Result.eq_error_iff.mpr ⟨houtcome, hstate⟩⟩

/-- Sessions that are alike are so with new connections that are, whatever is counted. -/
theorem Alike.connected (h : Alike p q s t) {c : Connection} {closed : List Transport}
    (hpast : c.past = closed ++ p) (received received' : Option Tally)
    (traffic traffic' : Traffic) :
    Alike p q { s with connection := c, received, traffic }
      { t with
        connection := ⟨c.current, closed ++ q⟩
        received := received'
        traffic := traffic' } :=
  ⟨⟨h.settings.tls, h.settings.capabilities, h.settings.authMethod, h.settings.ipMode⟩, h.clientId,
    closed, hpast, rfl⟩

theorem send_keeps_alike (m : ClientMessage) : KeepsAlike (send m) := by
  intro p q s t h
  obtain ⟨closed, hok, herror⟩ :=
    h.blind (Connection.on_transport_blind (Transport.write m.frame.encode))
  simp only [send, Connection.write]
  cases hwrite : Connection.onTransport (Transport.write m.frame.encode) s.connection with
  | ok a c =>
      obtain ⟨hpast, hother⟩ := hok a c hwrite
      simp only [hother]
      exact ⟨rfl, h.connected hpast _ _ _ _⟩
  | error e c =>
      obtain ⟨hpast, hother⟩ := herror e c hwrite
      simp only [hother]
      exact ⟨rfl, h.connected hpast _ _ _ _⟩

theorem receive_keeps_alike : KeepsAlike receive := by
  intro p q s t h
  obtain ⟨closed, hok, herror⟩ := h.blind (Connection.on_transport_blind Transport.readFrame)
  simp only [receive, Connection.readFrame]
  cases hread : Connection.onTransport Transport.readFrame s.connection with
  | ok frame c =>
      obtain ⟨hpast, hother⟩ := hok frame c hread
      simp only [hother]
      cases ServerMessage.ofFrame frame with
      | ok m => exact ⟨rfl, h.connected hpast _ _ _ _⟩
      | error e => exact ⟨rfl, h.connected hpast _ _ _ _⟩
  | error e c =>
      obtain ⟨hpast, hother⟩ := herror e c hread
      simp only [hother]
      exact ⟨rfl, h.connected hpast _ _ _ _⟩

theorem encrypt_keeps_alike (config : TlsConfig) : KeepsAlike (encrypt config) := by
  intro p q s t h
  obtain ⟨closed, hok, herror⟩ := h.blind (Connection.encrypt_blind config)
  simp only [encrypt]
  cases hencrypt : s.connection.encrypt config with
  | ok a c =>
      obtain ⟨hpast, hother⟩ := hok a c hencrypt
      simp only [hother]
      exact ⟨rfl, h.connected hpast _ _ _ _⟩
  | error e c =>
      obtain ⟨hpast, hother⟩ := herror e c hencrypt
      simp only [hother]
      exact ⟨rfl, h.connected hpast _ _ _ _⟩

/-- What a message tells is taken over alike. -/
theorem Alike.learn (h : Alike p q s t) (m : ServerMessage) :
    Alike p q (s.learn m) (t.learn m) := by
  unfold NetworkSession.learn
  split
  · exact h
  · exact ⟨⟨h.settings.tls, h.settings.capabilities, h.settings.authMethod, h.settings.ipMode⟩,
      rfl, h.connection⟩

/-- Sessions that are alike are closed alike. -/
theorem Alike.close (h : Alike p q s t) :
    Alike p q (Channel.close s : NetworkSession) (Channel.close t) := by
  obtain ⟨closed, hpast, hconnection⟩ := h.connection
  refine ⟨⟨h.settings.tls, h.settings.capabilities, h.settings.authMethod, h.settings.ipMode⟩,
    h.clientId, s.connection.current.toList ++ closed, ?_, ?_⟩
  · show s.connection.close.past = _
    rw [Connection.transports_of_close, Connection.transports, hpast, List.append_assoc]
  · show t.connection.close = ⟨s.connection.close.current, _⟩
    rw [Connection.transports_of_close, Connection.transports_of_close, Connection.transports,
      hconnection, List.append_assoc]

/-- A session that is like one without earlier transports has the same ones before its own. -/
theorem Alike.transports (h : Alike [] q s t) :
    t.connection.transports = s.connection.transports ++ q := by
  obtain ⟨closed, hpast, hconnection⟩ := h.connection
  rw [hconnection, Connection.transports, Connection.transports, hpast, List.append_nil,
    List.append_assoc]

/-- The current transports of sessions that are alike are the same. -/
theorem Alike.current (h : Alike p q s t) : t.connection.current = s.connection.current := by
  obtain ⟨closed, -, hconnection⟩ := h.connection
  rw [hconnection]

/-- What happens to a session happens to every session that is like it. -/
theorem Happens.alike {event : Event} {u : NetworkSession} (hevent : Happens s event u)
    (h : Alike p q s t) : ∃ v, Happens t event v ∧ Alike p q u v := by
  cases hevent with
  | @sent m _ hs =>
      obtain ⟨houtcome, hstate⟩ := send_keeps_alike m h
      rw [hs] at houtcome hstate
      exact ⟨_, .sent (EStateM.Result.eq_ok_iff.mpr ⟨houtcome, rfl⟩), hstate⟩
  | @unsent m _ _ hs =>
      obtain ⟨houtcome, hstate⟩ := send_keeps_alike m h
      rw [hs] at houtcome hstate
      exact ⟨_, .unsent (EStateM.Result.eq_error_iff.mpr ⟨houtcome, rfl⟩), hstate⟩
  | @received m _ hs =>
      obtain ⟨houtcome, hstate⟩ := receive_keeps_alike h
      rw [hs] at houtcome hstate
      exact ⟨_, .received (EStateM.Result.eq_ok_iff.mpr ⟨houtcome, rfl⟩), hstate.learn m⟩
  | missed hs =>
      obtain ⟨houtcome, hstate⟩ := receive_keeps_alike h
      rw [hs] at houtcome hstate
      exact ⟨_, .missed (EStateM.Result.eq_error_iff.mpr ⟨houtcome, rfl⟩), hstate⟩
  | @secured config _ hs =>
      obtain ⟨houtcome, hstate⟩ := encrypt_keeps_alike config h
      rw [hs] at houtcome hstate
      exact ⟨_, .secured (EStateM.Result.eq_ok_iff.mpr ⟨houtcome, rfl⟩), hstate⟩
  | @unsecured config _ _ hs =>
      obtain ⟨houtcome, hstate⟩ := encrypt_keeps_alike config h
      rw [hs] at houtcome hstate
      exact ⟨_, .unsecured (EStateM.Result.eq_error_iff.mpr ⟨houtcome, rfl⟩), hstate⟩

/-- A whole dialogue can be had with every session that is like the one that has it. -/
theorem Dialogue.alike {talk : List Event} {u : NetworkSession} (htalk : Dialogue s talk u)
    (h : Alike p q s t) : ∃ v, Dialogue t talk v ∧ Alike p q u v := by
  induction htalk generalizing t with
  | nil s => exact ⟨t, .nil t, h⟩
  | cons hfirst _ ih =>
      obtain ⟨v, hv, hlike⟩ := hfirst.alike h
      obtain ⟨w, hw, hend⟩ := ih hlike
      exact ⟨w, .cons hv hw, hend⟩

/-- The grammar of connecting depends on the settings alone. -/
theorem establish_grammar_of_same (h : SameSettings s t) :
    establishGrammar o authenticated t = establishGrammar o authenticated s := by
  unfold establishGrammar
  rw [h.tls, h.capabilities, h.authMethod]

/-- Sessions that are alike connect alike over an open transport. -/
theorem establish_keeps_alike (o : Options) (authenticated : Bool) :
    KeepsAlike (establish o authenticated) := by
  intro p q s t h
  obtain ⟨talk, hgrammar, htalk⟩ := (establish_follows o authenticated s).spoken
  obtain ⟨v, hv, hlike⟩ := htalk.alike h
  rw [← establish_grammar_of_same h.settings] at hgrammar
  obtain ⟨houtcome, rfl⟩ := (establish_follows o authenticated t).determined hgrammar hv
  exact ⟨houtcome, hlike⟩

/-- Sessions with the same settings connect in the same way, whatever they did before. -/
theorem connect_alike (o : Options) (authenticated : Bool) (h : SameSettings s t) (host : Host) :
    (connect o authenticated (t, host)).outcome = (connect o authenticated (s, host)).outcome ∧
      (connect o authenticated (t, host)).state.2 = (connect o authenticated (s, host)).state.2 ∧
      Alike s.connection.transports t.connection.transports
        (connect o authenticated (s, host)).state.1
        (connect o authenticated (t, host)).state.1 := by
  cases hopen : Host.openTransport o s.ipMode host with
  | error e g =>
      have hother := hopen
      rw [← h.ipMode] at hother
      rw [connect_of_unopened hopen, connect_of_unopened hother]
      exact ⟨rfl, rfl, ⟨h.tls, h.capabilities, h.authMethod, h.ipMode⟩, rfl, [], rfl, rfl⟩
  | ok x g =>
      have hother := hopen
      rw [← h.ipMode] at hother
      have hlike : Alike s.connection.transports t.connection.transports (s.carriedBy x)
          (t.carriedBy x) :=
        ⟨⟨h.tls, h.capabilities, h.authMethod, h.ipMode⟩, rfl, [], rfl, rfl⟩
      obtain ⟨hsame, hend⟩ := establish_keeps_alike o authenticated hlike
      obtain ⟨houtcome, hstate⟩ := connect_of_opened hopen
      obtain ⟨houtcome', hstate'⟩ := connect_of_opened hother
      rw [houtcome, houtcome', hstate, hstate']
      exact ⟨hsame, rfl, hend⟩

end SessionKeeper
