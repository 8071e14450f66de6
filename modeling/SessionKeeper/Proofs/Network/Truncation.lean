import SessionKeeper.Proofs.Network.Boundaries
import SessionKeeper.Proofs.Network.Conformance

/-!
# Streams that go on

A session that connects without encryption reacts to the bytes that it has read, and to no others.
Where its server sends more before it stops, the session either takes nothing of that, or it had
run out of bytes without it. `Prolonged` relates the two runs of an action, `Causal` says that an
action is such that its runs are always related so, and `connect_prolonged` that a connect is.
-/

namespace SessionKeeper

open NetworkSession

variable {more : Bytes}

/-! ## Reading what goes on -/

namespace Transport

variable {x : Transport}

/-- The transport if its peer sends more. -/
def followedBy (more : Bytes) (x : Transport) : Transport :=
  { x with unread := x.unread ++ more }

/-- Bytes are read as if nothing more came, unless there are too few of them without it. -/
theorem read_followed (count : Nat) (hlater : x.later = []) (hended : x.ended = true)
    (more : Bytes) :
    read count (x.followedBy more) = (read count x).mapState (followedBy more) ∨
      read count x = .error .gone { x with unread := [] } := by
  simp only [read, followedBy, List.length_append]
  by_cases hle : count ≤ x.unread.length
  · left
    rw [if_pos hle, if_pos (Nat.le_add_right_of_le hle), List.take_append_of_le_length hle,
      List.drop_append_of_le_length hle]
    rfl
  · right
    rw [if_neg hle, shortage, interrupted, hlater, hended]
    rfl

/-- So is a frame. -/
theorem read_frame_followed (hlater : x.later = []) (hended : x.ended = true) (more : Bytes) :
    readFrame (x.followedBy more) = (readFrame x).mapState (followedBy more) ∨
      readFrame x = .error .gone { x with unread := [] } := by
  simp only [readFrame]
  obtain hfollowed | hstarved := read_followed Frame.headerLength hlater hended more
  · rw [hfollowed]
    cases hheader : read Frame.headerLength x with
    | error e y => exact .inl rfl
    | ok header y =>
        obtain ⟨unread, rfl⟩ : ∃ unread, y = { x with unread } :=
          ⟨y.unread, (read_eq_ok_iff.mp hheader).2.2⟩
        simp only [EStateM.Result.mapState]
        cases Frame.bodyLength header with
        | error e => exact .inl rfl
        | ok length =>
            -- The body is read from what the header left.
            simp only
            obtain hfollowed | hstarved :=
              read_followed (x := { x with unread }) length hlater hended more
            · rw [hfollowed]
              cases read length { x with unread } with
              | error e y => exact .inl rfl
              | ok body y => cases body <;> exact .inl rfl
            · rw [hstarved]
              exact .inr rfl
  · rw [hstarved]
    exact .inr rfl

end Transport

/-! ## Sessions -/

namespace NetworkSession

variable {s : NetworkSession} {x : Transport} {m : ServerMessage}

/-- The session if its server sends more. -/
def followedBy (more : Bytes) (s : NetworkSession) : NetworkSession :=
  { s with
    connection :=
      { s.connection with current := s.connection.current.map (Transport.followedBy more) } }

/-- The session has an open transport whose peer sends nothing more. -/
structure Hears (s : NetworkSession) (x : Transport) : Prop where
  current : s.connection.current = some x
  later : x.later = []
  ended : x.ended = true

theorem Hears.followed (h : s.Hears x) (more : Bytes) :
    (s.followedBy more).Hears (x.followedBy more) :=
  ⟨by simp only [followedBy, h.current, Option.map_some], h.later, h.ended⟩

theorem Hears.learn (h : s.Hears x) (m : ServerMessage) : (s.learn m).Hears x :=
  ⟨by rw [connection_learn, h.current], h.later, h.ended⟩

theorem learn_followed (m : ServerMessage) :
    (s.followedBy more).learn m = (s.learn m).followedBy more := by
  unfold NetworkSession.learn
  split <;> rfl

/-- A message is sent in the same way. -/
theorem send_followed (request : ClientMessage) (h : s.Hears x) (more : Bytes) :
    send request (s.followedBy more) = (send request s).mapState (followedBy more) := by
  have hsame : (x.followedBy more).sendFailure? 0 = x.sendFailure? 0 := rfl
  rw [send_of_open request h.current, send_of_open request (h.followed more).current, hsame]
  cases x.sendFailure? 0 <;> rfl

/-- A message is received in the same way, unless the bytes run out. -/
theorem receive_followed (h : s.Hears x) (more : Bytes) :
    receive (s.followedBy more) = (receive s).mapState (followedBy more) ∨
      receive s = .error .gone
        { s with connection := { s.connection with current := some { x with unread := [] } } } := by
  simp only [receive, Connection.readFrame, Connection.onTransport, h.current,
    (h.followed more).current]
  obtain hfollowed | hstarved := Transport.read_frame_followed h.later h.ended more
  · left
    rw [hfollowed]
    cases Transport.readFrame x with
    | error e y => rfl
    | ok frame y =>
        simp only [EStateM.Result.mapState]
        cases ServerMessage.ofFrame frame <;> rfl
  · right
    rw [hstarved]

end NetworkSession

/-! ## Actions -/

variable {α β : Type}

/-- What an action comes to, and what it comes to if the server sends more. Either nothing of that
is taken, or the bytes ran out without it; then at least as much is written with it. -/
inductive Prolonged (more : Bytes) (r r' : EStateM.Result SessionError NetworkSession α) :
    Prop where
  | alike (h : r' = r.mapState (followedBy more))
  | starved {x x' : Transport} (hgone : r.outcome = .error .gone) (hleft : r.state.Hears x)
      (hempty : x.unread = []) (hleft' : r'.state.Hears x') (hwritten : x.written <+: x'.written)

/-- An action reacts to nothing but the bytes that it reads, and goes on writing where it began. -/
structure Causal (act : EStateM SessionError NetworkSession α) : Prop where
  goesOn : ∀ {s x}, s.Hears x → ∃ y, (act s).state.Hears y ∧ x.written <+: y.written
  prolonged : ∀ {s x} (more : Bytes), s.Hears x → Prolonged more (act s) (act (s.followedBy more))

namespace Causal

variable {act : EStateM SessionError NetworkSession α}

theorem settled (r : Except SessionError α)
    (hact : ∀ s, (act s).outcome = r ∧ (act s).state = s) : Causal act where
  goesOn {s x} h := ⟨x, by rwa [(hact s).2], List.prefix_rfl⟩
  prolonged {s x} more h := by
    obtain ⟨houtcome, hstate⟩ := hact s
    obtain ⟨houtcome', hstate'⟩ := hact (s.followedBy more)
    refine .alike (EStateM.Result.eq_map_state_iff.mpr ⟨houtcome'.trans houtcome.symm, ?_⟩)
    rw [hstate', hstate]

theorem andThen (hact : Causal act) {next : α → EStateM SessionError NetworkSession β}
    (hnext : ∀ a, Causal (next a)) : Causal (EStateM.bind act next) where
  goesOn {s x} h := by
    obtain ⟨y, hy, hwritten⟩ := hact.goesOn h
    simp only [EStateM.bind]
    cases hs : act s with
    | error e t =>
        rw [hs] at hy
        exact ⟨y, hy, hwritten⟩
    | ok a t =>
        rw [hs] at hy
        obtain ⟨z, hz, hlater⟩ := (hnext a).goesOn hy
        exact ⟨z, hz, hwritten.trans hlater⟩
  prolonged {s x} more h := by
    obtain ⟨y, hy, -⟩ := hact.goesOn h
    simp only [EStateM.bind]
    cases hact.prolonged more h with
    | alike hsame =>
        rw [hsame]
        cases hs : act s with
        | error e t => exact .alike rfl
        | ok a t =>
            rw [hs] at hy
            exact (hnext a).prolonged more hy
    | starved hgone hleft hempty hleft' hwritten =>
        -- The action ends here; with more bytes the next one may write more.
        cases hs : act s with
        | ok a t =>
            rw [hs] at hgone
            cases hgone
        | error e t =>
            rw [hs] at hgone hleft
            obtain rfl : e = .gone := Except.error.inj hgone
            cases hs' : act (s.followedBy more) with
            | error e' t' =>
                rw [hs'] at hleft'
                exact .starved rfl hleft hempty hleft' hwritten
            | ok a t' =>
                rw [hs'] at hleft'
                obtain ⟨z, hz, hlater⟩ := (hnext a).goesOn hleft'
                exact .starved rfl hleft hempty hz (hwritten.trans hlater)

theorem judged (hact : Causal act) {verdict : α → Except SessionError β}
    {whole : EStateM SessionError NetworkSession β}
    (hwhole : ∀ s, (whole s).outcome = (act s).outcome.bind verdict ∧
      (whole s).state = (act s).state) : Causal whole where
  goesOn {s x} h := by
    rw [(hwhole s).2]
    exact hact.goesOn h
  prolonged {s x} more h := by
    obtain ⟨houtcome, hstate⟩ := hwhole s
    obtain ⟨houtcome', hstate'⟩ := hwhole (s.followedBy more)
    cases hact.prolonged more h with
    | alike hsame =>
        obtain ⟨hsame, hfollowed⟩ := EStateM.Result.eq_map_state_iff.mp hsame
        refine .alike (EStateM.Result.eq_map_state_iff.mpr ⟨?_, ?_⟩)
        · rw [houtcome', houtcome, hsame]
        · rw [hstate', hstate, hfollowed]
    | starved hgone hleft hempty hleft' hwritten =>
        rw [← hstate] at hleft
        rw [← hstate'] at hleft'
        rw [hgone] at houtcome
        exact .starved houtcome hleft hempty hleft' hwritten

/-- An action that depends on something that the unread bytes do not change is causal if it is so
for each value of that. -/
theorem depending {γ : Type} (setting : NetworkSession → γ)
    (hsetting : ∀ {more s}, setting (s.followedBy more) = setting s)
    {given : γ → EStateM SessionError NetworkSession α} (hgiven : ∀ c, Causal (given c))
    (hact : ∀ s, act s = given (setting s) s) : Causal act where
  goesOn {s x} h := by
    rw [hact]
    exact (hgiven _).goesOn h
  prolonged {s x} more h := by
    rw [hact, hact, hsetting]
    exact (hgiven _).prolonged more h

end Causal

theorem send_causal (request : ClientMessage) : Causal (send request) where
  goesOn {s x} h := by
    rw [send_of_open request h.current]
    split
    · exact ⟨_, ⟨rfl, h.later, h.ended⟩, List.prefix_append _ _⟩
    · exact ⟨_, ⟨rfl, h.later, h.ended⟩, List.prefix_rfl⟩
  prolonged {s x} more h := .alike (send_followed request h more)

/-- A receive leaves the transport as it was, but for what is unread. -/
theorem receive_on_stopped {s : NetworkSession} {x : Transport} (h : s.Hears x) :
    ∃ unread, (receive s).state.connection =
      { s.connection with current := some { x with unread } } := by
  obtain ⟨y, hreception, hleft⟩ := reception h.current
  have hlost : x.interrupted = { x with unread := [] } := by rw [Transport.interrupted, h.later]
  generalize (receive s).outcome = outcome at hreception
  cases hreception with
  | idle | torn => exact ⟨[], by rw [hleft, hlost]⟩
  | whole | refused => exact ⟨_, hleft⟩

theorem receive_goes_on {s : NetworkSession} {x : Transport} (h : s.Hears x) :
    ∃ y, (receive s).state.Hears y ∧ y.written = x.written := by
  obtain ⟨unread, hconnection⟩ := receive_on_stopped h
  exact ⟨{ x with unread }, ⟨by rw [hconnection], h.later, h.ended⟩, rfl⟩

/-- Waiting writes nothing. The induction is on the waiting, as in the next proof. -/
theorem receive_reply_goes_on {s : NetworkSession} {x : Transport} (h : s.Hears x) :
    ∃ y, (receiveReply s).state.Hears y ∧ y.written = x.written := by
  induction s using receiveReply.induct generalizing x with
  | case1 s e t hreceive =>
      rw [receive_reply_of_error hreceive, ← hreceive]
      exact receive_goes_on h
  | case2 s m t hreceive hnotice ih =>
      obtain ⟨y, hy, hwritten⟩ := receive_goes_on h
      rw [hreceive] at hy
      obtain ⟨z, hz, hlater⟩ := ih (hy.learn m)
      rw [receive_reply_of_notice hreceive hnotice]
      exact ⟨z, hz, hlater.trans hwritten⟩
  | case3 s m t hreceive hreply =>
      rw [receive_reply_of_reply hreceive (by simpa using hreply), ← hreceive]
      exact receive_goes_on h

/-- Each message is received in the same way until the bytes run out, so the same reply is found. -/
theorem receive_reply_causal : Causal receiveReply where
  goesOn h := by
    obtain ⟨y, hy, hwritten⟩ := receive_reply_goes_on h
    exact ⟨y, hy, hwritten ▸ List.prefix_rfl⟩
  prolonged {s x} more h := by
    induction s using receiveReply.induct generalizing x with
    | case1 s e t hreceive =>
        rw [receive_reply_of_error hreceive]
        obtain hfollowed | hstarved := receive_followed h more
        · rw [hreceive] at hfollowed
          exact .alike (receive_reply_of_error hfollowed)
        · obtain ⟨y, hy, hwritten⟩ := receive_reply_goes_on (h.followed more)
          rw [← hreceive, hstarved]
          exact .starved rfl ⟨rfl, h.later, h.ended⟩ rfl hy (hwritten ▸ List.prefix_rfl)
    | case2 s m t hreceive hnotice ih =>
        obtain hfollowed | hstarved := receive_followed h more
        · obtain ⟨y, hy, -⟩ := receive_goes_on h
          rw [hreceive] at hfollowed hy
          rw [receive_reply_of_notice hreceive hnotice, receive_reply_of_notice hfollowed hnotice,
            learn_followed]
          exact ih (hy.learn m)
        · cases hreceive.symm.trans hstarved
    | case3 s m t hreceive hreply =>
        have hreply : m.isNotice = false := by simpa using hreply
        obtain hfollowed | hstarved := receive_followed h more
        · rw [hreceive] at hfollowed
          rw [receive_reply_of_reply hreceive hreply]
          exact .alike (receive_reply_of_reply hfollowed hreply)
        · cases hreceive.symm.trans hstarved

theorem exchange_causal (request : ClientMessage) : Causal (exchange request) :=
  (send_causal request).andThen fun _ => receive_reply_causal

theorem request_capability_causal (name : String) (value : Bool) :
    Causal (requestCapability name value) :=
  (exchange_causal _).judged (exchange_judged (capabilityRequest name value) capabilityVerdict)

theorem request_capabilities_causal (wanted : List (Capability × Bool)) :
    Causal (requestCapabilities wanted) := by
  induction wanted with
  | nil => exact .settled (.ok ()) fun _ => ⟨rfl, rfl⟩
  | cons entry rest ih =>
      rw [request_capabilities_cons]
      exact (request_capability_causal _ _).andThen fun _ => ih

theorem react_causal (o : Options) (m : ServerMessage) : Causal (react o m) := by
  cases m with
  | authenticateContinue challenge =>
      have hanswer : Causal (answerChallenge o challenge) :=
        (exchange_causal _).judged
          (exchange_judged (answerRequest o challenge) authenticationVerdict)
      let given (method : AuthMethod) : EStateM SessionError NetworkSession Unit := fun s =>
        if method = .mysql41 then answerChallenge o challenge s
        else .error (.unexpected (.authenticateContinue challenge)) s
      have hgiven (method : AuthMethod) : Causal (given method) := by
        cases method with
        | mysql41 => exact hanswer
        | plain => exact .settled _ fun _ => ⟨rfl, rfl⟩
      exact .depending (·.authMethod) rfl hgiven fun _ => rfl
  | ok | error | capabilities | authenticateOk | notice | other =>
      exact .settled _ fun _ => ⟨rfl, rfl⟩

theorem authenticate_causal (o : Options) : Causal (authenticate o) :=
  .depending (·.authMethod) rfl
    (fun method => (exchange_causal (startRequest o method)).andThen (react_causal o))
    (authenticate_eq o)

theorem proceed_causal (o : Options) (authenticated : Bool) : Causal (proceed o authenticated) := by
  have hlast : Causal (if authenticated then authenticate o else pure ()) := by
    cases authenticated with
    | true => exact authenticate_causal o
    | false => exact .settled (.ok ()) fun _ => ⟨rfl, rfl⟩
  exact .depending (·.capabilities) rfl
    (fun wanted => (request_capabilities_causal wanted).andThen fun _ => hlast) fun _ => rfl

/-! ## Connecting -/

/-- Over a transport that was just opened, what is written are the frames of some messages. -/
theorem establish_writes (o : Options) (authenticated : Bool) {s : NetworkSession} {x : Transport}
    {h : Host} (hdisabled : s.tls = .ok .disabled) (hfresh : x.Fresh h) :
    ∃ (y : Transport) (sent : List ClientMessage),
      (establish o authenticated (s.carriedBy x)).state.connection =
          ⟨some y, s.connection.transports⟩ ∧
        y.written = sent.map fun m => .clear m.frame.encode := by
  obtain ⟨c, hplace⟩ := exists_conversation (s := s.carriedBy x) o authenticated hdisabled
  obtain ⟨y, hconnection, hwritten⟩ := hplace.carried x rfl hfresh.encrypted
  exact ⟨y, _, hconnection, by rw [hwritten.written, hfresh.written, List.nil_append]⟩

/-- A server sends some bytes and stops, or sends more before it stops. What a connect without
encryption sends to the first server is a part, from the beginning, of what it sends to the second
one. If it ran out of bytes it failed, because the first server was gone. Otherwise both connects
end in the same way: they send the same, leave the same client id, and nothing of what the second
server sent in addition is read. -/
theorem connect_prolonged (o : Options) (authenticated : Bool) (s : NetworkSession)
    (hdisabled : s.tls = .ok .disabled) {h h' : Host} {x : Transport} (more : Bytes)
    (hlater : x.later = []) (hended : x.ended = true)
    (hopen : (Host.openTransport o s.ipMode h).outcome = .ok x)
    (hopen' : (Host.openTransport o s.ipMode h').outcome =
      .ok { x with unread := x.unread ++ more }) :
    let r := connect o authenticated (s, h)
    let r' := connect o authenticated (s, h')
    ∃ (y y' : Transport) (sent sent' : List ClientMessage),
      (r.state.1.connection = ⟨some y, s.connection.transports⟩ ∧
          y.written = sent.map fun m => .clear m.frame.encode) ∧
        (r'.state.1.connection = ⟨some y', s.connection.transports⟩ ∧
          y'.written = sent'.map fun m => .clear m.frame.encode) ∧
        sent <+: sent' ∧
        (r.outcome = .error .gone ∧ y.unread = [] ∨
          r'.outcome = r.outcome ∧ sent' = sent ∧
            r'.state.1.clientId = r.state.1.clientId ∧ y'.unread = y.unread ++ more) := by
  intro r r'
  have hopened := EStateM.Result.eq_ok_iff.mpr ⟨hopen, rfl⟩
  have hopened' : Host.openTransport o s.ipMode h' =
      .ok (x.followedBy more) (Host.openTransport o s.ipMode h').state :=
    EStateM.Result.eq_ok_iff.mpr ⟨hopen', rfl⟩
  obtain ⟨houtcome, hstate⟩ := @connect_of_opened o authenticated s _ _ _ hopened
  obtain ⟨houtcome', hstate'⟩ := @connect_of_opened o authenticated s _ _ _ hopened'
  obtain ⟨y, sent, hy, hsent⟩ :=
    establish_writes o authenticated hdisabled (Host.open_transport_fresh hopened).1
  obtain ⟨y', sent', hy', hsent'⟩ :=
    establish_writes o authenticated hdisabled (Host.open_transport_fresh hopened').1
  have hprolonged : Prolonged more (establish o authenticated (s.carriedBy x))
      (establish o authenticated (s.carriedBy (x.followedBy more))) := by
    rw [establish_of_disabled (s := s.carriedBy x) hdisabled,
      establish_of_disabled (s := s.carriedBy (x.followedBy more)) hdisabled]
    exact (proceed_causal o authenticated).prolonged more ⟨rfl, hlater, hended⟩
  simp only [r, r', houtcome, hstate, houtcome', hstate']
  cases hprolonged with
  | alike hsame =>
      obtain ⟨hsame, hfollowed⟩ := EStateM.Result.eq_map_state_iff.mp hsame
      -- The second transport is the first one with the bytes that came in addition.
      have hconnection := (congrArg connection hfollowed).symm.trans hy'
      simp only [followedBy, hy, Option.map_some, Connection.mk.injEq, Option.some.injEq,
        and_true] at hconnection
      subst hconnection
      exact ⟨y, _, sent, sent, ⟨hy, hsent⟩, ⟨hy', hsent⟩, List.prefix_rfl,
        .inr ⟨hsame, rfl, by rw [hfollowed]; rfl, rfl⟩⟩
  | starved hgone hleft hempty hleft' hwritten =>
      have hcurrent := hleft.current
      have hcurrent' := hleft'.current
      rw [hy] at hcurrent
      rw [hy'] at hcurrent'
      cases hcurrent
      cases hcurrent'
      rw [hsent'] at hwritten
      obtain ⟨said, hprefix, hsaid⟩ := List.prefix_map_iff.mp hwritten
      exact ⟨y, y', said, sent', ⟨hy, hsaid⟩, ⟨hy', hsent'⟩, hprefix, .inl ⟨hgone, hempty⟩⟩

/-- A host with a server that sends the bytes and stops. -/
def hostStopping (sent : Bytes) : Host :=
  (Host.new .empty .empty).listenAt "s" [.plain sent true]

/-- A server that stops within the length of its first frame is asked for the capability only. One
that confirms it and admits the client is asked for admission as well, and a byte that comes behind
is left. -/
theorem connect_prolonged_by_replies :
    let run (bytes : Bytes) := connect { socket := "s" } true (askingSession, hostStopping bytes)
    let cut : Bytes := [1, 0]
    let replies : Bytes := cut ++ [0, 0, 0, 1, 0, 0, 0, 4]
    askingSession.tls = .ok .disabled ∧
      (run cut).outcome = .error .gone ∧
      (∃ y y', (run cut).state.1.connection.current = some y ∧ y.written.length = 1 ∧
        (run replies).state.1.connection.current = some y' ∧ y'.written.length = 2 ∧
        y.written <+: y'.written) ∧
      (run replies).outcome = .ok () ∧ (run (replies ++ [9])).outcome = .ok () ∧
      (run (replies ++ [9])).state.1.connection.unread = [9] := by
  intro run cut replies
  let asked (bytes : Bytes) := (run bytes).state.1.connection.current.map (·.written.length)
  have hopen : ∀ bytes ∈ [cut, replies, replies ++ [9]],
      (Host.openTransport { socket := "s" } .any (hostStopping bytes)).outcome.toOption =
        some ((Peer.plain bytes true).transport 0) := by decide +kernel
  simp only [List.forall_mem_cons] at hopen
  obtain ⟨hcut, hreplies, hlonger, -⟩ := hopen
  have hasked : asked cut = some 1 ∧ asked replies = some 2 := by decide +kernel
  have hadmitted : (run replies).outcome = .ok () := Except.eq_ok_of_toOption (by decide +kernel)
  have hunread : (run replies).state.1.connection.unread = [] := by decide +kernel
  obtain ⟨y, y', sent, sent', ⟨hy, hsent⟩, ⟨hy', hsent'⟩, hprefix, hends⟩ :=
    connect_prolonged { socket := "s" } true askingSession rfl [0, 0, 0, 1, 0, 0, 0, 4] rfl rfl
      (Except.eq_ok_of_toOption hcut) (Except.eq_ok_of_toOption hreplies)
  simp only [asked, run, hy, hy', Option.map_some, Option.some.injEq] at hasked
  have hgone : (run cut).outcome = .error .gone := by
    obtain ⟨hgone, -⟩ | ⟨-, rfl, -⟩ := hends
    · exact hgone
    · -- The two runs asked for different things.
      rw [hsent, hsent'] at hasked
      exact absurd (hasked.1.symm.trans hasked.2) (by decide)
  obtain ⟨z, z', _, _, ⟨hz, -⟩, ⟨hz', -⟩, -, hends⟩ :=
    connect_prolonged { socket := "s" } true askingSession rfl [9] rfl rfl
      (Except.eq_ok_of_toOption hreplies) (Except.eq_ok_of_toOption hlonger)
  obtain ⟨hgone', -⟩ | ⟨hsame, -, -, hrest⟩ := hends
  · exact nomatch hadmitted.symm.trans hgone'
  · have hleft : z.unread = [] := by rwa [hz] at hunread
    refine ⟨rfl, hgone, ⟨y, y', by rw [hy], hasked.1, by rw [hy'], hasked.2, ?_⟩, hadmitted,
      hsame.trans hadmitted, ?_⟩
    · rw [hsent, hsent']
      exact hprefix.map _
    · rw [hz']
      exact hrest.trans (by rw [hleft, List.nil_append])

end SessionKeeper
