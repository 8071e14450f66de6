import Mathlib.Data.List.Induction
import SessionKeeper.Proofs.Keeper.Inheritance
import SessionKeeper.Proofs.Keeper.Preparation
import SessionKeeper.Proofs.Network.Likeness

/-!
# Connecting the default session again

The default session is connected again and again, and each connect replaces what the one before it
was told, but for one thing: once the capability for expired passwords was asked for, it is asked
for in every later connect. `connect_default_as_first` says that apart from that a connect goes as
the first one of a new keeper would.
-/

namespace SessionKeeper

open NetworkSession

/-- The capability for expired passwords was asked for in a default connect. -/
def AskedEarlier (operations : List Operation) : Prop :=
  ∃ noAuth plain, .connectDefault true noAuth plain ∈ operations

/-- The session asks for the capability for expired passwords when it connects. -/
def NetworkSession.asksForExpired (s : NetworkSession) : Bool :=
  decide ((.expiredPassword, true) ∈ s.capabilities)

/-- A session asks for no capability, or for the one that was asked for earlier. -/
def AsksOnly (operations : List Operation) (s : NetworkSession) : Prop :=
  s.capabilities = [] ∨
    AskedEarlier operations ∧ s.capabilities = [(.expiredPassword, true)]

variable {operations : List Operation} {s t : NetworkSession}

theorem AskedEarlier.later (h : AskedEarlier operations) (operation : Operation) :
    AskedEarlier (operations ++ [operation]) := by
  obtain ⟨noAuth, plain, hmem⟩ := h
  exact ⟨noAuth, plain, List.mem_append_left _ hmem⟩

theorem AsksOnly.of_same (hs : AsksOnly operations s) (h : SameSettings s t) :
    AsksOnly operations t := by
  unfold AsksOnly
  rw [h.capabilities]
  exact hs

theorem AsksOnly.later (hs : AsksOnly operations s) (operation : Operation) :
    AsksOnly (operations ++ [operation]) s :=
  hs.imp_right fun h => ⟨h.1.later operation, h.2⟩

theorem AsksOnly.earlier (hs : AsksOnly operations s) (hasks : s.asksForExpired = true) :
    AskedEarlier operations := by
  obtain hnone | ⟨hearlier, -⟩ := hs
  · rw [NetworkSession.asksForExpired, hnone] at hasks
    cases hasks
  · exact hearlier

/-- What such a session asks for next depends on nothing but whether it asked already. -/
theorem AsksOnly.asked_for_eq (hs : AsksOnly operations s) (expired : Bool) :
    Keeper.askedFor expired s.capabilities = Keeper.askedFor (expired || s.asksForExpired) [] := by
  unfold NetworkSession.asksForExpired
  obtain hnone | ⟨-, hsome⟩ := hs
  · rw [hnone]
    cases expired <;> rfl
  · rw [hsome]
    cases expired <;> rfl

/-- Taking leave does not change what is asked for. -/
theorem asks_only_parting : Keeper.Parting (AsksOnly operations) where
  closed _ hs := hs
  received s hs := hs.of_same (settings_receive s)
  farewell s hs := hs.of_same (settings_send .close s)

namespace Keeper

variable {options : Options} {console : Console} {world : Host}
  {k l : Keeper NetworkSession Host} {expired plain authenticated : Bool}
  {method : AuthMethod} {wanted : List (Capability × Bool)} {challenge : Bytes}

/-- Along every run a session asks for nothing but what was asked for earlier. -/
theorem run_asks_only (options : Options) (console : Console) (world : Host)
    (operations : List Operation) :
    ((new options console world : Keeper NetworkSession Host).run operations).Upholds options
      (AsksOnly operations) (fun _ => True) := by
  induction operations using List.reverseRecOn with
  | nil => exact new_upholds options console world (.inl rfl) trivial
  | append_singleton operations last ih =>
      rw [run_concat]
      refine step_upholds (ih.mono fun session hs => hs.later last) ?_
      refine
        { asks_only_parting with
          created := ⟨.inl rfl, trivial⟩
          sent := fun message session _ hs => hs.of_same (settings_send message session)
          connected := ?_
          named := fun _ _ _ _ _ _ _ =>
            ⟨.of_same (.inl rfl) (settings_of_connect _ _ _ _), trivial⟩ }
      rintro expired noAuth plain session rfl hs
      refine ⟨AsksOnly.of_same ?_ (settings_of_connect _ _ _ _), trivial⟩
      rw [prepare_default_eq]
      cases expired with
      | false => exact hs
      | true =>
          refine .inr ⟨⟨noAuth, plain, List.mem_append_right _ List.mem_cons_self⟩, ?_⟩
          obtain hnone | ⟨-, hasked⟩ := hs
          · simp [askedFor, hnone]
          · simp [askedFor, hasked]

/-- A session that is told to ask does so, apart from what it asks for already. -/
theorem asks_for_expired_asked_for (asked : Bool) :
    decide ((.expiredPassword, true) ∈ askedFor asked []) = asked := by
  cases asked <;> rfl

/-- Default sessions that are told the same connect in the same way. -/
theorem connect_default_alike {asked : Bool} (noAuth : Bool)
    (hs : k.sessions.get? defaultName = some s)
    (ht : l.sessions.get? defaultName = some t) (hoptions : l.options = k.options)
    (hworld : l.world = k.world)
    (hsame : SameSettings (prepareDefault k.options k.world asked plain s)
      (prepareDefault k.options k.world expired plain t)) :
    (connectDefault expired noAuth plain l).outcome =
        (connectDefault asked noAuth plain k).outcome ∧
      (connectDefault expired noAuth plain l).state.world =
        (connectDefault asked noAuth plain k).state.world ∧
      ∃ first again,
        (connectDefault asked noAuth plain k).state.sessions.get? defaultName = some first ∧
        (connectDefault expired noAuth plain l).state.sessions.get? defaultName = some again ∧
        Alike s.connection.transports t.connection.transports first again := by
  obtain ⟨houtcome, hhost, hlike⟩ := connect_alike k.options (!noAuth) hsame k.world
  rw [connection_prepare_default, connection_prepare_default] at hlike
  rcases hfirst : NetworkSession.connect k.options (!noAuth)
      (prepareDefault k.options k.world asked plain s, k.world) with
    ⟨_, first, host⟩ | ⟨e, first, host⟩
  · rcases hagain : NetworkSession.connect k.options (!noAuth)
        (prepareDefault k.options k.world expired plain t, k.world) with
      ⟨_, again, host'⟩ | ⟨e', again, host'⟩
    · rw [hfirst, hagain] at hhost hlike
      rw [connect_default_of_ok hs hfirst]
      rw [← hoptions, ← hworld] at hagain
      rw [connect_default_of_ok ht hagain]
      exact ⟨rfl, hhost, first, again, Table.get?_insert_self _ _ _, Table.get?_insert_self _ _ _,
        hlike⟩
    · rw [hfirst, hagain] at houtcome
      cases houtcome
  · rcases hagain : NetworkSession.connect k.options (!noAuth)
        (prepareDefault k.options k.world expired plain t, k.world) with
      ⟨_, again, host'⟩ | ⟨e', again, host'⟩
    · rw [hfirst, hagain] at houtcome
      cases houtcome
    · rw [hfirst, hagain] at houtcome hhost hlike
      obtain rfl : e' = e := Except.error.inj houtcome
      rw [connect_default_of_error hs hfirst]
      rw [← hoptions, ← hworld] at hagain
      rw [connect_default_of_error ht hagain]
      refine ⟨rfl, hhost, _, _, Table.get?_insert_self _ _ _, Table.get?_insert_self _ _ _, ?_⟩
      split
      · exact hlike
      · exact hlike.close

/-- What a default connect writes on the transport that it opens, if it opens one. -/
theorem connect_default_said (expired noAuth plain : Bool)
    (hs : k.sessions.get? defaultName = some s) :
    ∃ left, (connectDefault expired noAuth plain k).state.sessions.get? defaultName = some left ∧
      left.capabilities = askedFor expired s.capabilities ∧
      (left.connection.transports = s.connection.transports ∨
        ∃ talk y, left.connection.transports = y :: s.connection.transports ∧
          y.written = writtenIn false talk ∧
          ∀ m ∈ sentIn talk, m = tlsRequest ∨ ∃ challenge,
            m ∈ plannedRequests k.options (!noAuth) (if plain then .plain else .mysql41)
              (askedFor expired s.capabilities) challenge) := by
  let prepared := prepareDefault k.options k.world expired plain s
  let left := (NetworkSession.connect k.options (!noAuth) (prepared, k.world)).state.1
  have hsaid := connect_said k.options (!noAuth) prepared k.world
  have hmethod : prepared.authMethod = if plain then .plain else .mysql41 := by
    simp only [prepared, prepare_default_eq]
  have hcapabilities : prepared.capabilities = askedFor expired s.capabilities := by
    simp only [prepared, prepare_default_eq]
  rw [hmethod, hcapabilities, connection_prepare_default] at hsaid
  have hleaves : left.capabilities = askedFor expired s.capabilities :=
    (settings_of_connect _ _ _ _).capabilities.trans hcapabilities
  rcases hconnect : NetworkSession.connect k.options (!noAuth) (prepared, k.world) with
    ⟨_, after, host⟩ | ⟨e, after, host⟩
  · obtain rfl : left = after := by simp only [left, hconnect, EStateM.Result.state_ok]
    rw [connect_default_of_ok hs hconnect]
    exact ⟨left, Table.get?_insert_self _ _ _, hleaves, hsaid⟩
  · obtain rfl : left = after := by simp only [left, hconnect, EStateM.Result.state_error]
    rw [connect_default_of_error hs hconnect]
    refine ⟨_, Table.get?_insert_self _ _ _, ?_⟩
    split
    · exact ⟨hleaves, hsaid⟩
    · refine ⟨hleaves, ?_⟩
      show left.connection.close.transports = _ ∨ ∃ talk y, left.connection.close.transports = _ ∧ _
      rw [Connection.transports_of_close]
      exact hsaid

/-- The capability for expired passwords is requested only if it is asked for. -/
theorem asked_of_planned {value : CapabilityValue}
    (h : .capabilitiesSet Capability.expiredPassword.name value ∈
      plannedRequests options authenticated method (askedFor expired []) challenge) :
    expired = true := by
  cases expired with
  | true => rfl
  | false =>
      obtain ⟨entry, hentry, -⟩ | hstart | hanswer := planned_request_cases h
      · cases hentry
      · cases hstart
      · cases hanswer

/-- Authentication begins with the name of the method. -/
theorem mechanism_of_planned {data : Bytes} {mechanism : String}
    (h : .authenticateStart mechanism data ∈
      plannedRequests options authenticated method wanted challenge) : mechanism = method.name := by
  obtain ⟨entry, -, hentry⟩ | hstart | hanswer := planned_request_cases h
  · cases hentry
  · exact (ClientMessage.authenticateStart.inj hstart).1
  · cases hanswer

/-- A default connect goes as the first one of a new keeper with the same options would, where that
one asks for the capability if it was asked for now or earlier. What was written, received and told
over earlier connections takes no part in it. -/
theorem connect_default_as_first (options : Options) (console : Console) (world : Host)
    (operations : List Operation) (expired noAuth plain : Bool) (before : NetworkSession)
    (hdefault : ((new options console world : Keeper NetworkSession Host).run
      operations).sessions.get? defaultName = some before) :
    let k : Keeper NetworkSession Host := (new options console world).run operations
    let fresh : Keeper NetworkSession Host := new options console k.world
    let asked := expired || before.asksForExpired
    let first := connectDefault asked noAuth plain fresh
    let again := connectDefault expired noAuth plain k
    (before.asksForExpired = true → AskedEarlier operations) ∧
      again.outcome = first.outcome ∧ again.state.world = first.state.world ∧
      ∃ s t, first.state.sessions.get? defaultName = some s ∧
        again.state.sessions.get? defaultName = some t ∧
        t.asksForExpired = asked ∧
        t.clientId = s.clientId ∧
        t.connection.current = s.connection.current ∧
        t.connection.transports = s.connection.transports ++ before.connection.transports ∧
        (s.connection.transports = [] ∨
          ∃ talk y, s.connection.transports = [y] ∧ y.written = writtenIn false talk ∧
            (∀ value, .capabilitiesSet Capability.expiredPassword.name value ∈ sentIn talk →
              asked = true) ∧
            ∀ mechanism data, .authenticateStart mechanism data ∈ sentIn talk →
              (mechanism = AuthMethod.plain.name ↔ plain = true)) := by
  intro k fresh asked first again
  have hupholds : k.Upholds options (AsksOnly operations) fun _ => True :=
    run_asks_only options console world operations
  have hbefore : AsksOnly operations before := hupholds.registered _ _ hdefault
  have hfresh : fresh.sessions.get? defaultName = some NetworkSession.new :=
    Table.get?_insert_self _ _ _
  have hcapabilities : askedFor expired before.capabilities = askedFor asked [] :=
    hbefore.asked_for_eq expired
  -- What differs between the two sessions is their past, which no setting holds.
  have hsame : SameSettings
      (prepareDefault fresh.options fresh.world asked plain NetworkSession.new)
      (prepareDefault fresh.options fresh.world expired plain before) := by
    rw [prepare_default_eq, prepare_default_eq, hcapabilities]
    exact ⟨rfl, rfl, rfl, rfl⟩
  obtain ⟨houtcome, hworld, s, t, hs, ht, hlike⟩ :=
    connect_default_alike noAuth hfresh hdefault hupholds.options rfl hsame
  obtain ⟨left, hleft, hleaves, hsaid⟩ := connect_default_said asked noAuth plain hfresh
  obtain rfl : left = s := Option.some.inj (hleft.symm.trans hs)
  have hasks : t.asksForExpired = asked := by
    rw [asksForExpired, hlike.settings.capabilities, hleaves]
    exact asks_for_expired_asked_for asked
  refine ⟨hbefore.earlier, houtcome, hworld, left, t, hs, ht, hasks, hlike.clientId, hlike.current,
    hlike.transports, ?_⟩
  obtain hnone | ⟨talk, y, htransports, hwritten, hrequests⟩ := hsaid
  · exact .inl hnone
  · refine .inr ⟨talk, y, htransports, hwritten, fun value hmem => ?_,
      fun mechanism data hmem => ?_⟩
    · obtain heq | ⟨challenge, hplanned⟩ := hrequests _ hmem
      · exact absurd (ClientMessage.capabilitiesSet.inj heq).1 (by decide)
      · exact asked_of_planned hplanned
    · obtain heq | ⟨challenge, hplanned⟩ := hrequests _ hmem
      · cases heq
      · rw [mechanism_of_planned hplanned]
        cases plain <;> decide

/-- A host with a server that confirms a capability and then admits the client, to each of two
clients. -/
def confirmingHost : Host :=
  let replies := Frame.encode ⟨0, []⟩ ++ Frame.encode ⟨4, []⟩
  (Host.new .empty .empty).listenAt "s" [.plain replies false, .plain replies false]

/-- After a connect that asked for the capability, one that does not goes as a first one that
does. -/
theorem connect_default_as_first_after_asking :
    let options : Options := { socket := "s", password := "secret" }
    let k : Keeper NetworkSession Host :=
      (new options (Console.new false) confirmingHost).run [.connectDefault true false true]
    ∃ before, k.sessions.get? defaultName = some before ∧ before.asksForExpired = true ∧
      (connectDefault false false true k).outcome =
        (connectDefault true false true
          (new options (Console.new false) k.world : Keeper NetworkSession Host)).outcome := by
  intro options k
  have hcontains : k.sessions.contains defaultName = true := by decide +kernel
  obtain ⟨before, hbefore⟩ := Table.contains_iff_exists.mp hcontains
  have hasks : (k.sessions.get? defaultName).map NetworkSession.asksForExpired = some true := by
    decide +kernel
  rw [hbefore] at hasks
  have hasked : before.asksForExpired = true := Option.some.inj hasks
  have hsame := (connect_default_as_first options (Console.new false) confirmingHost
    [.connectDefault true false true] false false true before hbefore).2.1
  rw [hasked] at hsame
  exact ⟨before, hbefore, hasked, hsame⟩

/-- What was asked for earlier does take part in a later connect: the capability is requested though
it was not asked for, and the first connect of a new keeper does not request it. -/
theorem connect_default_asks_again :
    let options : Options := { socket := "s", password := "secret" }
    let k : Keeper NetworkSession Host :=
      (new options (Console.new false) confirmingHost).run [.connectDefault true false true]
    let fresh : Keeper NetworkSession Host := new options (Console.new false) k.world
    let written : Keeper NetworkSession Host → Option Bytes := fun k =>
      (connectDefault false false true k).state.sessions.get? defaultName
        |>.bind (fun session => session.connection.transports.head?)
        |>.map Transport.clearBytes
    written k =
        some ((capabilityRequest Capability.expiredPassword.name true).frame.encode ++
          (startRequest options .plain).frame.encode) ∧
      written fresh = some (startRequest options .plain).frame.encode := by
  decide +kernel

end Keeper

end SessionKeeper
