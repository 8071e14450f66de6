import Mathlib.Data.List.Induction
import SessionKeeper.Proofs.Keeper.Inheritance
import SessionKeeper.Proofs.Keeper.Preparation
import SessionKeeper.Proofs.Network.Secrecy

/-!
# What a keeper writes where encryption is required

A transport is discreet if only certain things were written on it, in part or as a whole. Taking
leave and connecting keep all transports discreet, so along every run they are;
`tls_requirement_enforced` says what that means for a keeper whose options require encryption, and
for one whose TLS options are wrong.
-/

namespace SessionKeeper

open NetworkSession

/-- Only what is allowed was written on the transport, or its number is exempt. -/
def Transport.Discreet (allowed : Written → Prop) (exempt : Nat → Prop) (x : Transport) : Prop :=
  (∀ part ∈ x.written ++ x.broken, allowed part) ∨ exempt x.number

/-- Every transport that the session had is discreet. -/
def NetworkSession.Discreet (allowed : Written → Prop) (exempt : Nat → Prop)
    (s : NetworkSession) : Prop :=
  ∀ x ∈ s.connection.transports, x.Discreet allowed exempt

/-- Whatever else is written, the farewell may be. -/
structure AllowsFarewell (allowed : Written → Prop) : Prop where
  clear : allowed (.clear ClientMessage.close.frame.encode)
  encrypted : allowed (.encrypted ClientMessage.close.frame.encode)

namespace NetworkSession

variable {allowed : Written → Prop} {exempt : Nat → Prop} {s t : NetworkSession}

theorem Discreet.mono {others : Nat → Prop} (hs : s.Discreet allowed exempt)
    (himp : ∀ number, exempt number → others number) : s.Discreet allowed others :=
  fun x hx => (hs x hx).imp_right (himp x.number)

theorem Discreet.of_transports (hs : s.Discreet allowed exempt)
    (h : t.connection.transports = s.connection.transports) : t.Discreet allowed exempt := by
  intro x hx
  rw [h] at hx
  exact hs x hx

/-- One more event keeps a session discreet if what it writes is allowed. -/
theorem Discreet.happens {event : Event} (hs : s.Discreet allowed exempt)
    (h : Happens s event t)
    (hparts : ∀ encrypted, ∀ part ∈ event.written encrypted ++ event.broken encrypted,
      allowed part) :
    t.Discreet allowed exempt := by
  cases hcurrent : s.connection.current with
  | none => exact hs.of_transports (by rw [h.on_closed hcurrent])
  | some x =>
      obtain ⟨y, hleft⟩ := (Dialogue.single h).on_transport hcurrent
      have hwritten := hleft.written
      have hbroken := hleft.broken
      rw [writtenIn, parts_in_single] at hwritten
      rw [brokenIn, parts_in_single] at hbroken
      have hx : x ∈ s.connection.transports := by simp [Connection.transports, hcurrent]
      have hpast : ∀ z ∈ s.connection.past, z ∈ s.connection.transports := by
        simp +contextual [Connection.transports]
      intro z hz
      rw [hleft.transports, List.mem_cons] at hz
      obtain rfl | hz := hz
      · obtain hallowed | hexempt := hs x hx
        · refine .inl fun part hpart => ?_
          rw [hwritten, hbroken, List.mem_append, List.mem_append, List.mem_append] at hpart
          obtain (hpart | hpart) | hpart | hpart := hpart
          · exact hallowed part (List.mem_append_left _ hpart)
          · exact hparts x.encrypted part (List.mem_append_left _ hpart)
          · exact hallowed part (List.mem_append_right _ hpart)
          · exact hparts x.encrypted part (List.mem_append_right _ hpart)
        · exact .inr (by rwa [hleft.number])
      · exact hs z (hpast z hz)

/-- Taking leave keeps a session discreet. -/
theorem discreet_parting (hallowed : AllowsFarewell allowed) :
    Keeper.Parting (NetworkSession.Discreet allowed exempt) where
  closed s hs := by
    refine hs.of_transports ?_
    show s.connection.close.transports = _
    rw [Connection.transports_of_close]
    rfl
  received s hs := by
    show (receive s).state.Discreet allowed exempt
    cases h : receive s with
    | error e t => exact hs.happens (.missed h) nofun
    | ok m t =>
        have hlearned : (t.learn m).Discreet allowed exempt := hs.happens (.received h) nofun
        exact hlearned.of_transports (by rw [connection_learn]; rfl)
  farewell s hs := by
    have hfarewell : ∀ encrypted : Bool, ∀ part ∈ [if encrypted then
        Written.encrypted ClientMessage.close.frame.encode
        else .clear ClientMessage.close.frame.encode], allowed part := by
      intro encrypted part hpart
      obtain rfl := List.mem_singleton.mp hpart
      cases encrypted with
      | true => exact hallowed.encrypted
      | false => exact hallowed.clear
    show (send .close s).state.Discreet allowed exempt
    cases h : send .close s with
    | error e t => exact hs.happens (.unsent h) hfarewell
    | ok _ t => exact hs.happens (.sent h) hfarewell

/-- Connecting keeps a session discreet if what it writes is allowed, or the transport is exempt. -/
theorem Discreet.connect {o : Options} {authenticated : Bool} {h : Host}
    (hs : s.Discreet allowed exempt)
    (hnew : ∀ x g talk y, Host.openTransport o s.ipMode h = .ok x g →
      Spoken o authenticated s h x talk y → y.Discreet allowed exempt) :
    (connect o authenticated (s, h)).state.1.Discreet allowed exempt := by
  cases hopen : Host.openTransport o s.ipMode h with
  | error e g =>
      rw [connect_of_unopened hopen]
      exact hs.of_transports rfl
  | ok x g =>
      obtain ⟨talk, y, hspoken⟩ := connect_spoken o authenticated hopen
      intro z hz
      rw [hspoken.transports, List.mem_cons] at hz
      obtain rfl | hz := hz
      · exact hnew x g talk z hopen hspoken
      · exact hs z hz

end NetworkSession

namespace Keeper

/-! ## Runs -/

variable {operations : List Operation}

/-- The transport of that number was opened while a session was created without TLS. -/
def OpenedWithoutTls (start : Keeper NetworkSession Host) (operations : List Operation)
    (number : Nat) : Prop :=
  ∃ earlier name user password schema later,
    operations = earlier ++ .create name user password schema true :: later ∧
      (start.run earlier).world.opened ≤ number ∧
      number < (start.run (earlier ++ [.create name user password schema true])).world.opened

theorem OpenedWithoutTls.later {start : Keeper NetworkSession Host} {number : Nat}
    (h : OpenedWithoutTls start operations number) (operation : Operation) :
    OpenedWithoutTls start (operations ++ [operation]) number := by
  obtain ⟨earlier, name, user, password, schema, later, rfl, hopened⟩ := h
  exact ⟨earlier, name, user, password, schema, later ++ [operation], by simp, hopened⟩

/-- A transport that is opened for a session created without TLS is one of these. -/
theorem OpenedWithoutTls.last {start : Keeper NetworkSession Host}
    {name user password schema : String} {x : Transport} {g : Host}
    (hname : (start.run operations).sessions.contains name = false)
    (hopen : Host.openTransport
      (namedOptions (start.run operations).options user password schema true)
      (start.run operations).options.ipMode (start.run operations).world = .ok x g) :
    OpenedWithoutTls start (operations ++ [.create name user password schema true])
      (start.run operations).world.opened := by
  refine ⟨operations, name, user, password, schema, [], rfl, Nat.le_refl _, ?_⟩
  have hmode : Host.openTransport
      (namedOptions (start.run operations).options user password schema true)
      ((start.run operations).prepared user password schema true).1.ipMode
      (start.run operations).world = .ok x g := by
    rw [prepared_eq, hopen]
  rw [run_concat, step, perform, state_silently, world_create hname]
  exact Nat.lt_of_lt_of_eq (Nat.lt_succ_self _) (opened_of_connect _ _ hmode).symm

/-- What is allowed covers what is written where the policy is the one of the options. -/
structure Covers (allowed : Written → Prop) (policy : Except SessionError TlsPolicy) : Prop
    extends AllowsFarewell allowed where
  said : ∀ {o authenticated s talk r}, s.tls = policy → establishGrammar o authenticated s talk r →
    ∀ part ∈ writtenIn false talk ++ brokenIn false talk, allowed part

/-- Connecting with the policy of the options writes what is allowed. -/
theorem Covers.connect {allowed : Written → Prop} {exempt : Nat → Prop}
    {policy : Except SessionError TlsPolicy} (hcovers : Covers allowed policy) {o : Options}
    {authenticated : Bool} {s : NetworkSession} {h : Host} (hpolicy : s.tls = policy)
    (hs : s.Discreet allowed exempt) :
    (connect o authenticated (s, h)).state.1.Discreet allowed exempt := by
  refine hs.connect fun x g talk y _ hspoken => .inl ?_
  rw [hspoken.written, hspoken.broken]
  exact hcovers.said hpolicy hspoken.grammar

/-- Along every run the transports are discreet, but for those of sessions created without TLS. -/
theorem run_discreet (options : Options) (console : Console) (world : Host)
    {allowed : Written → Prop} (hcovers : Covers allowed (tlsOf options world))
    (hraw : ∀ message, .send message ∉ operations) :
    let start : Keeper NetworkSession Host := new options console world
    (start.run operations).Upholds options
      (NetworkSession.Discreet allowed (OpenedWithoutTls start operations))
      world.SameFiles := by
  intro start
  induction operations using List.reverseRecOn with
  | nil => exact new_upholds options console world nofun (.refl world)
  | append_singleton operations last ih =>
      have hupholds := ih fun message hmem => hraw message (List.mem_append_left _ hmem)
      rw [run_concat]
      refine step_upholds
        (hupholds.mono fun session hs => hs.mono fun number h => h.later last) ?_
      -- The policy is derived anew for every connect, but from files that stay as they are.
      have hpolicy : tlsOf options (start.run operations).world = tlsOf options world :=
        tls_of_files hupholds.world
      refine
        { discreet_parting hcovers.toAllowsFarewell with
          created := ⟨nofun, hupholds.world⟩
          sent := ?_
          connected := ?_
          named := ?_ }
      · rintro message session rfl
        exact absurd (List.mem_append_right _ List.mem_cons_self) (hraw message)
      · intro expired noAuth plain session _ hs
        refine ⟨hcovers.connect ?_ ?_, hupholds.world.trans (files_of_connect _ _ _ _)⟩
        · rw [prepare_default_eq, hpolicy]
        · rw [prepare_default_eq]
          exact hs
      · rintro name user password schema noTls rfl hname
        have hnew : ((start.run operations).prepared user password schema noTls).1.Discreet allowed
            (OpenedWithoutTls start
              (operations ++ [.create name user password schema noTls])) := nofun
        refine ⟨?_, hupholds.world.trans (files_of_connect _ _ _ _)⟩
        rw [← hupholds.options]
        cases noTls with
        | false =>
            have htls : ((start.run operations).prepared user password schema false).1.tls =
                tlsOf options world := by
              rw [prepared_eq, tls_of_named, hupholds.options, hpolicy]
            exact hcovers.connect htls hnew
        | true =>
            refine hnew.connect fun x g talk y hopen hspoken => .inr ?_
            rw [hspoken.number]
            exact .last hname hopen

/-- What may be written in the clear where encryption is required. -/
def guarded : Written → Prop
  | .clear bytes =>
      bytes = tlsRequest.frame.encode ∨ bytes = ClientMessage.close.frame.encode
  | .hello _ | .encrypted _ => True

/-- What may be written where the TLS options are wrong. -/
def farewellOnly : Written → Prop
  | .clear bytes | .encrypted bytes => bytes = ClientMessage.close.frame.encode
  | .hello _ => False

theorem guarded_covers {config : TlsConfig} : Covers guarded (.ok (.required config)) where
  clear := .inr rfl
  encrypted := trivial
  said := by
    intro o authenticated s talk r hrequired hgrammar part hpart
    cases part with
    | clear bytes => exact .inl (clear_of_required hrequired hgrammar hpart)
    | hello | encrypted => exact trivial

theorem farewell_only_covers {e : SessionError} : Covers farewellOnly (.error e) where
  clear := rfl
  encrypted := rfl
  said := by
    intro o authenticated s talk r hwrong hgrammar part hpart
    simp only [establishGrammar, hwrong] at hgrammar
    obtain ⟨rfl, -⟩ := hgrammar
    cases hpart

/-! ## Connecting after a run -/

variable {k : Keeper NetworkSession Host} {expired noAuth plain : Bool}
  {name user password schema : String} {config : TlsConfig} {fault : TlsFault}

/-- Where encryption is required, a default connect that succeeds leaves it encrypted. -/
theorem connect_default_encrypted (hpolicy : tlsOf k.options k.world = .ok (.required config))
    (hok : (connectDefault expired noAuth plain k).outcome = .ok ()) :
    ∃ session, (connectDefault expired noAuth plain k).state.sessions.get? defaultName =
      some session ∧ session.connection.isEncrypted = true := by
  obtain ⟨session, left, world, -, hconnect, hleft⟩ := exists_of_connect_default_ok hok
  have htls : (prepareDefault k.options k.world expired plain session).tls =
      .ok (.required config) := by
    rw [prepare_default_eq, hpolicy]
  exact ⟨left, hleft, encrypted_of_required htls hconnect⟩

/-- So does a session that is created with TLS. -/
theorem create_encrypted (hpolicy : tlsOf k.options k.world = .ok (.required config))
    (hok : (create name user password schema false k).outcome = .ok ()) :
    ∃ session, (create name user password schema false k).state.sessions.get? name =
      some session ∧ session.connection.isEncrypted = true := by
  obtain ⟨left, world, hconnect, hleft⟩ := exists_of_create_ok hok
  have htls : (k.prepared user password schema false).1.tls = .ok (.required config) := by
    rw [prepared_eq, tls_of_named, hpolicy]
  exact ⟨left, hleft, encrypted_of_required htls hconnect⟩

/-- Where the TLS options are wrong, a default connect fails with their fault, and nothing is
written on the transport that it opened. -/
theorem connect_default_misconfigured {session : NetworkSession} {x : Transport} {g : Host}
    (hwrong : tlsOf k.options k.world = .error fault.sessionError)
    (hsession : k.sessions.get? defaultName = some session)
    (hopen : Host.openTransport k.options k.options.ipMode k.world = .ok x g) :
    (connectDefault expired noAuth plain k).outcome = .error (.session fault.sessionError) ∧
      ∃ left, (connectDefault expired noAuth plain k).state.sessions.get? defaultName = some left ∧
        left.connection.transports = x :: session.connection.transports ∧
          x.written ++ x.broken = [] := by
  have htls : (prepareDefault k.options k.world expired plain session).tls =
      .error fault.sessionError := by
    rw [prepare_default_eq, hwrong]
  have hmode : Host.openTransport k.options
      (prepareDefault k.options k.world expired plain session).ipMode k.world = .ok x g := by
    rw [prepare_default_eq, hopen]
  have hconnect := connect_of_misconfigured k.options (!noAuth) htls hmode
  have htransports : ((prepareDefault k.options k.world expired plain session).carriedBy
      x).connection.transports = x :: session.connection.transports := by
    rw [prepare_default_eq]
    rfl
  rw [connect_default_of_error hsession hconnect]
  refine ⟨rfl, _, Table.get?_insert_self _ _ _, ?_,
    (Host.open_transport_fresh hopen).1.nothing_written⟩
  cases keepsTransport fault.sessionError noAuth with
  | true => exact htransports
  | false => exact htransports

/-- So does creating a session with TLS, and the session is let go. -/
theorem create_misconfigured {x : Transport} {g : Host}
    (hwrong : tlsOf k.options k.world = .error fault.sessionError)
    (hname : k.sessions.contains name = false)
    (hopen : Host.openTransport (namedOptions k.options user password schema false)
      k.options.ipMode k.world = .ok x g) :
    (create name user password schema false k).outcome = .error (.session fault.sessionError) ∧
      ∃ left, (create name user password schema false k).state.retired = left :: k.retired ∧
        left.connection.transports = [x] ∧ x.written ++ x.broken = [] := by
  have htls : (k.prepared user password schema false).1.tls = .error fault.sessionError := by
    rw [prepared_eq, tls_of_named, hwrong]
  have hconnect := connect_of_misconfigured (namedOptions k.options user password schema false)
    (user != noAuthUser) htls hopen
  rw [create_of_error hname hconnect]
  exact ⟨rfl, _, rfl, rfl, (Host.open_transport_fresh hopen).1.nothing_written⟩

/-- Along every run in which no message is sent by hand: where the options require encryption, only
the request for it and the farewell are written in the clear, in part or as a whole, and a connect
that succeeds is encrypted; where the TLS options are wrong, a connect writes nothing. Sessions that
are created without TLS are the exception. -/
theorem tls_requirement_enforced (options : Options) (console : Console) (world : Host)
    (operations : List Operation) (hraw : ∀ message, .send message ∉ operations) :
    let start : Keeper NetworkSession Host := new options console world
    let k := start.run operations
    (∀ config, TlsPolicy.ofOptions world.reader world.files options.tls = .ok (.required config) →
      (∀ session ∈ k.everySession, ∀ x ∈ session.connection.transports,
        (∀ bytes, .clear bytes ∈ x.written ++ x.broken →
          bytes = tlsRequest.frame.encode ∨ bytes = ClientMessage.close.frame.encode ∨
            OpenedWithoutTls start operations x.number) ∧
        ∀ m : ClientMessage, .clear m.frame.encode ∈ x.written ++ x.broken →
          m = .capabilitiesSet "tls" (.bool true) ∨ m = .close ∨
            OpenedWithoutTls start operations x.number) ∧
      (∀ expired noAuth plain, (connectDefault expired noAuth plain k).outcome = .ok () →
        ∃ session, (connectDefault expired noAuth plain k).state.sessions.get? defaultName =
          some session ∧ session.connection.isEncrypted = true) ∧
      ∀ name user password schema, (create name user password schema false k).outcome = .ok () →
        ∃ session, (create name user password schema false k).state.sessions.get? name =
          some session ∧ session.connection.isEncrypted = true) ∧
    ∀ fault, TlsPolicy.ofOptions world.reader world.files options.tls = .error fault →
      fault.sessionError.code = Code.tlsMisconfigured ∧
      (∀ session ∈ k.everySession, ∀ x ∈ session.connection.transports,
        ∀ part ∈ x.written ++ x.broken,
          part = .clear ClientMessage.close.frame.encode ∨
            part = .encrypted ClientMessage.close.frame.encode ∨
              OpenedWithoutTls start operations x.number) ∧
      (∀ expired noAuth plain session x g, k.sessions.get? defaultName = some session →
        Host.openTransport options options.ipMode k.world = .ok x g →
          (connectDefault expired noAuth plain k).outcome =
              .error (.session fault.sessionError) ∧
            ∃ left, (connectDefault expired noAuth plain k).state.sessions.get? defaultName =
              some left ∧ left.connection.transports = x :: session.connection.transports ∧
                x.written ++ x.broken = []) ∧
      ∀ name user password schema x g, k.sessions.contains name = false →
        Host.openTransport (namedOptions options user password schema false) options.ipMode
          k.world = .ok x g →
          (create name user password schema false k).outcome =
              .error (.session fault.sessionError) ∧
            ∃ left, (create name user password schema false k).state.retired =
              left :: k.retired ∧ left.connection.transports = [x] ∧
                x.written ++ x.broken = [] := by
  intro start k
  constructor
  · intro config hrequired
    have htls : tlsOf options world = .ok (.required config) := by
      rw [tlsOf, hrequired]
      rfl
    have hcovers : Covers guarded (tlsOf options world) := by
      rw [htls]
      exact guarded_covers
    have hupholds : k.Upholds _ _ _ := run_discreet options console world hcovers hraw
    have hpolicy : tlsOf k.options k.world = .ok (.required config) := by
      rw [hupholds.options, tls_of_files hupholds.world, htls]
    refine ⟨fun session hsession x hx => ?_, fun expired noAuth plain =>
      connect_default_encrypted hpolicy, fun name user password schema => create_encrypted hpolicy⟩
    have hclear : ∀ bytes, .clear bytes ∈ x.written ++ x.broken →
        bytes = tlsRequest.frame.encode ∨ bytes = ClientMessage.close.frame.encode ∨
          OpenedWithoutTls start operations x.number := by
      intro bytes hbytes
      obtain hguarded | hexempt := hupholds.every_session session hsession x hx
      · exact (hguarded _ hbytes).imp_right .inl
      · exact .inr (.inr hexempt)
    refine ⟨hclear, fun m hm => ?_⟩
    obtain hrequest | hfarewell | hexempt := hclear _ hm
    · exact .inl (ClientMessage.eq_of_encode_eq accepted_tls_request hrequest)
    · exact .inr (.inl (ClientMessage.eq_of_encode_eq ClientMessage.accepted_close hfarewell))
    · exact .inr (.inr hexempt)
  · intro fault hwrong
    have htls : tlsOf options world = .error fault.sessionError := by
      rw [tlsOf, hwrong]
      rfl
    have hcovers : Covers farewellOnly (tlsOf options world) := by
      rw [htls]
      exact farewell_only_covers
    have hupholds : k.Upholds _ _ _ := run_discreet options console world hcovers hraw
    have hpolicy : tlsOf k.options k.world = .error fault.sessionError := by
      rw [hupholds.options, tls_of_files hupholds.world, htls]
    rw [← hupholds.options]
    refine ⟨rfl, fun session hsession x hx part hpart => ?_,
      fun expired noAuth plain session x g => connect_default_misconfigured hpolicy,
      fun name user password schema x g => create_misconfigured hpolicy⟩
    obtain hfarewell | hexempt := hupholds.every_session session hsession x hx
    · have hallowed := hfarewell part hpart
      cases part with
      | clear bytes => exact .inl (congrArg _ hallowed)
      | encrypted bytes => exact .inr (.inl (congrArg _ hallowed))
      | hello config => cases hallowed
    · exact .inr (.inr hexempt)

/-- A host with a server that grants encryption, begins the handshake at once, and admits the client
after it. -/
def grantingHost : Host :=
  (Host.new .empty .empty).listenAt "s"
    [.answering (Frame.encode ⟨0, []⟩ ++ [22, 3, 3]) false (.success (Frame.encode ⟨4, []⟩) [])]

/-- The password goes to that server, but nothing in the clear other than the request. -/
theorem tls_requirement_enforced_on_connect :
    let options : Options := { socket := "s", password := "secret", tls := { mode := "REQUIRED" } }
    let operations : List Operation := [.connectDefault false false true]
    let start : Keeper NetworkSession Host := new options (Console.new false) grantingHost
    let k := start.run operations
    (∀ message, .send message ∉ operations) ∧
      k.everySession.map (fun session => session.connection.transports.map Transport.clearBytes) =
        [[tlsRequest.frame.encode]] ∧
      ∀ session ∈ k.everySession, ∀ x ∈ session.connection.transports,
        (∀ bytes, .clear bytes ∈ x.written ++ x.broken →
          bytes = tlsRequest.frame.encode ∨ bytes = ClientMessage.close.frame.encode ∨
            OpenedWithoutTls start operations x.number) ∧
        ∀ m : ClientMessage, .clear m.frame.encode ∈ x.written ++ x.broken →
          m = .capabilitiesSet "tls" (.bool true) ∨ m = .close ∨
            OpenedWithoutTls start operations x.number := by
  intro options operations start k
  have hraw : ∀ message, .send message ∉ operations := by simp [operations]
  obtain ⟨config, hrequired⟩ : ∃ config,
      TlsPolicy.ofOptions grantingHost.reader grantingHost.files { mode := "REQUIRED" } =
        .ok (.required config) :=
    ⟨_, rfl⟩
  have henforced :=
    (tls_requirement_enforced options (Console.new false) grantingHost operations hraw).1 config
      hrequired
  have hwritten :
      k.everySession.map (fun session => session.connection.transports.map Transport.clearBytes) =
        [[tlsRequest.frame.encode]] := by
    decide +kernel
  exact ⟨hraw, hwritten, henforced.1⟩

end Keeper

end SessionKeeper
