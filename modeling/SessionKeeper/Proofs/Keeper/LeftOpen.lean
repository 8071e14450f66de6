import Mathlib.Data.List.Basic
import SessionKeeper.Proofs.Keeper.Preparation
import SessionKeeper.Proofs.Network.Failure

/-!
# The transport of a default connect that failed

After a default connect that failed, the keeper leaves the transport open for a caller who is to close
it in due course; it does so by the code of the error. `connect_default_left_open` says when the
transport is left open, and why it may be: the TLS options are wrong, as is intended, or the server
sent an error with the code that belongs to wrong TLS options.
-/

namespace SessionKeeper.Keeper

variable {k : Keeper NetworkSession Host} {s left : NetworkSession} {expired noAuth plain : Bool}
  {e : SessionError}

/-- Why a default connect fails with the code of wrong TLS options. -/
inductive Misled (k : Keeper NetworkSession Host) (expired plain : Bool) (s left : NetworkSession)
    (e : SessionError) : Prop where
  /-- The options are wrong, and nothing was said over the transport. -/
  | options (fault : TlsFault) (x : Transport)
      (hpolicy : TlsPolicy.ofOptions k.world.reader k.world.files k.options.tls = .error fault)
      (herror : e = fault.sessionError) (hopen : left.connection.current = some x)
      (hunsaid : x.written = [])
  /-- The last message over the transport is an error of the server with that code. -/
  | server (policy : TlsPolicy) (x : Transport) (g : Host) (talk : List Event)
      (severity : Severity) (state : String)
      (hpolicy : TlsPolicy.ofOptions k.world.reader k.world.files k.options.tls = .ok policy)
      (hopen : Host.openTransport k.options k.options.ipMode k.world = .ok x g)
      (htalk : Dialogue ((prepareDefault k.options k.world expired plain s).carriedBy x) talk left)
      (hlast : (receivedIn talk).getLast? =
        some (.error severity Code.tlsMisconfigured state e.message))

theorem keepsTransport_iff : keepsTransport e noAuth = true ↔
    noAuth = false ∧ e.code = Code.tlsMisconfigured := by
  simp [keepsTransport, and_comm]

/-- A connect that fails with the code of wrong TLS options leaves its transport open, for one of two
reasons. -/
theorem misled_of_connect {world : Host}
    (hconnect : NetworkSession.connect k.options (!noAuth)
      (prepareDefault k.options k.world expired plain s, k.world) = .error e (left, world))
    (hcode : e.code = Code.tlsMisconfigured) :
    left.connection.isOpen = true ∧ Misled k expired plain s left e := by
  obtain ⟨x, g, talk, hopen, htalk, hleft, hcause⟩ :=
    connect_failed_as_misconfigured (by rw [hconnect]; rfl) hcode
  rw [hconnect] at htalk hleft
  have htls : (prepareDefault k.options k.world expired plain s).tls = tlsOf k.options k.world := by
    rw [prepare_default_eq]
  have hmode : (prepareDefault k.options k.world expired plain s).ipMode = k.options.ipMode := by
    rw [prepare_default_eq]
  rw [htls] at hcause
  rw [hmode] at hopen
  refine ⟨hleft, ?_⟩
  obtain ⟨hwrong, rfl⟩ | ⟨⟨policy, hpolicy⟩, severity, state, hlast⟩ := hcause
  · obtain ⟨fault, hfault, rfl⟩ := tls_of_eq_error_iff.mp hwrong
    cases htalk
    exact .options fault x hfault rfl rfl (Host.open_transport_fresh hopen).1.written
  · exact .server policy x g talk severity state (tls_of_eq_ok_iff.mp hpolicy) hopen htalk hlast

/-- After a default connect that failed with an error of its session, the transport is open exactly if
the connect was to authenticate and the code is the one of wrong TLS options. Then the options are
wrong and nothing was said, or the options are right and the server sent an error with that code as
its last message. -/
theorem connect_default_left_open
    (hfail : (connectDefault expired noAuth plain k).outcome = .error (.session e)) :
    ∃ s left, k.sessions.get? defaultName = some s ∧
      (connectDefault expired noAuth plain k).state.sessions.get? defaultName = some left ∧
      (Channel.isOpen left = true ↔ noAuth = false ∧ e.code = Code.tlsMisconfigured) ∧
      (Channel.isOpen left = true → Misled k expired plain s left e) := by
  obtain ⟨s, left, world, hs, hconnect, hleft⟩ := exists_of_connect_default_error hfail
  refine ⟨s, _, hs, hleft, ?_⟩
  cases hkeeps : keepsTransport e noAuth with
  | true =>
      obtain ⟨hauthenticated, hcode⟩ := keepsTransport_iff.mp hkeeps
      obtain ⟨hopen, hmisled⟩ := misled_of_connect hconnect hcode
      exact ⟨⟨fun _ => ⟨hauthenticated, hcode⟩, fun _ => hopen⟩, fun _ => hmisled⟩
  | false =>
      have hclosed : Channel.isOpen (Channel.close left) = false := Channel.isOpen_close left
      rw [if_neg nofun, hclosed, ← keepsTransport_iff, hkeeps]
      exact ⟨Iff.rfl, nofun⟩

/-- A host with a server that refuses every client with the error of the given code, written as a
payload has it. -/
def refusingHost (code : Bytes) : Host :=
  let payload : Bytes := [8, 0, 16] ++ code ++ [26, 2, 110, 111, 34, 5, 72, 89, 48, 48, 48]
  (Host.new .empty .empty).listenAt "s" [.plain (Frame.encode ⟨1, payload⟩) false]

/-- A keeper without TLS options whose server refuses with an error of the given code. -/
def refusedKeeper (code : Bytes) : Keeper NetworkSession Host :=
  new { socket := "s", password := "secret" } (Console.new false) (refusingHost code)

/-- A server that denies access makes the client close the transport. -/
theorem connect_default_left_open_not_if_denied :
    (connectDefault false false true (refusedKeeper [149, 8])).outcome =
        .error (.session ⟨1045, "no"⟩) ∧
      ∃ left, (connectDefault false false true (refusedKeeper [149, 8])).state.sessions.get?
          defaultName = some left ∧ Channel.isOpen left = false := by
  have hfail : (connectDefault false false true (refusedKeeper [149, 8])).outcome =
      .error (.session ⟨1045, "no"⟩) := by decide +kernel
  obtain ⟨-, left, -, hleft, hopen, -⟩ := connect_default_left_open hfail
  refine ⟨hfail, left, hleft, Bool.eq_false_iff.mpr fun h => ?_⟩
  exact absurd (hopen.mp h).2 (by decide)

/-- A server that refuses with the code of wrong TLS options keeps the transport open though the
options are right. -/
theorem connect_default_left_open_by_server :
    let k := refusedKeeper [199, 19]
    TlsPolicy.ofOptions k.world.reader k.world.files k.options.tls = .ok .disabled ∧
      (connectDefault false false true k).outcome =
        .error (.session ⟨Code.tlsMisconfigured, "no"⟩) ∧
      ((connectDefault false false true k).state.sessions.get? defaultName).map Channel.isOpen =
        some true := by
  intro k
  refine ⟨rfl, ?_, ?_⟩
  · decide +kernel
  · decide +kernel

end SessionKeeper.Keeper
