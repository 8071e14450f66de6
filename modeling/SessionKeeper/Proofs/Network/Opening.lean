import SessionKeeper.Network.Session
import SessionKeeper.Proofs.Outcome

/-!
# Opening transports

A transport that was just opened carries the next number and nothing was written on it yet;
`open_transport_fresh` says so. Connecting is then a matter of what is said over it, as
`connect_of_opened` states.
-/

namespace SessionKeeper

/-- A transport on which nothing has happened, as it is opened on a host. -/
structure Transport.Fresh (h : Host) (x : Transport) : Prop where
  number : x.number = h.opened
  written : x.written = []
  broken : x.broken = []
  encrypted : x.encrypted = false

theorem Transport.Fresh.nothing_written {h : Host} {x : Transport} (hfresh : x.Fresh h) :
    x.written ++ x.broken = [] := by
  rw [hfresh.written, hfresh.broken, List.append_nil]

namespace Host

variable {o : Options} {mode : IpMode} {h g : Host} {x : Transport}

/-- The second host has the files of the first one, and reads them in the same way. -/
structure SameFiles (h g : Host) : Prop where
  files : g.files = h.files
  reader : g.reader = h.reader

theorem SameFiles.refl (h : Host) : h.SameFiles h :=
  ⟨rfl, rfl⟩

theorem SameFiles.trans {k : Host} (hfirst : h.SameFiles g) (hlater : g.SameFiles k) :
    h.SameFiles k :=
  ⟨hlater.files.trans hfirst.files, hlater.reader.trans hfirst.reader⟩

theorem accept_fresh {endpoint : Endpoint} (haccept : h.accept endpoint = some (x, g)) :
    x.Fresh h ∧ g.opened = h.opened + 1 ∧ h.SameFiles g := by
  simp only [accept, Option.map_eq_some_iff, Prod.mk.injEq] at haccept
  obtain ⟨taken, -, rfl, rfl⟩ := haccept
  exact ⟨⟨rfl, rfl, rfl, rfl⟩, rfl, rfl, rfl⟩

theorem connect_any_fresh {port : UInt16} {failure : String} {addresses : List Address}
    (hconnect : connectAny port failure addresses h = .ok x g) :
    x.Fresh h ∧ g.opened = h.opened + 1 ∧ h.SameFiles g := by
  induction addresses generalizing failure with
  | nil => cases hconnect
  | cons address addresses ih =>
      simp only [connectAny] at hconnect
      split at hconnect
      · next haccept =>
          cases hconnect
          exact accept_fresh haccept
      · exact ih hconnect

theorem connect_any_error {port : UInt16} {failure detail : String} {addresses : List Address}
    (hconnect : connectAny port failure addresses h = .error detail g) : g = h := by
  induction addresses generalizing failure with
  | nil =>
      cases hconnect
      rfl
  | cons address addresses ih =>
      simp only [connectAny] at hconnect
      split at hconnect
      · cases hconnect
      · exact ih hconnect

/-- What is opened is fresh. -/
theorem open_transport_fresh (hopen : openTransport o mode h = .ok x g) :
    x.Fresh h ∧ g.opened = h.opened + 1 ∧ h.SameFiles g := by
  simp only [openTransport] at hopen
  split at hopen
  · simp only [connectPort] at hopen
    split at hopen
    · cases hopen
    · split at hopen
      · next hconnect =>
          cases hopen
          exact connect_any_fresh hconnect
      · cases hopen
  · simp only [connectSocket] at hopen
    split at hopen
    · cases hopen
    · split at hopen
      · cases hopen
      · next haccept =>
          cases hopen
          exact accept_fresh haccept

/-- Where nothing is opened the host stays as it is. -/
theorem open_transport_error {e : SessionError} (hopen : openTransport o mode h = .error e g) :
    g = h := by
  simp only [openTransport] at hopen
  split at hopen
  · simp only [connectPort] at hopen
    split at hopen
    · cases hopen
      rfl
    · split at hopen
      · cases hopen
      · next hconnect =>
          cases hopen
          exact connect_any_error hconnect
  · simp only [connectSocket] at hopen
    split at hopen
    · cases hopen
      rfl
    · split at hopen
      · cases hopen
        rfl
      · cases hopen

end Host

theorem Connection.transports_of_close (c : Connection) :
    c.close = ⟨none, c.transports⟩ := by
  obtain ⟨current, past⟩ := c
  cases current <;> rfl

namespace NetworkSession

variable {o : Options} {authenticated : Bool} {s : NetworkSession} {h g : Host} {x : Transport}

/-- The session over a transport that was just opened. -/
def carriedBy (s : NetworkSession) (x : Transport) : NetworkSession :=
  { s with connection := ⟨some x, s.connection.transports⟩, clientId := 0 }

/-- The session without a transport. -/
def stranded (s : NetworkSession) : NetworkSession :=
  { s with connection := ⟨none, s.connection.transports⟩, clientId := 0 }

theorem connect_of_opened (hopen : Host.openTransport o s.ipMode h = .ok x g) :
    (connect o authenticated (s, h)).outcome = (establish o authenticated (s.carriedBy x)).outcome ∧
      (connect o authenticated (s, h)).state =
        ((establish o authenticated (s.carriedBy x)).state, g) := by
  have hconnection : Connection.connect o s.ipMode (s.connection, h) =
      .ok () (⟨some x, s.connection.transports⟩, g) := by
    simp only [Connection.connect, hopen, Connection.transports_of_close]
  simp only [connect, hconnection, carriedBy]
  cases establish o authenticated
      { s with connection := ⟨some x, s.connection.transports⟩, clientId := 0 } <;>
    exact ⟨rfl, rfl⟩

theorem connect_of_unopened {e : SessionError}
    (hopen : Host.openTransport o s.ipMode h = .error e g) :
    connect o authenticated (s, h) = .error e (s.stranded, h) := by
  obtain rfl := Host.open_transport_error hopen
  simp only [connect, Connection.connect, hopen, Connection.transports_of_close, stranded]

end NetworkSession

end SessionKeeper
