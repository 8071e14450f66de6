import SessionKeeper.Network.Host

/-!
# Connections

A connection has at most one transport at a time; connecting closes the one that is there. Closed
transports are kept for what was written on them, but nothing is written on them any more.
-/

namespace SessionKeeper

/-- A connection, open or closed. -/
structure Connection where
  current : Option Transport
  /-- The closed transports, the latest first. -/
  past : List Transport
  deriving DecidableEq, Repr

namespace Connection

/-- A connection that was never open. -/
def new : Connection := ⟨none, []⟩

/-- Whether the connection is open. -/
def isOpen (c : Connection) : Bool := c.current.isSome

/-- Whether the connection is encrypted. -/
def isEncrypted (c : Connection) : Bool := c.current.any (·.encrypted)

/-- Close the connection. -/
def close (c : Connection) : Connection :=
  match c.current with
  | none => c
  | some t => ⟨none, t :: c.past⟩

/-- What the peer has sent and was not read. -/
def unread (c : Connection) : Bytes :=
  match c.current with
  | none => []
  | some t => t.unread

/-- Every transport that there was, the latest first. -/
def transports (c : Connection) : List Transport :=
  c.current.toList ++ c.past

/-- Let an action run on the transport; a closed connection is an error. -/
def onTransport {α : Type} (act : EStateM SessionError Transport α) :
    EStateM SessionError Connection α := fun c =>
  match c.current with
  | none => .error .gone c
  | some t =>
      match act t with
      | .ok a t => .ok a { c with current := some t }
      | .error e t => .error e { c with current := some t }

/-- Write bytes. -/
def write (bytes : Bytes) : EStateM SessionError Connection Unit :=
  onTransport (Transport.write bytes)

/-- Read a frame. -/
def readFrame : EStateM SessionError Connection Frame :=
  onTransport Transport.readFrame

/-- Open the transport that the options describe, in place of the one that is there. -/
def connect (o : Options) (mode : IpMode) : EStateM SessionError (Connection × Host) Unit :=
  fun (c, h) =>
    match Host.openTransport o mode h with
    | .ok t h => .ok () ({ c.close with current := some t }, h)
    | .error e h => .error e (c.close, h)

/-- Encrypt the connection. One that is encrypted already stays as it is, and one whose handshake
fails is closed. -/
def encrypt (config : TlsConfig) : EStateM SessionError Connection Unit := fun c =>
  match c.current with
  | none => .error .gone c
  | some t =>
      if t.encrypted then .ok () c
      else
        match Transport.encrypt config t with
        | .ok () t => .ok () { c with current := some t }
        | .error e t => .error e ({ c with current := some t }).close

@[simp]
theorem isOpen_close (c : Connection) : c.close.isOpen = false := by
  unfold close isOpen
  split
  · next h => simp [h]
  · rfl

/-- Reading a frame shortens what is unread by the size of the frame. -/
theorem length_unread_of_readFrame {c d : Connection} {f : Frame}
    (h : readFrame c = .ok f d) : d.unread.length + f.size = c.unread.length := by
  simp only [readFrame, onTransport] at h
  split at h
  · cases h
  · rename_i t hcurrent
    split at h
    · rename_i hread
      cases h
      simpa [unread, hcurrent] using Transport.length_unread_of_readFrame hread
    · cases h

end Connection

end SessionKeeper
