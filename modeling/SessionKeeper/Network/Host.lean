import SessionKeeper.Files
import SessionKeeper.Network.Address
import SessionKeeper.Network.Transport

/-!
# Hosts

A host has files and listeners: servers that wait at the path of a local socket or at an address
and port. Each client that connects to a listener meets the next one of its peers. Apart from its
listeners a host reaches nothing.
-/

namespace SessionKeeper

/-- What a client meets behind a listener: all that a transport gets from its peer. -/
structure Peer where
  bytes : Bytes
  later : List Interruption
  /-- Whether it ends its stream. -/
  ends : Bool
  sends : List (Option TransportFailure)
  heard : Bool
  tlsAnswer : TlsAnswer
  deriving DecidableEq, Repr

namespace Peer

/-- A peer that sends bytes and takes whatever is written, with an answer to a TLS handshake. -/
def answering (bytes : Bytes) (ends : Bool) (tlsAnswer : TlsAnswer) : Peer :=
  ⟨bytes, [], ends, [], true, tlsAnswer⟩

/-- A peer that lets every handshake fail. -/
def plain (bytes : Bytes) (ends : Bool) : Peer :=
  answering bytes ends (.refusal "unexpected end of file")

/-- A peer that ends its stream at once. -/
def silent : Peer := plain [] true

/-- The transport to a peer, of which nothing was used yet. -/
def transport (number : Nat) (p : Peer) : Transport where
  number
  unread := p.bytes
  later := p.later
  ended := p.ends
  sends := p.sends
  heard := p.heard
  tlsAnswer := p.tlsAnswer
  encrypted := false
  written := []
  broken := []

end Peer

/-- Where a listener waits. -/
inductive Endpoint where
  /-- At the path of a local socket, given by its names. -/
  | socket (path : List String)
  | address (address : Address) (port : UInt16)
  deriving DecidableEq, Repr

/-- A server that waits for clients. Those beyond the list meet silent peers. -/
structure Listener where
  endpoint : Endpoint
  peers : List Peer
  deriving DecidableEq, Repr

/-- What is outside of a session. -/
structure Host where
  files : Files
  /-- What makes certificates and keys of the contents of files. -/
  reader : TlsReader
  listeners : List Listener
  /-- The number of transports opened so far. -/
  opened : Nat

namespace Host

/-- A host with files and without listeners. -/
def new (files : Files) (reader : TlsReader) : Host := ⟨files, reader, [], 0⟩

/-- A host with a listener at a socket in the working directory. -/
def listenAt (h : Host) (name : String) (peers : List Peer) : Host :=
  { h with
    files := h.files.add name .socket
    listeners := h.listeners ++ [⟨.socket (Files.pathNames name), peers⟩] }

/-- The listeners with the first peer of the given endpoint taken away. -/
def takePeer (endpoint : Endpoint) : List Listener → Option (Peer × List Listener)
  | [] => none
  | l :: listeners =>
      if l.endpoint = endpoint then
        some (l.peers.headD .silent, { l with peers := l.peers.tail } :: listeners)
      else (takePeer endpoint listeners).map fun taken => (taken.1, l :: taken.2)

/-- Connect to a listener, if there is one. -/
def accept (endpoint : Endpoint) (h : Host) : Option (Transport × Host) :=
  (takePeer endpoint h.listeners).map fun taken =>
    (taken.1.transport h.opened, { h with listeners := taken.2, opened := h.opened + 1 })

/-- The number of bytes that the path of a socket must stay below. -/
def socketPathLimit : Nat := 108

/-- Find the socket that a path leads to. -/
def findSocket (h : Host) (path : String) : Except SystemError Unit :=
  if path.toList.contains '\x00' then .error .zeroInSocketPath
  else if socketPathLimit ≤ path.utf8ByteSize then .error .socketPathTooLong
  else
    match h.files.find path with
    | .error e => .error e
    | .ok .socket => .ok ()
    | .ok (.locked error) => .error error
    | .ok _ => .error .refused

/-- The names of a path with the steps back carried out. -/
def plainNames (path : String) : List String :=
  (Files.pathNames path).foldl
    (fun names name => if name = ".." then names.dropLast else names ++ [name]) []

/-- The error of a local socket that cannot be connected. -/
def socketError (path : String) (e : SystemError) : SessionError :=
  ⟨Code.connectionError,
    "Can't connect to local MySQL server through socket '" ++ path ++ "' (" ++ e.text ++ ")"⟩

/-- Connect to a local socket. -/
def connectSocket (path : String) : EStateM SessionError Host Transport := fun h =>
  match h.findSocket path with
  | .error e => .error (socketError path e) h
  | .ok () =>
      match h.accept (.socket (plainNames path)) with
      | none => .error (socketError path .refused) h
      | some (t, h) => .ok t h

/-- The error of a host that has no address. -/
def unknownHost (host detail : String) : SessionError :=
  ⟨Code.unknownHost, "Unknown MySQL server host '" ++ host ++ "' (" ++ detail ++ ")"⟩

/-- The addresses of a host that belong to the wanted family; there must be one. -/
def resolve (host : String) (mode : IpMode) : Except SessionError (List Address) :=
  match Address.lookUp host with
  | .error detail => .error (unknownHost host detail)
  | .ok addresses =>
      let fitting := addresses.filter (Address.fits mode)
      if fitting.isEmpty then .error (unknownHost host ("no " ++ mode.name ++ " address"))
      else .ok fitting

/-- Connect to the first of some addresses that can be reached. The failure of the last one
counts. -/
def connectAny (port : UInt16) (failure : String) :
    List Address → EStateM String Host Transport
  | [] => fun h => .error failure h
  | address :: addresses => fun h =>
      match h.accept (.address address port) with
      | some (t, h) => .ok t h
      | none => connectAny port (Address.unreachable address).text addresses h

/-- Connect to a port of a host given by name or address. -/
def connectPort (host : String) (port : UInt16) (mode : IpMode) :
    EStateM SessionError Host Transport := fun h =>
  match resolve host mode with
  | .error e => .error e h
  | .ok addresses =>
      match connectAny port "" addresses h with
      | .ok t h => .ok t h
      | .error detail h =>
          .error
            ⟨Code.hostError,
              "Can't connect to MySQL server on '" ++ host ++ ":" ++ toString port.toNat ++ "' (" ++
                detail ++ ")"⟩
            h

/-- Open the transport that the options describe. A local socket comes before a host. -/
def openTransport (o : Options) (mode : IpMode) : EStateM SessionError Host Transport :=
  if o.socket.isEmpty then connectPort o.host o.port mode else connectSocket o.socket

end Host

end SessionKeeper
