import SessionKeeper.Authentication
import SessionKeeper.Network.Connection
import SessionKeeper.Session.Basic
import SessionKeeper.Session.Tally

/-!
# Sessions over the network

To connect, a session opens a transport, encrypts it if the policy wants that, sets its
capabilities, and authenticates. Each request waits for its reply; notices that come before the
reply are passed over, but for the client id that they may tell. Every message received takes bytes
from the transport, so waiting ends.
-/

namespace SessionKeeper

/-- A session over the network. -/
structure NetworkSession where
  connection : Connection
  /-- The names of the messages received, if they are counted. -/
  received : Option Tally
  traffic : Traffic
  /-- What the TLS options ask for, or what is wrong with them. -/
  tls : Except SessionError TlsPolicy
  capabilities : List (Capability × Bool)
  authMethod : AuthMethod
  ipMode : IpMode
  clientId : UInt64

/-- The error of a reply that does not fit the request. -/
def SessionError.unexpected (m : ServerMessage) : SessionError :=
  ⟨Code.malformedPacket, "Unexpected response received from server: " ++ m.summary⟩

namespace NetworkSession

/-- A session that is not connected. -/
def new : NetworkSession :=
  ⟨.new, none, .zero, .ok .disabled, [], .mysql41, .any, 0⟩

/-- Send a message. -/
def send (m : ClientMessage) : EStateM SessionError NetworkSession Unit := fun s =>
  match s.connection.write m.frame.encode with
  | .error e connection => .error e { s with connection }
  | .ok () connection =>
      .ok () { s with connection, traffic := s.traffic.countSent m.frame.size }

/-- Receive a message. A frame counts as traffic even if it is no message. -/
def receive : EStateM SessionError NetworkSession ServerMessage := fun s =>
  match s.connection.readFrame with
  | .error e connection => .error e { s with connection }
  | .ok frame connection =>
      let s := { s with connection, traffic := s.traffic.countReceived frame.size }
      match ServerMessage.ofFrame frame with
      | .error e => .error e s
      | .ok m => .ok m { s with received := s.received.map (m.name :: ·) }

/-- Take over the client id that a message tells. -/
def learn (s : NetworkSession) (m : ServerMessage) : NetworkSession :=
  match m.assignedClientId with
  | none => s
  | some id => { s with clientId := id }

@[simp]
theorem connection_learn (s : NetworkSession) (m : ServerMessage) :
    (s.learn m).connection = s.connection := by
  unfold learn
  split <;> rfl

/-- A message received takes bytes from the transport. -/
theorem length_unread_of_receive {s t : NetworkSession} {m : ServerMessage}
    (h : receive s = .ok m t) : t.connection.unread.length < s.connection.unread.length := by
  simp only [receive] at h
  split at h
  · cases h
  · rename_i frame connection hread
    split at h
    · cases h
    · cases h
      have hsize := Connection.length_unread_of_readFrame hread
      simp only [Frame.size] at hsize
      show connection.unread.length < s.connection.unread.length
      omega

/-- Receive the next message that is no notice. -/
def receiveReply (s : NetworkSession) : EStateM.Result SessionError NetworkSession ServerMessage :=
  match _ : receive s with
  | .error e s => .error e s
  | .ok m next => if m.isNotice then receiveReply (next.learn m) else .ok m next
termination_by s.connection.unread.length
decreasing_by
  rw [connection_learn]
  exact length_unread_of_receive ‹receive s = _›

/-- What a reply says about a request to set a capability. -/
def capabilityVerdict : ServerMessage → Except SessionError Unit
  | .ok _ => .ok ()
  | .error _ code _ text => .error ⟨code, text⟩
  | m => .error (.unexpected m)

/-- What a reply says about an authentication. -/
def authenticationVerdict : ServerMessage → Except SessionError Unit
  | .authenticateOk => .ok ()
  | .error _ code _ text => .error ⟨code, text⟩
  | m => .error (.unexpected m)

/-- Wait for a reply, and let it decide. -/
def await (verdict : ServerMessage → Except SessionError Unit) :
    EStateM SessionError NetworkSession Unit := fun s =>
  match receiveReply s with
  | .error e s => .error e s
  | .ok m s =>
      match verdict m with
      | .ok () => .ok () s
      | .error e => .error e s

/-- Set a capability of the connection. -/
def requestCapability (name : String) (value : Bool) : EStateM SessionError NetworkSession Unit :=
  fun s =>
    match send (.capabilitiesSet name (.bool value)) s with
    | .error e s => .error e s
    | .ok () s => await capabilityVerdict s

/-- Set capabilities, one after the other. -/
def requestCapabilities : List (Capability × Bool) → EStateM SessionError NetworkSession Unit
  | [] => fun s => .ok () s
  | (capability, value) :: rest => fun s =>
      match requestCapability capability.name value s with
      | .error e s => .error e s
      | .ok () s => requestCapabilities rest s

/-- The capability that asks for encryption. -/
def tlsCapability : String := "tls"

/-- Encrypt the connection. -/
def encrypt (config : TlsConfig) : EStateM SessionError NetworkSession Unit := fun s =>
  match s.connection.encrypt config with
  | .ok () connection => .ok () { s with connection }
  | .error e connection => .error e { s with connection }

/-- Encrypt the connection if the policy wants that. If it only prefers it, a failed request is no
obstacle as long as the server is there. -/
def negotiateTls (policy : TlsPolicy) : EStateM SessionError NetworkSession Unit := fun s =>
  match policy with
  | .disabled => .ok () s
  | .preferred config =>
      match requestCapability tlsCapability true s with
      | .ok () s => encrypt config s
      | .error e s => if e.code = Code.serverGone then .error e s else .ok () s
  | .required config =>
      match requestCapability tlsCapability true s with
      | .ok () s => encrypt config s
      | .error e s => .error e s

/-- The data that the first message of an authentication carries. -/
def initialData (o : Options) : AuthMethod → Bytes
  | .plain => Authentication.plainData o
  | .mysql41 => []

/-- Answer a challenge, and wait for the verdict. -/
def answerChallenge (o : Options) (challenge : Bytes) : EStateM SessionError NetworkSession Unit :=
  fun s =>
    match send (.authenticateContinue (Authentication.challengeData o challenge)) s with
    | .error e s => .error e s
    | .ok () s => await authenticationVerdict s

/-- Authenticate. A challenge is answered once, and only by the method that knows challenges. -/
def authenticate (o : Options) : EStateM SessionError NetworkSession Unit := fun s =>
  match send (.authenticateStart s.authMethod.name (initialData o s.authMethod)) s with
  | .error e s => .error e s
  | .ok () s =>
      match receiveReply s with
      | .error e s => .error e s
      | .ok (.authenticateContinue challenge) s =>
          if s.authMethod = .mysql41 then answerChallenge o challenge s
          else .error (.unexpected (.authenticateContinue challenge)) s
      | .ok m s =>
          match authenticationVerdict m with
          | .ok () => .ok () s
          | .error e => .error e s

/-- Carry out what the options ask for on a transport that was just opened. If the TLS options are
wrong nothing is sent. -/
def establish (o : Options) (authenticated : Bool) : EStateM SessionError NetworkSession Unit :=
  fun s =>
    match s.tls with
    | .error e => .error e s
    | .ok policy =>
        match negotiateTls policy s with
        | .error e s => .error e s
        | .ok () s =>
            match requestCapabilities s.capabilities s with
            | .error e s => .error e s
            | .ok () s => if authenticated then authenticate o s else .ok () s

/-- Open a transport and connect over it. -/
def connect (o : Options) (authenticated : Bool) :
    EStateM SessionError (NetworkSession × Host) Unit := fun (s, h) =>
  match Connection.connect o s.ipMode (s.connection, h) with
  | .error e (connection, h) => .error e ({ s with connection, clientId := 0 }, h)
  | .ok () (connection, h) =>
      match establish o authenticated { s with connection, clientId := 0 } with
      | .error e s => .error e (s, h)
      | .ok () s => .ok () (s, h)

/-- Take over the TLS options. -/
def setTls (h : Host) (o : Options) (s : NetworkSession) : NetworkSession :=
  { s with tls := (TlsPolicy.ofOptions h.reader h.files o.tls).mapError TlsFault.sessionError }

/-- Ask for a capability in later connects. -/
def setCapability (capability : Capability) (value : Bool) (s : NetworkSession) : NetworkSession :=
  { s with
    capabilities :=
      s.capabilities.filter (fun entry => entry.1 ≠ capability) ++ [(capability, value)] }

end NetworkSession

instance : Channel NetworkSession where
  send := NetworkSession.send
  receive := NetworkSession.receive
  isOpen s := s.connection.isOpen
  close s := { s with connection := s.connection.close }
  isOpen_close s := Connection.isOpen_close s.connection

instance : Session NetworkSession Host where
  create h := (.new, h)
  setTls := NetworkSession.setTls
  countMessages s := { s with received := s.received.or (some []) }
  setCapability := NetworkSession.setCapability
  setAuthMethod method s := { s with authMethod := method }
  setIpMode mode s := { s with ipMode := mode }
  connect := NetworkSession.connect
  clientId s := s.clientId
  receivedCount s name := s.received.map (Tally.of · name)
  traffic s := s.traffic
  isOpen_create _ := rfl
  receivedCount_create _ _ := rfl

end SessionKeeper
