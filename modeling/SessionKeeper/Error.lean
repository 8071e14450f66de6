/-!
# Errors

A session reports a `SessionError`: a client error code or a code sent by the server, with a text.
The keeper adds misuse by its caller, which never involves the network, and the violation of the
closing exchange.
-/

namespace SessionKeeper

/-! ### Client error codes -/

namespace Code

/-- A local socket could not be connected. -/
def connectionError : UInt32 := 2002

/-- A host could not be connected. -/
def hostError : UInt32 := 2003

/-- A host name has no address. -/
def unknownHost : UInt32 := 2005

/-- The peer is gone. -/
def serverGone : UInt32 := 2006

/-- A message came at the wrong time. -/
def outOfSync : UInt32 := 2014

/-- The TLS exchange failed. -/
def tlsFailed : UInt32 := 2026

/-- The bytes received are no message. -/
def malformedPacket : UInt32 := 2027

/-- Nothing came within the read timeout. -/
def readTimeout : UInt32 := 2500

/-- The TLS options contradict each other or cannot be used. -/
def tlsMisconfigured : UInt32 := 2503

/-- The authentication method is not known. -/
def invalidAuthMethod : UInt32 := 2504

end Code

/-- An error of a session: a client error code, or an error code sent by the server. -/
structure SessionError where
  code : UInt32
  message : String
  deriving DecidableEq, Repr

namespace SessionError

/-- The text shown to a person. -/
def display (e : SessionError) : String :=
  e.message ++ " (code " ++ toString e.code.toNat ++ ")"

/-- The peer is gone. -/
def gone : SessionError :=
  ⟨Code.serverGone, "MySQL server has gone away"⟩

/-- Nothing came within the read timeout. -/
def timedOut : SessionError :=
  ⟨Code.readTimeout, "Read operation failed because of a timeout"⟩

/-- The bytes received are no message, for the given reason. -/
def malformed (detail : String) : SessionError :=
  ⟨Code.malformedPacket, "Lost connection to MySQL server, malformed packet: " ++ detail⟩

end SessionError

/-- What went wrong with an established transport, as far as sessions tell such failures apart. -/
inductive TransportFailure where
  /-- Nothing came in time. -/
  | timeout
  /-- The peer closed or reset the transport. -/
  | disconnected
  /-- Any other failure, with the text of the system. -/
  | other (detail : String)
  deriving DecidableEq, Repr

/-- The session error of a transport failure. -/
def SessionError.ofTransport : TransportFailure → SessionError
  | .timeout => timedOut
  | .disconnected => gone
  | .other detail => ⟨Code.serverGone, detail⟩

/-- Misuse of the keeper by its caller. -/
inductive Misuse where
  | sessionExists (name : String)
  /-- `known` lists the names that there are. -/
  | noSuchSession (name known : String)
  | noActiveSession
  | closeDefault
  deriving DecidableEq, Repr

namespace Misuse

/-- The text shown to a person. -/
def display : Misuse → String
  | sessionExists name => "a session named " ++ name ++ " already exists"
  | noSuchSession name known => "no session named '" ++ name ++ "': " ++ known
  | noActiveSession => "no active session"
  | closeDefault => "cannot close default session"

end Misuse

/-- An error of a keeper operation. -/
inductive KeeperError where
  | misuse (cause : Misuse)
  /-- The closing exchange received something other than the farewell. -/
  | violation (received : String)
  | session (cause : SessionError)
  deriving DecidableEq, Repr

namespace KeeperError

/-- The text shown to a person. -/
def display : KeeperError → String
  | misuse cause => cause.display
  | violation received =>
      "Disconnect was expecting Mysqlx.Ok(bye!), but got " ++ received ++
        " (one or more calls to -->recv are probably missing)"
  | session cause => cause.display

/-- The client error code, if the error has one. -/
def code : KeeperError → Option UInt32
  | misuse _ => none
  | violation _ => some Code.outOfSync
  | session cause => some cause.code

end KeeperError

end SessionKeeper
