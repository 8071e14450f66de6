import SessionKeeper.Payload.Authentication
import SessionKeeper.Payload.Connection
import SessionKeeper.Text.Quoted
import SessionKeeper.Wire.Frame

/-!
# Messages sent by the client

Four messages suffice to open and close a session: a request to set a capability, the two messages
of an authentication, and the farewell. Each has an id, a name and a payload, and is sent as a
frame.
-/

namespace SessionKeeper

/-- The value that a capability is set to. -/
inductive CapabilityValue where
  | bool (value : Bool)
  | string (value : String)
  deriving DecidableEq, Repr

namespace CapabilityValue

/-- The value as a scalar. -/
def scalar : CapabilityValue → Payload.Scalar
  | bool value => .ofBool value
  | string value => .ofString value

/-- The text of the value: a string stands in quotes. -/
def display : CapabilityValue → String
  | bool true => "true"
  | bool false => "false"
  | string value => Text.quote value

end CapabilityValue

/-- A message sent by the client. -/
inductive ClientMessage where
  | capabilitiesSet (name : String) (value : CapabilityValue)
  | authenticateStart (mechanism : String) (authData : Bytes)
  | authenticateContinue (authData : Bytes)
  | close
  deriving DecidableEq, Repr

namespace ClientMessage

/-- The id of the requests to set capabilities. -/
def capabilitiesSetId : UInt8 := 2

/-- The id of the farewell. -/
def closeId : UInt8 := 3

/-- The id of the message that starts an authentication. -/
def authenticateStartId : UInt8 := 4

/-- The id of the message that goes on with an authentication. -/
def authenticateContinueId : UInt8 := 5

/-- The id of a message, the type of its frame. -/
def id : ClientMessage → UInt8
  | capabilitiesSet .. => capabilitiesSetId
  | authenticateStart .. => authenticateStartId
  | authenticateContinue _ => authenticateContinueId
  | close => closeId

/-- The qualified name of a message. -/
def name : ClientMessage → String
  | capabilitiesSet .. => "Mysqlx.Connection.CapabilitiesSet"
  | authenticateStart .. => "Mysqlx.Session.AuthenticateStart"
  | authenticateContinue _ => "Mysqlx.Session.AuthenticateContinue"
  | close => "Mysqlx.Connection.Close"

/-- The encoded message, without the frame. Authentication data that are empty are left out of the
first message. -/
def payload : ClientMessage → Bytes
  | capabilitiesSet name value =>
      Payload.CapabilitiesSet.schema.encode ⟨some ⟨[⟨name, some (.ofScalar value.scalar)⟩]⟩⟩
  | authenticateStart mechanism authData =>
      Payload.AuthenticateStart.schema.encode
        ⟨mechanism, if authData = [] then none else some authData, none⟩
  | authenticateContinue authData => Payload.AuthenticateContinue.schema.encode ⟨authData⟩
  | close => Payload.Close.schema.encode ⟨⟩

/-- The message as a frame. -/
def frame (m : ClientMessage) : Frame :=
  ⟨m.id, m.payload⟩

end ClientMessage

end SessionKeeper
