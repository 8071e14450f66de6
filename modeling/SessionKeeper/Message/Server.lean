import SessionKeeper.Payload.Authentication
import SessionKeeper.Payload.Notice
import SessionKeeper.Payload.Reply
import SessionKeeper.Text.Quoted
import SessionKeeper.Wire.Frame

/-!
# Messages received from the server

The messages of connecting, closing and notices are decoded; every other one keeps its id and its
payload. A message has a name, by which received messages are counted, a summary of one line, and
a text of several lines in which what the server wrote stands in quotes.
-/

namespace SessionKeeper

/-- How bad an error is. -/
inductive Severity where
  | error
  | fatal
  deriving DecidableEq, Repr

/-- The name of a severity. -/
def Severity.name : Severity → String
  | error => "ERROR"
  | fatal => "FATAL"

/-- A message received from the server. -/
inductive ServerMessage where
  | ok (text : String)
  | error (severity : Severity) (code : UInt32) (sqlState text : String)
  | capabilities
  | authenticateContinue (authData : Bytes)
  | authenticateOk
  | notice (type : UInt32) (isLocal : Bool) (payload : Bytes)
  | other (id : UInt8) (payload : Bytes)
  deriving DecidableEq, Repr

namespace ServerMessage

/-- The ids of the messages that are decoded. -/
def okId : UInt8 := 0

/-- The id of error replies. -/
def errorId : UInt8 := 1

/-- The id of the list of capabilities. -/
def capabilitiesId : UInt8 := 2

/-- The id of the message that goes on with an authentication. -/
def authenticateContinueId : UInt8 := 3

/-- The id of the message that ends an authentication. -/
def authenticateOkId : UInt8 := 4

/-- The id of notices. -/
def noticeId : UInt8 := 11

/-- Decode a payload, and turn a failure into an error of the session. -/
def decodePayload {M : Type} (schema : Protobuf.Schema M) (payload : Bytes)
    (build : M → ServerMessage) : Except SessionError ServerMessage :=
  match schema.decode payload with
  | .error e => .error (.malformed e.text)
  | .ok m => .ok (build m)

/-- The message of a frame. -/
def ofFrame (f : Frame) : Except SessionError ServerMessage :=
  if f.type = okId then
    decodePayload Payload.Ok.schema f.payload fun m => .ok (m.message.getD "")
  else if f.type = errorId then
    decodePayload Payload.Error.schema f.payload fun m =>
      .error (if m.severity = some Payload.fatalSeverity then .fatal else .error) m.code m.sqlState
        m.message
  else if f.type = capabilitiesId then .ok .capabilities
  else if f.type = authenticateContinueId then
    decodePayload Payload.AuthenticateContinue.schema f.payload fun m =>
      .authenticateContinue m.authData
  else if f.type = authenticateOkId then .ok .authenticateOk
  else if f.type = noticeId then
    decodePayload Payload.NoticeFrame.schema f.payload fun m =>
      .notice m.type (m.scope == some Payload.localScope) (m.payload.getD [])
  else .ok (.other f.type f.payload)

/-- The id of a message. -/
def id : ServerMessage → UInt8
  | ok _ => okId
  | error .. => errorId
  | capabilities => capabilitiesId
  | authenticateContinue _ => authenticateContinueId
  | authenticateOk => authenticateOkId
  | notice .. => noticeId
  | other id _ => id

/-- The qualified name that belongs to an id. -/
def nameOfId (id : UInt8) : String :=
  match id.toNat with
  | 0 => "Mysqlx.Ok"
  | 1 => "Mysqlx.Error"
  | 2 => "Mysqlx.Connection.Capabilities"
  | 3 => "Mysqlx.Session.AuthenticateContinue"
  | 4 => "Mysqlx.Session.AuthenticateOk"
  | 11 => "Mysqlx.Notice.Frame"
  | 12 => "Mysqlx.Resultset.ColumnMetaData"
  | 13 => "Mysqlx.Resultset.Row"
  | 14 => "Mysqlx.Resultset.FetchDone"
  | 15 => "Mysqlx.Resultset.FetchSuspended"
  | 16 => "Mysqlx.Resultset.FetchDoneMoreResultsets"
  | 17 => "Mysqlx.Sql.StmtExecuteOk"
  | 18 => "Mysqlx.Resultset.FetchDoneMoreOutParams"
  | _ => "Mysqlx.Unknown"

/-- The qualified name of a message. -/
def name (m : ServerMessage) : String :=
  nameOfId m.id

/-- Whether the message is a notice. -/
def isNotice : ServerMessage → Bool
  | notice .. => true
  | _ => false

/-- The texts with which a server may answer a farewell. -/
def farewells : List String := ["bye!", "tchau!"]

/-- Whether the message answers a farewell. -/
def isFarewell : ServerMessage → Bool
  | ok text => farewells.contains text
  | _ => false

/-- The client id that a change of the session's state tells. -/
def clientIdOf (changed : Payload.SessionStateChanged) : Option UInt64 :=
  if changed.parameter = Payload.clientIdAssigned then
    match changed.values with
    | [] => none
    | scalar :: _ => if scalar.type = Payload.unsignedType then scalar.unsigned else none
  else none

/-- The client id that a notice tells. -/
def assignedClientId : ServerMessage → Option UInt64
  | notice type _ payload =>
      if type = Payload.sessionStateChangedType then
        match Payload.SessionStateChanged.schema.decode payload with
        | .error _ => none
        | .ok changed => clientIdOf changed
      else none
  | _ => none

/-- The message on one line. -/
def summary (m : ServerMessage) : String :=
  match m with
  | ok text => m.name ++ "(" ++ text ++ ")"
  | error _ code _ text => m.name ++ "(" ++ toString code.toNat ++ ": " ++ text ++ ")"
  | _ => m.name

/-- The fields of a message that are shown, with the form of their values. -/
def shownFields : ServerMessage → List (String × String)
  | ok text => [("msg", Text.quote text)]
  | error severity code sqlState text =>
      [("severity", severity.name), ("code", toString code.toNat), ("msg", Text.quote text),
        ("sql_state", Text.quote sqlState)]
  | notice type isLocal _ =>
      [("type", toString type.toNat), ("scope", if isLocal then "LOCAL" else "GLOBAL")]
  | other id payload => [("id", toString id.toNat), ("payload_len", toString payload.length)]
  | capabilities | authenticateContinue _ | authenticateOk => []

/-- The message on several lines: its name, its fields, and the closing brace. -/
def display (m : ServerMessage) : String :=
  m.name ++ " \x7b\n" ++
    String.join (m.shownFields.map fun field => "  " ++ field.1 ++ ": " ++ field.2 ++ "\n") ++
    "\x7d\n"

end ServerMessage

end SessionKeeper
