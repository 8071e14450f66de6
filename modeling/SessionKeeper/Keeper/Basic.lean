import SessionKeeper.Console
import SessionKeeper.Session.Basic
import SessionKeeper.Variables

/-!
# The keeper of named sessions

A keeper owns sessions under names, one of them the default session with the empty name, and knows
which one is active by its name. It publishes connection parameters as script variables, prints on
a console, and counts what becomes of its sessions. Sessions that were let go are kept apart, for
what they sent and received still counts.
-/

namespace SessionKeeper

/-- Sessions `σ` under names, in an environment `ω`. -/
structure Keeper (σ ω : Type) where
  /-- The options that every session starts from. -/
  options : Options
  /-- What is published for the script around the keeper. -/
  published : Variables
  console : Console
  sessions : Table σ
  /-- The name of the active session. -/
  active : Option String
  ledger : Ledger
  /-- The sessions that were let go, the latest first. -/
  retired : List σ
  world : ω

namespace Keeper

/-- The name of the session that is created together with the keeper. -/
def defaultName : String := ""

/-- The user name that asks for a connection without authentication. -/
def noAuthUser : String := "-"

/-- The name under which a session is shown. -/
def shownName (name : String) : String :=
  if name.isEmpty then "default" else name

/-- The variables that publish connection parameters. -/
def publish (o : Options) : Variables :=
  Table.empty
    |>.insert Variables.clientUser o.user
    |>.insert Variables.clientPassword o.password
    |>.insert Variables.clientHost o.host
    |>.insert Variables.clientSocket o.socket
    |>.insert Variables.clientSchema o.schema
    |>.insert Variables.clientPort (toString o.port.toNat)
    |>.insert Variables.tlsMode o.tls.mode

variable {σ ω : Type} [Session σ ω]

/-- A keeper with a default session that is not connected. -/
def new (options : Options) (console : Console) (world : ω) : Keeper σ ω :=
  let made : σ × ω := Session.create world
  { options
    published := publish options
    console
    sessions := Table.empty.insert defaultName made.1
    active := some defaultName
    ledger := .zero
    retired := []
    world := made.2 }

omit [Session σ ω] in
/-- The name of the active session, if there is one. -/
def activeName (k : Keeper σ ω) : Option String :=
  k.active.filter k.sessions.contains

omit [Session σ ω] in
/-- Whether the default session is active. -/
def isDefaultActive (k : Keeper σ ω) : Bool :=
  k.activeName == some defaultName

omit [Session σ ω] in
/-- The names of the sessions in ascending order. -/
def names (k : Keeper σ ω) : List String :=
  k.sessions.sortedNames

omit [Session σ ω] in
/-- The error that a name has no session. -/
def noSuchSession (k : Keeper σ ω) (name : String) : KeeperError :=
  .misuse (.noSuchSession name (", ".intercalate k.names))

omit [Session σ ω] in
/-- The active session. -/
def activeSession (k : Keeper σ ω) : Except KeeperError σ :=
  match k.activeName.bind k.sessions.get? with
  | some session => .ok session
  | none => .error (.misuse .noActiveSession)

omit [Session σ ω] in
/-- Print a text. -/
def print (k : Keeper σ ω) (text : String) : Keeper σ ω :=
  { k with console := k.console.print text }

omit [Session σ ω] in
/-- Print a text in verbose mode. -/
def printVerbose (k : Keeper σ ω) (text : String) : Keeper σ ω :=
  { k with console := k.console.printVerbose text }

omit [Session σ ω] in
/-- Print a text unless it is to be quiet. -/
def printUnless (k : Keeper σ ω) (quiet : Bool) (text : String) : Keeper σ ω :=
  if quiet then k else k.print text

omit [Session σ ω] in
/-- Publish the client id of the active session. -/
def publishClientId (k : Keeper σ ω) (id : UInt64) : Keeper σ ω :=
  { k with published := k.published.insert Variables.activeClientId (toString id.toNat) }

/-- Let an action run on the active session. -/
def onActive {α : Type} (act : EStateM SessionError σ α) :
    EStateM KeeperError (Keeper σ ω) α := fun k =>
  match k.activeName with
  | none => .error (.misuse .noActiveSession) k
  | some name =>
      match k.sessions.get? name with
      | none => .error (.misuse .noActiveSession) k
      | some session =>
          match act session with
          | .ok a session => .ok a { k with sessions := k.sessions.insert name session }
          | .error e session =>
              .error (.session e) { k with sessions := k.sessions.insert name session }

/-- Send a message on the active session. -/
def send (m : ClientMessage) : EStateM KeeperError (Keeper σ ω) Unit :=
  onActive (Channel.send m)

/-- Receive a message on the active session. -/
def receive : EStateM KeeperError (Keeper σ ω) ServerMessage :=
  onActive Channel.receive

/-- Close the transport of the active session. -/
def closeTransport : EStateM KeeperError (Keeper σ ω) Unit :=
  onActive fun session => .ok () (Channel.close session)

/-- The number of messages of a name that the active session received; zero if it does not count
them. -/
def receivedCount (k : Keeper σ ω) (name : String) : Except KeeperError UInt64 :=
  k.activeSession.map fun session => (Session.receivedCount session name).getD 0

omit [Session σ ω] in
/-- Every session that there was, the registered ones first. -/
def everySession (k : Keeper σ ω) : List σ :=
  k.sessions.entries.map Prod.snd ++ k.retired

/-- All counters. -/
def metrics (k : Keeper σ ω) : Metrics :=
  ⟨k.ledger, k.everySession.foldl (fun sum session => sum.add (Session.traffic session)) .zero⟩

end Keeper

end SessionKeeper
