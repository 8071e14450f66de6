import SessionKeeper.Session.Basic
import SessionKeeper.Session.Tally

/-!
# Scripted sessions

A scripted session needs no server: a script says how its connects end and what it receives.
Sessions are numbered in the order in which they are created, and each number has its script.
-/

namespace SessionKeeper

/-- What happens to one session. -/
structure Script where
  clientId : UInt64
  /-- How successive connects end, `none` for success; later ones succeed. -/
  connects : List (Option SessionError)
  /-- What is received after a successful connect. -/
  replies : List (Except SessionError ServerMessage)
  /-- The error with which every send fails. -/
  sendFailure : Option SessionError
  /-- Whether received messages are counted when that is asked for. -/
  counts : Bool

/-- The script of a session about which nothing is said: it connects, and the server answers a
farewell. -/
def Script.standard (number : Nat) : Script :=
  ⟨UInt64.ofNat number, [], [.ok (.ok "bye!")], none, true⟩

/-- A session that follows a script. -/
structure Scripted where
  number : Nat
  script : Script
  /-- How the connects still to come end. -/
  connects : List (Option SessionError)
  /-- What is still to be received. -/
  replies : List (Except SessionError ServerMessage)
  connected : Bool
  received : Option Tally

namespace Scripted

/-- The session of a script, not connected. -/
def new (number : Nat) (script : Script) : Scripted :=
  ⟨number, script, script.connects, [], false, none⟩

/-- Sending succeeds on a connected session, unless the script says otherwise. -/
def send (_ : ClientMessage) : EStateM SessionError Scripted Unit := fun s =>
  match s.script.sendFailure with
  | some e => .error e s
  | none => if s.connected then .ok () s else .error .gone s

/-- The next reply is received, and counted if it is a message. -/
def receive : EStateM SessionError Scripted ServerMessage := fun s =>
  match s.replies with
  | [] => .error .gone s
  | .error e :: replies => .error e { s with replies }
  | .ok m :: replies => .ok m { s with replies, received := s.received.map (m.name :: ·) }

instance : Channel Scripted where
  send := send
  receive := receive
  isOpen s := s.connected
  close s := { s with connected := false }
  isOpen_close _ := rfl

/-- Connecting opens the transport even when it fails, and a success brings the replies. -/
def connect : EStateM SessionError Scripted Unit := fun s =>
  match s.connects with
  | some e :: connects => .error e { s with connects, connected := true }
  | none :: connects => .ok () { s with connects, connected := true, replies := s.script.replies }
  | [] => .ok () { s with connected := true, replies := s.script.replies }

end Scripted

/-- The scripts, and the number of sessions created so far. -/
structure Scripts where
  scripts : List (Nat × Script)
  created : Nat

/-- The script of a number. -/
def Scripts.find (s : Scripts) (number : Nat) : Script :=
  (s.scripts.lookup number).getD (.standard number)

instance : Session Scripted Scripts where
  create w := (.new (w.created + 1) (w.find (w.created + 1)), { w with created := w.created + 1 })
  setTls _ _ s := s
  countMessages s := if s.script.counts then { s with received := s.received.or (some []) } else s
  setCapability _ _ s := s
  setAuthMethod _ s := s
  setIpMode _ s := s
  connect _ _ := fun (s, w) =>
    match Scripted.connect s with
    | .ok () s => .ok () (s, w)
    | .error e s => .error e (s, w)
  clientId s := s.script.clientId
  receivedCount s name := s.received.map (Tally.of · name)
  traffic _ := .zero
  isOpen_create _ := rfl
  receivedCount_create _ _ := rfl

end SessionKeeper
