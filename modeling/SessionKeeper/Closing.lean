import SessionKeeper.Channel
import SessionKeeper.Console

/-!
# Closing a session

To close a session the client says farewell and expects the server's farewell. The transport is
closed on every path, so a failed exchange leaves none open.
-/

namespace SessionKeeper

/-- How far a session is closed. -/
inductive ClosePhase where
  /-- Nothing was said yet. -/
  | connected
  /-- The farewell is under way. -/
  | closing
  /-- The transport is closed; `clean` tells whether the exchange went well. -/
  | closed (clean : Bool)
  deriving DecidableEq, Repr

/-- A session that is being closed. -/
structure Closing (π : Type) where
  channel : π
  console : Console
  /-- Whether to wait for the server to disconnect after its farewell. -/
  wait : Bool
  quiet : Bool
  phase : ClosePhase
  /-- The number of replies so far that were no farewell. -/
  violations : UInt64

namespace Closing

variable {π : Type} [Channel π]

/-- A session about to be closed. -/
def new (channel : π) (console : Console) (wait quiet : Bool) : Closing π :=
  ⟨channel, console, wait, quiet, .connected, 0⟩

/-- Wait for the server to disconnect: the error that this brings is expected, and a message is
only reported. -/
def awaitDisconnect (c : Closing π) : Closing π :=
  match Channel.receive c.channel with
  | .error _ channel => { c with channel }
  | .ok extra channel =>
      if c.quiet then { c with channel }
      else
        { c with
          channel
          console :=
            c.console.printError ("Was expecting closure but got message:" ++ extra.display) }

/-- Receive the reply to the farewell, and show it. -/
def receiveReply : EStateM SessionError (Closing π) ServerMessage := fun c =>
  match Channel.receive c.channel with
  | .error e channel => .error e { c with channel }
  | .ok reply channel =>
      .ok reply
        { c with channel, console := if c.quiet then c.console else c.console.print reply.display }

/-- Say farewell and expect a farewell. -/
def exchange : EStateM KeeperError (Closing π) Unit := fun c =>
  match Channel.send .close c.channel with
  | .error e channel => .error (.session e) { c with channel }
  | .ok () channel =>
      match receiveReply { c with channel } with
      | .error e c => .error (.session e) c
      | .ok reply c =>
          if reply.isFarewell then .ok () (if c.wait then c.awaitDisconnect else c)
          else .error (.violation reply.summary) { c with violations := c.violations + 1 }

/-- Close the transport, and note how the exchange went. -/
def finish (c : Closing π) (clean : Bool) : Closing π :=
  { c with channel := Channel.close c.channel, phase := .closed clean }

/-- Close the session. A transport that is closed already skips the exchange, which counts as
clean. -/
def run : EStateM KeeperError (Closing π) Unit := fun c =>
  if Channel.isOpen c.channel then
    match exchange { c with phase := .closing } with
    | .ok () c => .ok () (c.finish true)
    | .error e c => .error e (c.finish false)
  else .ok () { c with phase := .closed true }

end Closing

end SessionKeeper
