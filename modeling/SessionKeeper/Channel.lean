import SessionKeeper.Error
import SessionKeeper.Message.Client
import SessionKeeper.Message.Server

/-!
# Channels

A channel sends messages to a server and receives the server's messages, over a transport that is
open or closed. Whatever a channel does, its transport is closed after `close`.
-/

namespace SessionKeeper

/-- Message-level access to a server. -/
class Channel (π : Type) where
  send : ClientMessage → EStateM SessionError π Unit
  /-- Wait for exactly one message. -/
  receive : EStateM SessionError π ServerMessage
  isOpen : π → Bool
  /-- Close the transport without any exchange of messages. -/
  close : π → π
  isOpen_close : ∀ p : π, isOpen (close p) = false

attribute [simp] Channel.isOpen_close

end SessionKeeper
