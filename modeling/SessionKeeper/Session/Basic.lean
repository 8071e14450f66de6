import SessionKeeper.Channel
import SessionKeeper.Metrics
import SessionKeeper.Options

/-!
# Sessions

A session is a channel that is first set up and then connected. Sessions are created, set up and
connected in an environment, from which they take what is outside of them; messages concern the
session alone.
-/

namespace SessionKeeper

/-- What a client may ask for before it authenticates. -/
inductive Capability where
  /-- The client can handle an expired password. -/
  | expiredPassword
  deriving DecidableEq, Repr

/-- The name of a capability in requests. -/
def Capability.name : Capability → String
  | expiredPassword => "client.pwd_expire_ok"

/-- How a client authenticates: with the password itself, or with a proof that it knows it. -/
inductive AuthMethod where
  | plain
  | mysql41
  deriving DecidableEq, Repr

/-- The name of an authentication method in requests. -/
def AuthMethod.name : AuthMethod → String
  | plain => "PLAIN"
  | mysql41 => "MYSQL41"

/-- Sessions `σ` in environments `ω`. -/
class Session (σ : Type) (ω : outParam Type) extends Channel σ where
  /-- A new session, not connected. -/
  create : ω → σ × ω
  /-- Take over the TLS options. What is wrong with them comes up when the session connects. -/
  setTls : ω → Options → σ → σ
  /-- Begin to count received messages by name. -/
  countMessages : σ → σ
  setCapability : Capability → Bool → σ → σ
  setAuthMethod : AuthMethod → σ → σ
  setIpMode : IpMode → σ → σ
  /-- Connect and negotiate, and authenticate if that is wanted. -/
  connect : Options → (authenticate : Bool) → EStateM SessionError (σ × ω) Unit
  /-- The client id that the server assigned, zero until it is known. -/
  clientId : σ → UInt64
  /-- The number of messages of a name received, if they are counted. -/
  receivedCount : σ → String → Option UInt64
  /-- What the session sent and received. -/
  traffic : σ → Traffic
  isOpen_create : ∀ w : ω, isOpen (create w).1 = false
  receivedCount_create : ∀ (w : ω) (name : String), receivedCount (create w).1 name = none

attribute [simp] Session.isOpen_create Session.receivedCount_create

end SessionKeeper
