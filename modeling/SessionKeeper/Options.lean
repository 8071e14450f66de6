import SessionKeeper.Text.Ascii

/-!
# Options of a session

What a session needs to know to connect: where the server is, who logs in, and how the connection
is secured. An option that is not given has the default of its field.
-/

namespace SessionKeeper

/-- The address families among which a host name is resolved. -/
inductive IpMode where
  | ip4
  | ip6
  | any
  deriving DecidableEq, Repr

namespace IpMode

/-- The name of a mode. -/
def name : IpMode → String
  | ip4 => "IP4"
  | ip6 => "IP6"
  | any => "ANY"

/-- The mode of a name, in any case. -/
def parse (text : String) : Except String IpMode :=
  let name := Text.lower text
  if name = "ip4" ∨ name = "ipv4" then .ok ip4
  else if name = "ip6" ∨ name = "ipv6" then .ok ip6
  else if name = "any" then .ok any
  else .error ("unknown ip mode: " ++ name)

end IpMode

/-- How the connection is secured. Each field is empty if it is not given. -/
structure TlsOptions where
  mode : String := ""
  ca : String := ""
  caPath : String := ""
  cert : String := ""
  key : String := ""
  /-- Names of cipher suites between colons. -/
  ciphers : String := ""
  /-- Protocol versions between commas. -/
  versions : String := ""
  deriving DecidableEq, Repr

namespace TlsOptions

/-- No option is given. -/
def empty : TlsOptions where

/-- Whether an authority, a certificate or a key is given. -/
def hasMaterial (o : TlsOptions) : Bool :=
  !(o.ca.isEmpty && o.caPath.isEmpty && o.cert.isEmpty && o.key.isEmpty)

/-- Whether an authority is given. -/
def hasAuthority (o : TlsOptions) : Bool :=
  !(o.ca.isEmpty && o.caPath.isEmpty)

/-- The modes that there are, in upper case. -/
def modes : List String :=
  ["", "DISABLED", "PREFERRED", "REQUIRED", "VERIFY_CA", "VERIFY_IDENTITY"]

end TlsOptions

/-- What a session needs to know to connect. -/
structure Options where
  host : String := "localhost"
  port : UInt16 := 33060
  /-- The path of a local socket; if it is empty, the host is connected. -/
  socket : String := ""
  user : String := ""
  password : String := ""
  schema : String := ""
  tls : TlsOptions := .empty
  ipMode : IpMode := .any
  /-- Whether to close without waiting for the server to disconnect. -/
  skipWait : Bool := false
  connectTimeoutMs : UInt64 := 10000
  /-- The read timeout; zero means that reads wait for ever. -/
  readTimeoutMs : UInt64 := 0
  deriving DecidableEq, Repr

end SessionKeeper
