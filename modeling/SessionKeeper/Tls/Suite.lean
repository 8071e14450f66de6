import SessionKeeper.Text.Ascii
import SessionKeeper.Text.Blank

/-!
# Cipher suites and protocol versions

Each suite belongs to one protocol version. A list of suites has its names between colons, in any
case; a list of versions has them between commas, written exactly.
-/

namespace SessionKeeper

/-- The protocol versions that there are. -/
inductive TlsVersion where
  | v12
  | v13
  deriving DecidableEq, Repr

namespace TlsVersion

/-- The versions, each with its name. -/
def all : List (String × TlsVersion) :=
  [("TLSv1.2", v12), ("TLSv1.3", v13)]

/-- The version of a name. -/
def ofName? (name : String) : Option TlsVersion :=
  all.lookup name

/-- The names in a list; blank ones do not count. -/
def listed (text : String) : List String :=
  ((Text.split ',' text).map Text.trim).filter (!·.isEmpty)

/-- The versions of some names, or the first name that belongs to none. -/
def ofNames : List String → Except String (List TlsVersion)
  | [] => .ok []
  | name :: names =>
      match ofName? name with
      | none => .error name
      | some version => (ofNames names).map (version :: ·)

/-- The versions that a list allows; a blank list allows all of them. -/
def allowed (text : String) : Except String (List TlsVersion) :=
  if (Text.trim text).isEmpty then .ok (all.map Prod.snd) else ofNames (listed text)

end TlsVersion

/-- A cipher suite. -/
structure Suite where
  name : String
  version : TlsVersion
  deriving DecidableEq, Repr

namespace Suite

/-- The suites that there are, the preferred ones first. -/
def all : List Suite :=
  [⟨"TLS13_AES_256_GCM_SHA384", .v13⟩, ⟨"TLS13_AES_128_GCM_SHA256", .v13⟩,
    ⟨"TLS13_CHACHA20_POLY1305_SHA256", .v13⟩,
    ⟨"TLS_ECDHE_ECDSA_WITH_AES_256_GCM_SHA384", .v12⟩,
    ⟨"TLS_ECDHE_ECDSA_WITH_AES_128_GCM_SHA256", .v12⟩,
    ⟨"TLS_ECDHE_ECDSA_WITH_CHACHA20_POLY1305_SHA256", .v12⟩,
    ⟨"TLS_ECDHE_RSA_WITH_AES_256_GCM_SHA384", .v12⟩,
    ⟨"TLS_ECDHE_RSA_WITH_AES_128_GCM_SHA256", .v12⟩,
    ⟨"TLS_ECDHE_RSA_WITH_CHACHA20_POLY1305_SHA256", .v12⟩]

/-- The names in a list. -/
def listed (text : String) : List String :=
  (Text.split ':' text).map Text.trim

/-- The suites that a list selects; an empty list selects all of them. -/
def selected (text : String) : List Suite :=
  if text.isEmpty then all
  else all.filter fun suite => (listed text).any (Text.sameIgnoringCase suite.name)

/-- Whether a suite belongs to one of the versions. -/
def usableIn (versions : List TlsVersion) (suite : Suite) : Bool :=
  versions.contains suite.version

end Suite

end SessionKeeper
