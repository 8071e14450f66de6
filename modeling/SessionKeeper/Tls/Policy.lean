import SessionKeeper.Error
import SessionKeeper.Files
import SessionKeeper.Options
import SessionKeeper.Tls.Reader
import SessionKeeper.Tls.Suite

/-!
# TLS policy

From the TLS options follows whether a session must, may or must not be encrypted, and what it
asks of the server: which suites and versions, how the certificate is verified and against which
authorities, and the certificate with which the client identifies itself. Options that contradict
each other and files that cannot be used are faults; which files these are is up to a reader.
-/

namespace SessionKeeper

/-- How the certificate of a server is verified. -/
inductive Verification where
  /-- Every certificate is accepted. -/
  | skipped
  /-- The certificate must come from an authority. -/
  | chain
  /-- The certificate must also name the host. -/
  | chainAndHost
  deriving DecidableEq, Repr

/-- The certificates, the own one first, and the key with which a client identifies itself. -/
structure TlsIdentity where
  certificates : List Bytes
  key : PrivateKey
  deriving DecidableEq, Repr

/-- What a client asks of a TLS connection. -/
structure TlsConfig where
  suites : List Suite
  versions : List TlsVersion
  verification : Verification
  /-- The certificates of the authorities that are trusted. -/
  authorities : List Bytes
  identity : Option TlsIdentity
  deriving DecidableEq, Repr

/-- Whether a session is encrypted. -/
inductive TlsPolicy where
  | disabled
  /-- Encrypted, unless the server refuses. -/
  | preferred (config : TlsConfig)
  | required (config : TlsConfig)
  deriving DecidableEq, Repr

/-- Why a file of certificates or keys is of no use. -/
inductive FileFault where
  | system (error : SystemError)
  | content (detail : String)
  deriving DecidableEq, Repr

/-- The text of a fault. -/
def FileFault.text : FileFault → String
  | system error => error.text
  | content detail => detail

/-- What is wrong with TLS options. -/
inductive TlsFault where
  | unpairedIdentity
  | authorityMissing (mode : String)
  | disabledWithMaterial
  | unknownMode (mode : String)
  | noSuite (ciphers : String)
  | unknownVersion (name : String)
  /-- No selected suite belongs to an allowed version. -/
  | noUsableSuite
  | directory (path : String) (error : SystemError)
  | unopened (path : String) (error : SystemError)
  | certificateFile (path : String) (fault : FileFault)
  | keyFile (path : String) (fault : FileFault)
  | authority (fault : MaterialFault)
  | noAuthority
  | noKey (path : String)
  | identity (fault : MaterialFault)
  deriving DecidableEq, Repr

namespace TlsFault

/-- The text of a fault. -/
def text : TlsFault → String
  | unpairedIdentity => "ssl-cert and ssl-key must be given together"
  | authorityMissing mode => "ssl-mode " ++ mode ++ " requires ssl-ca or ssl-ca-path"
  | disabledWithMaterial => "ssl-mode DISABLED conflicts with the given certificate options"
  | unknownMode mode => "unknown ssl-mode " ++ mode
  | noSuite ciphers => "none of the ciphers '" ++ ciphers ++ "' is supported"
  | unknownVersion name => "unsupported TLS version " ++ name
  | noUsableSuite => "unexpected error: no usable cipher suites configured"
  | directory path error => "cannot read " ++ path ++ ": " ++ error.text
  | unopened path error => "cannot open " ++ path ++ ": " ++ error.text
  | certificateFile path fault => "invalid certificate in " ++ path ++ ": " ++ fault.text
  | keyFile path fault => "invalid key in " ++ path ++ ": " ++ fault.text
  | authority fault => fault.text
  | noAuthority => "no CA certificates found"
  | noKey path => "no private key in " ++ path
  | identity fault => fault.text

/-- The error of a session whose TLS options have the fault. -/
def sessionError (fault : TlsFault) : SessionError :=
  ⟨Code.tlsMisconfigured, "TLS was marked as wrongly configured: " ++ fault.text⟩

end TlsFault

namespace TlsConfig

/-- The bytes of an opened file. -/
def contentOf : FileNode → Except FileFault Bytes
  | .regular bytes => .ok bytes
  | .faulty error => .error (.system error)
  | _ => .error (.system .isDirectory)

variable (reader : TlsReader)

/-- The certificates in a file. -/
def loadCertificates (files : Files) (path : String) : Except TlsFault (List Bytes) :=
  match files.openFile path with
  | .error e => .error (.unopened path e)
  | .ok node =>
      match contentOf node with
      | .error fault => .error (.certificateFile path fault)
      | .ok bytes =>
          (reader.certificates bytes).mapError fun detail => .certificateFile path (.content detail)

/-- The private key in a file. -/
def loadKey (files : Files) (path : String) : Except TlsFault PrivateKey :=
  match files.openFile path with
  | .error e => .error (.unopened path e)
  | .ok node =>
      match contentOf node with
      | .error fault => .error (.keyFile path fault)
      | .ok bytes =>
          match reader.privateKey bytes with
          | .error detail => .error (.keyFile path (.content detail))
          | .ok none => .error (.noKey path)
          | .ok (some key) => .ok key

/-- Whether a name in a directory of authorities is that of a file of certificates. -/
def isAuthorityFile (name : String) : Bool :=
  Files.extension? name == some "pem" || Files.extension? name == some "crt"

/-- The paths of the files of certificates in a directory. -/
def authorityFilesIn (files : Files) (directory : String) : Except TlsFault (List String) :=
  match files.list directory with
  | .error e => .error (.directory directory e)
  | .ok names => .ok ((names.filter isAuthorityFile).map (Files.join directory))

/-- The paths of all files of authorities. -/
def authorityFiles (files : Files) (o : TlsOptions) : Except TlsFault (List String) :=
  let single := if o.ca.isEmpty then [] else [o.ca]
  if o.caPath.isEmpty then .ok single
  else (authorityFilesIn files o.caPath).map (single ++ ·)

/-- The certificates of authorities, each of which must be one that an authority can have. -/
def checkAuthorities : List Bytes → Except TlsFault Unit
  | [] => .ok ()
  | certificate :: certificates =>
      match reader.authority certificate with
      | .error fault => .error (.authority fault)
      | .ok () => checkAuthorities certificates

/-- The certificates of authorities in the files, taken one file after the other. -/
def readAuthorities (files : Files) : List String → Except TlsFault (List Bytes)
  | [] => .ok []
  | path :: paths =>
      match loadCertificates reader files path with
      | .error fault => .error fault
      | .ok certificates =>
          match checkAuthorities reader certificates with
          | .error fault => .error fault
          | .ok () => (readAuthorities files paths).map (certificates ++ ·)

/-- The authorities that are trusted; there must be one. -/
def loadAuthorities (files : Files) (o : TlsOptions) : Except TlsFault (List Bytes) :=
  match authorityFiles files o with
  | .error fault => .error fault
  | .ok paths =>
      match readAuthorities reader files paths with
      | .error fault => .error fault
      | .ok [] => .error .noAuthority
      | .ok authorities => .ok authorities

/-- The identity of the client, if one is given. -/
def loadIdentity (files : Files) (o : TlsOptions) : Except TlsFault (Option TlsIdentity) :=
  if o.cert.isEmpty then .ok none
  else
    match loadCertificates reader files o.cert with
    | .error fault => .error fault
    | .ok certificates =>
        match loadKey reader files o.key with
        | .error fault => .error fault
        | .ok key =>
            match reader.identity certificates key with
            | .error fault => .error (.identity fault)
            | .ok () => .ok (some ⟨certificates, key⟩)

/-- The suites and versions that the options select. A fault of the suites comes before one of the
versions, and both before the fault that they do not go together. -/
def selectCiphers (o : TlsOptions) : Except TlsFault (List Suite × List TlsVersion) :=
  let suites := Suite.selected o.ciphers
  if suites.isEmpty then .error (.noSuite o.ciphers)
  else
    match TlsVersion.allowed o.versions with
    | .error name => .error (.unknownVersion name)
    | .ok versions =>
        if suites.any (Suite.usableIn versions) then .ok (suites, versions)
        else .error .noUsableSuite

/-- What the options ask of a connection, given how certificates are verified. -/
def load (files : Files) (o : TlsOptions) (verification : Verification) :
    Except TlsFault TlsConfig :=
  match selectCiphers o with
  | .error fault => .error fault
  | .ok (suites, versions) =>
      match if verification = .skipped then .ok [] else loadAuthorities reader files o with
      | .error fault => .error fault
      | .ok authorities =>
          (loadIdentity reader files o).map fun identity =>
            ⟨suites, versions, verification, authorities, identity⟩

end TlsConfig

namespace TlsPolicy

/-- How the certificate of the server is verified in a mode. -/
def verificationOf (mode : String) (o : TlsOptions) : Verification :=
  if mode = "VERIFY_IDENTITY" then .chainAndHost
  else if mode = "VERIFY_CA" then .chain
  else if o.hasAuthority then .chain
  else .skipped

/-- The policy of a mode whose options do not contradict each other. -/
def ofMode (reader : TlsReader) (files : Files) (mode : String) (o : TlsOptions) :
    Except TlsFault TlsPolicy :=
  let config := TlsConfig.load reader files o (verificationOf mode o)
  if mode = "DISABLED" then
    if o.hasMaterial then .error .disabledWithMaterial else .ok .disabled
  else if mode = "" then
    if o.hasMaterial then config.map required else .ok .disabled
  else if mode = "PREFERRED" then config.map preferred
  else if mode = "REQUIRED" ∨ mode = "VERIFY_CA" ∨ mode = "VERIFY_IDENTITY" then
    config.map required
  else .error (.unknownMode mode)

/-- The policy that the options ask for, with the files that there are. -/
def ofOptions (reader : TlsReader) (files : Files) (o : TlsOptions) : Except TlsFault TlsPolicy :=
  let mode := Text.upper o.mode
  if o.cert.isEmpty != o.key.isEmpty then .error .unpairedIdentity
  else if verificationOf mode o ≠ .skipped ∧ !o.hasAuthority then .error (.authorityMissing mode)
  else ofMode reader files mode o

end TlsPolicy

end SessionKeeper
