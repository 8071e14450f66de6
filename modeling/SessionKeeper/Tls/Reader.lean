import SessionKeeper.Bytes

/-!
# Readers of certificates and keys

What the contents of a file mean as certificates and keys is not decided here: a `TlsReader` tells
it. It takes files apart, judges certificates and keys, and says what is wrong with them.
-/

namespace SessionKeeper

/-- The forms in which a private key may be written. -/
inductive KeyForm where
  | pkcs1
  | pkcs8
  | sec1
  deriving DecidableEq, Repr

/-- A private key as it is written in a file. -/
structure PrivateKey where
  form : KeyForm
  content : Bytes
  deriving DecidableEq, Repr

/-- Why certificates or keys are of no use. -/
inductive MaterialFault where
  | invalidCertificate (detail : String)
  | noCertificates
  | inconsistentKeys (detail : String)
  | general (detail : String)
  | other (detail : String)
  deriving DecidableEq, Repr

/-- The text of a fault. -/
def MaterialFault.text : MaterialFault → String
  | invalidCertificate detail => "invalid peer certificate: " ++ detail
  | noCertificates => "peer sent no certificates"
  | inconsistentKeys detail => "keys may not be consistent: " ++ detail
  | general detail => "unexpected error: " ++ detail
  | other detail => "other error: " ++ detail

/-- What makes certificates and keys of the contents of files. -/
structure TlsReader where
  /-- The certificates in a file, or why it cannot be read. -/
  certificates : Bytes → Except String (List Bytes)
  /-- The first private key in a file, if there is one, or why the file cannot be read. -/
  privateKey : Bytes → Except String (Option PrivateKey)
  /-- Whether a certificate can be that of an authority. -/
  authority : Bytes → Except MaterialFault Unit
  /-- Whether certificates, the own one first, and a key identify a client. -/
  identity : List Bytes → PrivateKey → Except MaterialFault Unit

/-- A reader that finds nothing in files, and has no use for anything. -/
def TlsReader.empty : TlsReader where
  certificates _ := .ok []
  privateKey _ := .ok none
  authority _ := .error (.invalidCertificate "BadEncoding")
  identity _ _ := .error .noCertificates

end SessionKeeper
