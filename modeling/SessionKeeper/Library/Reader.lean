import SessionKeeper.Library.Armor
import SessionKeeper.Library.Certificate

/-!
# A reader of armored files

This reader takes armored files apart and knows the certificates of authorities and the keys of the
curve P-256; a key of another kind is of no use to it.
-/

namespace SessionKeeper.TlsReader

/-- What is wrong with a certificate that is not well formed. -/
def badEncoding : MaterialFault :=
  .invalidCertificate "BadEncoding"

/-- Whether a key of the curve fits the first certificate. -/
def fits (certificates : List Bytes) (key : PrivateKey) : Except MaterialFault Unit :=
  match key.publicKey? with
  | none => .error (.general "failed to parse private key as RSA, ECDSA, or EdDSA")
  | some publicKey =>
      match certificates with
      | [] => .error .noCertificates
      | own :: _ =>
          match Certificate.ofDer? own with
          | none => .error badEncoding
          | some certificate =>
              if certificate.publicKey = publicKey then .ok ()
              else .error (.inconsistentKeys "KeyMismatch")

/-- A reader of armored files. -/
def armored : TlsReader where
  certificates file := (Armor.certificates file).mapError Armor.Fault.text
  privateKey file := (Armor.firstKey (Armor.sections file)).mapError Armor.Fault.text
  authority bytes :=
    if (Certificate.ofDer? bytes).isSome then .ok () else .error badEncoding
  identity := fits

end SessionKeeper.TlsReader
