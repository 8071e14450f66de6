import SessionKeeper.Library.Der
import SessionKeeper.Tls.Reader

/-!
# Certificates and private keys

Of a certificate it is checked that it is well formed, and its public key is read. A private key
must be one of the curve P-256 and hold its public key. A key fits a certificate if their public
keys are the same.
-/

namespace SessionKeeper

/-- What is read of a certificate. -/
structure Certificate where
  /-- The public key together with its algorithm. -/
  publicKey : Bytes
  deriving DecidableEq, Repr

namespace Certificate

open Der

/-- Whether the extensions of a certificate are well formed: there are none, or a list of at least
one. -/
def extensionsFit (bytes : Bytes) : Bool :=
  bytes.isEmpty ||
    match only (part 3) bytes with
    | none => false
    | some tagged =>
        match only sequence tagged with
        | none => false
        | some list => !list.isEmpty && allOf sequence list.length list

/-- Read the signed part of a certificate: version 3, serial number, algorithm of the signature,
issuer, validity, subject, public key and extensions. -/
def ofSigned? (algorithm signed : Bytes) : Option Certificate := do
  let (version, rest) ← expect (part 0) signed
  let (serial, rest) ← expect integer rest
  let (sameAlgorithm, rest) ← expect sequence rest
  let (_, rest) ← expect sequence rest
  let (_, rest) ← expect sequence rest
  let (_, rest) ← expect sequence rest
  let (publicKey, rest) ← expect sequence rest
  if (← only integer version) = [2] ∧ serial ≠ [] ∧ sameAlgorithm = algorithm ∧
      extensionsFit rest then
    some ⟨publicKey⟩
  else none

/-- Read a certificate: the signed part, the algorithm of the signature, and the signature. -/
def ofDer? (bytes : Bytes) : Option Certificate := do
  let whole ← only sequence bytes
  let (signed, rest) ← expect sequence whole
  let (algorithm, rest) ← expect sequence rest
  let _ ← wholeBits (← only bitString rest)
  ofSigned? algorithm signed

end Certificate

namespace PrivateKey

open Der

/-- The algorithm of keys of the curve P-256: the names of elliptic keys and of the curve. -/
def algorithm : Bytes :=
  [0x06, 0x07, 0x2A, 0x86, 0x48, 0xCE, 0x3D, 0x02, 0x01,
    0x06, 0x08, 0x2A, 0x86, 0x48, 0xCE, 0x3D, 0x03, 0x01, 0x07]

/-- The name of the curve. -/
def curve : Bytes := algorithm.drop 9

/-- The number of bytes of a private key. -/
def privateLength : Nat := 32

/-- The number of bytes of a public key: a mark and two coordinates. -/
def publicLength : Nat := 65

/-- Read over the name of the curve, which may be left out. -/
def skipCurve (bytes : Bytes) : Option Bytes :=
  match expect (part 0) bytes with
  | none => some bytes
  | some (name, rest) => if name = curve then some rest else none

/-- The public key together with its algorithm, as a certificate holds it. -/
def publicKeyOf (point : Bytes) : Bytes :=
  sequence :: UInt8.ofNat algorithm.length :: algorithm ++
    bitString :: UInt8.ofNat (point.length + 1) :: 0 :: point

/-- The public key in a private key of the curve. -/
def ofCurve? (bytes : Bytes) : Option Bytes := do
  let (version, rest) ← expect integer (← only sequence bytes)
  let (secret, rest) ← expect octetString rest
  let rest ← skipCurve rest
  let point ← wholeBits (← only bitString (← only (part 1) rest))
  if version = [1] ∧ secret.length = privateLength ∧ point.length = publicLength ∧
      point.head? = some 4 then
    some (publicKeyOf point)
  else none

/-- The public key in a private key that is wrapped together with its algorithm. -/
def ofWrapped? (bytes : Bytes) : Option Bytes := do
  let (version, rest) ← expect integer (← only sequence bytes)
  let (named, rest) ← expect sequence rest
  let (key, _) ← expect octetString rest
  if version = [0] ∧ named = algorithm then ofCurve? key else none

/-- The public key of a private key. -/
def publicKey? (key : PrivateKey) : Option Bytes :=
  match key.form with
  | .pkcs8 => ofWrapped? key.content
  | .sec1 => ofCurve? key.content
  | .pkcs1 => none

end PrivateKey

end SessionKeeper
