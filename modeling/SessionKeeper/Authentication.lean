import SessionKeeper.Digest.Sha1
import SessionKeeper.Options
import SessionKeeper.Text.Utf8

/-!
# Authentication data

A client proves who it is either with the password itself or with a response to a challenge, from
which the password cannot be read. In both cases schema and user come first, each followed by a
zero byte.
-/

namespace SessionKeeper.Authentication

/-- The bytes of the same place in both lists, combined by exclusive or. -/
def xorBytes (xs ys : Bytes) : Bytes :=
  List.zipWith (· ^^^ ·) xs ys

/-- The number of bytes of a challenge that count. -/
def challengeLength : Nat := 20

/-- What the server keeps of a password: the digest of its digest. -/
def stored (password : Bytes) : Bytes :=
  Sha1.digest (Sha1.digest password)

/-- The response to a challenge: the digest of the password, hidden behind a digest that only who
knows `stored` can form. -/
def response (password challenge : Bytes) : Bytes :=
  xorBytes (Sha1.digest password)
    (Sha1.digest (challenge.take challengeLength ++ stored password))

/-- The upper-case hexadecimal digit of a number below sixteen, as a byte. -/
def hexDigit (n : Nat) : UInt8 :=
  UInt8.ofNat (if n < 10 then 48 + n else 55 + n)

/-- The bytes as upper-case hexadecimal digits. -/
def hex (bytes : Bytes) : Bytes :=
  bytes.flatMap fun b => [hexDigit (b.toNat / 16), hexDigit (b.toNat % 16)]

/-- Schema and user, each followed by a zero byte. -/
def identification (o : Options) : Bytes :=
  Text.utf8 o.schema ++ 0 :: (Text.utf8 o.user ++ [0])

/-- The data with which a client authenticates by the password itself. -/
def plainData (o : Options) : Bytes :=
  identification o ++ Text.utf8 o.password

/-- The data with which a client answers a challenge. An empty password has an empty response. -/
def challengeData (o : Options) (challenge : Bytes) : Bytes :=
  identification o ++
    if o.password.isEmpty then [] else 42 :: hex (response (Text.utf8 o.password) challenge)

end SessionKeeper.Authentication
