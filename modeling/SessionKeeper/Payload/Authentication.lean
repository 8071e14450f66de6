import SessionKeeper.Protobuf.Schema

/-!
# Payloads of an authentication

The client starts with the name of a mechanism; after that both sides exchange bytes that only the
mechanism understands.
-/

namespace SessionKeeper.Payload

open Protobuf

/-- The payload that starts an authentication. -/
structure AuthenticateStart where
  mechanism : String
  authData : Option Bytes
  initialResponse : Option Bytes
  deriving DecidableEq, Repr

/-- The schema of the payloads that start an authentication. -/
def AuthenticateStart.schema : Schema AuthenticateStart where
  name := "AuthenticateStart"
  empty := ⟨"", none, none⟩
  fields :=
    [.required 1 "mech_name" .string AuthenticateStart.mechanism fun value m =>
        { m with mechanism := value },
      .optional 2 "auth_data" .bytes AuthenticateStart.authData fun value m =>
        { m with authData := value },
      .optional 3 "initial_response" .bytes AuthenticateStart.initialResponse fun value m =>
        { m with initialResponse := value }]

/-- The payload that goes on with an authentication, in both directions. -/
structure AuthenticateContinue where
  authData : Bytes
  deriving DecidableEq, Repr

/-- The schema of the payloads that go on with an authentication. -/
def AuthenticateContinue.schema : Schema AuthenticateContinue where
  name := "AuthenticateContinue"
  empty := ⟨[]⟩
  fields :=
    [.required 1 "auth_data" .bytes AuthenticateContinue.authData fun value m =>
      { m with authData := value }]

end SessionKeeper.Payload
