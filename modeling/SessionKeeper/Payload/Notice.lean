import SessionKeeper.Payload.Scalar

/-!
# Payloads of notices

A notice wraps an encoded message whose kind its type tells. One of those messages says that the
state of the session has changed, for instance that a client id was assigned.
-/

namespace SessionKeeper.Payload

open Protobuf

/-- The type of the notices of a changed session state. -/
def sessionStateChangedType : UInt32 := 3

/-- Whom a notice concerns: every session, or the one that receives it. -/
def noticeScopes : Enumeration := ⟨1, [2]⟩

/-- The number of the scope of notices for the session that receives them. -/
def localScope : Int32 := 2

/-- A notice around an encoded message. -/
structure NoticeFrame where
  type : UInt32
  scope : Option Int32
  payload : Option Bytes
  deriving DecidableEq, Repr

/-- The schema of notices. -/
def NoticeFrame.schema : Schema NoticeFrame where
  name := "Frame"
  empty := ⟨0, none, none⟩
  fields :=
    [.required 1 "r#type" .uint32 NoticeFrame.type fun value m => { m with type := value },
      .optional 2 "scope" noticeScopes.kind NoticeFrame.scope fun value m =>
        { m with scope := value },
      .optional 3 "payload" .bytes NoticeFrame.payload fun value m => { m with payload := value }]

/-- A notice for the session that receives it. -/
def NoticeFrame.ofLocal (type : UInt32) (payload : Bytes) : NoticeFrame :=
  ⟨type, some localScope, some payload⟩

/-- What can change about a session. -/
def stateParameters : Enumeration := ⟨1, [2, 3, 4, 5, 6, 7, 9, 10, 11, 12]⟩

/-- The number of the parameter that tells the client id. -/
def clientIdAssigned : Int32 := 11

/-- A change of a session's state: the parameter that changed, and its values. -/
structure SessionStateChanged where
  parameter : Int32
  values : List Scalar
  deriving DecidableEq, Repr

/-- The schema of changes of a session's state. -/
def SessionStateChanged.schema : Schema SessionStateChanged where
  name := "SessionStateChanged"
  empty := ⟨stateParameters.first, []⟩
  fields :=
    [.required 1 "param" stateParameters.kind SessionStateChanged.parameter fun value m =>
        { m with parameter := value },
      .repeated 2 "value" Scalar.schema.kind SessionStateChanged.values fun value m =>
        { m with values := value }]

end SessionKeeper.Payload
