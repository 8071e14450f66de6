import SessionKeeper.Protobuf.Enumeration

/-!
# Payloads of replies

A server answers a request with `Ok`, which may carry a text, or with `Error`.
-/

namespace SessionKeeper.Payload

open Protobuf

/-- The payload of a positive reply. -/
structure Ok where
  message : Option String
  deriving DecidableEq, Repr

/-- The schema of positive replies. -/
def Ok.schema : Schema Ok where
  name := "OkMsg"
  empty := ⟨none⟩
  fields := [.optional 1 "msg" .string Ok.message fun value m => { m with message := value }]

/-- How bad an error is: the session goes on, or it ends. -/
def severities : Enumeration := ⟨0, [1]⟩

/-- The number of the severity that ends the session. -/
def fatalSeverity : Int32 := 1

/-- The payload of an error reply. -/
structure Error where
  severity : Option Int32
  code : UInt32
  message : String
  sqlState : String
  deriving DecidableEq, Repr

/-- The schema of error replies. -/
def Error.schema : Schema Error where
  name := "ErrorMsg"
  empty := ⟨none, 0, "", ""⟩
  fields :=
    [.optional 1 "severity" severities.kind Error.severity fun value m =>
        { m with severity := value },
      .required 2 "code" .uint32 Error.code fun value m => { m with code := value },
      .required 3 "msg" .string Error.message fun value m => { m with message := value },
      .required 4 "sql_state" .string Error.sqlState fun value m => { m with sqlState := value }]

end SessionKeeper.Payload
