import SessionKeeper.Payload.Scalar

/-!
# Payloads that set up and end a connection

A client asks for capabilities before it authenticates, and says farewell with an empty message.
-/

namespace SessionKeeper.Payload

open Protobuf

/-- A named capability with its value. -/
structure Capability where
  name : String
  value : Option Any
  deriving DecidableEq, Repr

/-- The schema of capabilities. -/
def Capability.schema : Schema Capability where
  name := "Capability"
  empty := ⟨"", none⟩
  fields :=
    [.required 1 "name" .string Capability.name fun value m => { m with name := value },
      .optional 2 "value" Any.schema.kind Capability.value fun value m => { m with value := value }]

/-- A list of capabilities. -/
structure Capabilities where
  capabilities : List Capability
  deriving DecidableEq, Repr

/-- The schema of lists of capabilities. -/
def Capabilities.schema : Schema Capabilities where
  name := "Capabilities"
  empty := ⟨[]⟩
  fields :=
    [.repeated 1 "capabilities" Capability.schema.kind Capabilities.capabilities fun value m =>
      { m with capabilities := value }]

/-- The payload of a request to set capabilities. -/
structure CapabilitiesSet where
  capabilities : Option Capabilities
  deriving DecidableEq, Repr

/-- The schema of requests to set capabilities. -/
def CapabilitiesSet.schema : Schema CapabilitiesSet where
  name := "CapabilitiesSet"
  empty := ⟨none⟩
  fields :=
    [.optional 1 "capabilities" Capabilities.schema.kind CapabilitiesSet.capabilities
      fun value m => { m with capabilities := value }]

/-- The payload of a farewell. -/
structure Close where
  deriving DecidableEq, Repr

/-- The schema of farewells. -/
def Close.schema : Schema Close where
  name := "Close"
  empty := ⟨⟩
  fields := []

end SessionKeeper.Payload
