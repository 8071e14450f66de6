import SessionKeeper.Config
import SessionKeeper.Error
import SessionKeeper.Text.Blank

/-!
# Failures of the command line

A failure has a text and the causes behind it. Its report shows the causes below the text, indented,
and numbered if there are several.
-/

namespace SessionKeeper.Cli

/-- Why a command line could not be carried out. -/
structure Failure where
  text : String
  /-- What lies behind the failure, the nearest cause first. -/
  causes : List String
  deriving DecidableEq, Repr

namespace Failure

/-- The failure to do something with a session. -/
def ofKeeper (attempt : String) (e : KeeperError) : Failure := ⟨attempt, [e.display]⟩

/-- The failure to load a configuration from a path. -/
def ofFile (path : String) (fault : ConfigFault) : Failure :=
  ⟨"Failed to load config from " ++ Text.quote path, fault.text :: fault.causes⟩

/-- A text with every line but the first one indented. -/
def hang (indent : String) (text : String) : String :=
  ("\n" ++ indent).intercalate (Text.split '\n' text)

/-- The entry of a numbered cause. -/
def numbered (text : String) (number : Nat) : String :=
  let digits := toString number
  "\n" ++ String.ofList (List.replicate (5 - digits.length) ' ') ++ digits ++ ": " ++
    hang "       " text

/-- The list of causes. -/
def causesText : List String → String
  | [] => ""
  | [cause] => "\n\nCaused by:\n    " ++ hang "    " cause
  | causes => "\n\nCaused by:" ++ String.join (causes.mapIdx fun i cause => numbered cause i)

/-- The report of a failure. -/
def report (f : Failure) : String :=
  "Error: " ++ f.text ++ causesText f.causes ++ "\n"

end Failure

end SessionKeeper.Cli
