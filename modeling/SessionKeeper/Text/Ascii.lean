/-!
# Case of ASCII letters

Names of modes and cipher suites are compared without regard to the case of the letters A to Z;
every other character is kept.
-/

namespace SessionKeeper.Text

/-- The text with the letters a to z in upper case. -/
def upper (s : String) : String :=
  String.ofList (s.toList.map Char.toUpper)

/-- The text with the letters A to Z in lower case. -/
def lower (s : String) : String :=
  String.ofList (s.toList.map Char.toLower)

/-- Whether two texts differ at most in the case of ASCII letters. -/
def sameIgnoringCase (s t : String) : Bool :=
  s.toList.map Char.toLower == t.toList.map Char.toLower

end SessionKeeper.Text
