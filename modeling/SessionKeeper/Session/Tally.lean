/-!
# Tallies of names

A tally keeps the names that it was given; the count of a name is the number of times that it was
given.
-/

namespace SessionKeeper

/-- Names with repetitions, the latest first. -/
abbrev Tally := List String

/-- How often a name was given. -/
def Tally.of (tally : Tally) (name : String) : UInt64 :=
  UInt64.ofNat (tally.count name)

end SessionKeeper
