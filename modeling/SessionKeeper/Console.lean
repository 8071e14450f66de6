import SessionKeeper.Text.Utf8

/-!
# The console

A console keeps what was printed, item by item, on its output and its error stream. Some items are
printed in verbose mode only.
-/

namespace SessionKeeper

/-- The streams of a console. -/
inductive Stream where
  | out
  | err
  deriving DecidableEq, Repr

/-- The bytes that one call printed. -/
structure Printed where
  stream : Stream
  bytes : Bytes
  deriving DecidableEq, Repr

/-- A console with what was printed on it, oldest first. -/
structure Console where
  verbose : Bool
  printed : List Printed
  deriving DecidableEq, Repr

namespace Console

/-- A console on which nothing was printed. -/
def new (verbose : Bool) : Console := ⟨verbose, []⟩

/-- Add bytes to a stream. -/
def write (c : Console) (stream : Stream) (bytes : Bytes) : Console :=
  { c with printed := c.printed ++ [⟨stream, bytes⟩] }

/-- Print a text on the output stream. -/
def print (c : Console) (text : String) : Console :=
  c.write .out (Text.utf8 text)

/-- Print a text on the output stream in verbose mode. -/
def printVerbose (c : Console) (text : String) : Console :=
  if c.verbose then c.print text else c

/-- Print a text on the error stream. -/
def printError (c : Console) (text : String) : Console :=
  c.write .err (Text.utf8 text)

/-- The bytes printed on a stream. -/
def bytesOn (c : Console) (stream : Stream) : Bytes :=
  (c.printed.filter (·.stream == stream)).flatMap (·.bytes)

/-- The bytes printed on both streams, in the order in which they were printed. -/
def bytesOnBoth (c : Console) : Bytes :=
  c.printed.flatMap (·.bytes)

/-- Forget what was printed on a stream. -/
def clear (c : Console) (stream : Stream) : Console :=
  { c with printed := c.printed.filter (·.stream != stream) }

/-- Forget everything that was printed. -/
def clearBoth (c : Console) : Console :=
  { c with printed := [] }

/-- The console as a person debugging sees it, without what was printed. -/
def debugText (c : Console) : String :=
  "Console \x7b verbose: " ++ (if c.verbose then "true" else "false") ++ ", .. \x7d"

end Console

end SessionKeeper
