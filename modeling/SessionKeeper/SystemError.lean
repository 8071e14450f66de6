/-!
# Errors of the system

Opening files and sockets can fail for the reasons below; each has the text and the number that the
system gives it.
-/

namespace SessionKeeper

/-- Why the system refused an operation on a file or a socket. -/
inductive SystemError where
  | noEntry
  | inputOutput
  | noDevice
  | wouldBlock
  | permissionDenied
  | notDirectory
  | isDirectory
  | invalidArgument
  | nameTooLong
  | addressUnavailable
  | networkUnreachable
  | refused
  /-- A path of a file contains a zero byte. -/
  | zeroInPath
  /-- A path of a socket contains a zero byte. -/
  | zeroInSocketPath
  | socketPathTooLong
  deriving DecidableEq, Repr

namespace SystemError

/-- The number of an error; none if it was found before the system was asked. -/
def number? : SystemError → Option Nat
  | noEntry => some 2
  | inputOutput => some 5
  | noDevice => some 6
  | wouldBlock => some 11
  | permissionDenied => some 13
  | notDirectory => some 20
  | isDirectory => some 21
  | invalidArgument => some 22
  | nameTooLong => some 36
  | addressUnavailable => some 99
  | networkUnreachable => some 101
  | refused => some 111
  | zeroInPath | zeroInSocketPath | socketPathTooLong => none

/-- The description of an error, without its number. -/
def description : SystemError → String
  | noEntry => "No such file or directory"
  | inputOutput => "Input/output error"
  | noDevice => "No such device or address"
  | wouldBlock => "Resource temporarily unavailable"
  | permissionDenied => "Permission denied"
  | notDirectory => "Not a directory"
  | isDirectory => "Is a directory"
  | invalidArgument => "Invalid argument"
  | nameTooLong => "File name too long"
  | addressUnavailable => "Cannot assign requested address"
  | networkUnreachable => "Network is unreachable"
  | refused => "Connection refused"
  | zeroInPath => "file name contained an unexpected NUL byte"
  | zeroInSocketPath => "paths must not contain interior null bytes"
  | socketPathTooLong => "path must be shorter than SUN_LEN"

/-- The text shown to a person. -/
def text (e : SystemError) : String :=
  match e.number? with
  | some number => e.description ++ " (os error " ++ toString number ++ ")"
  | none => e.description

end SystemError

end SessionKeeper
