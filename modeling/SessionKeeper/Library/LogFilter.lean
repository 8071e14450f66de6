import SessionKeeper.Cli.Failure
import SessionKeeper.Library.Alphanumeric
import SessionKeeper.Text.Ascii
import SessionKeeper.Text.Blank
import SessionKeeper.Text.Natural

/-!
# Log filters

A log filter is a list of directives between commas. A directive is a level, or names what it is
about, a target and behind it in brackets a span with fields in braces, and then perhaps a level.
A filter is only checked: `LogFilter.check` finds the first directive that is none.
-/

namespace SessionKeeper.LogFilter

/-- What is wrong with a filter. -/
inductive Fault where
  | directive
  | level
  deriving DecidableEq, Repr

/-- The names of levels. -/
def levelNames : List String := ["off", "error", "warn", "info", "debug", "trace"]

/-- Whether a text is a level: a name in any case, or its number. -/
def isLevel (text : String) : Bool :=
  (Text.natural? text).any (· < levelNames.length) ||
    levelNames.any fun name => Text.sameIgnoringCase name text

/-- Check what stands behind the equals sign; it may be left out. -/
def checkLevel (cs : List Char) : Except Fault Unit :=
  if cs.isEmpty ∨ isLevel (String.ofList cs) then .ok () else .error .level

/-- Check what stands behind the closing bracket. -/
def checkBehindSpan : List Char → Except Fault Unit
  | [] => .ok ()
  | '=' :: level => checkLevel level
  | _ => .error .directive

/-- Check what stands behind the opening brace: fields that are not empty, and the brace and the
bracket that close them. -/
def checkFields (cs : List Char) : Except Fault Unit :=
  if cs.head? = some '\x7d' then .error .directive
  else
    match cs.dropWhile (· != '\x7d') with
    | _ :: ']' :: rest => checkBehindSpan rest
    | _ => .error .directive

/-- Check what stands behind the opening bracket. -/
def checkSpan (cs : List Char) : Except Fault Unit :=
  match cs.dropWhile fun c => c != ']' && c != '\x7b' with
  | [] => .error .directive
  | ']' :: rest => checkBehindSpan rest
  | _ :: fields => checkFields fields

/-- Whether a character can begin a directive. -/
def begins (c : Char) : Bool :=
  Text.isAlphanumeric c || ['-', ':', '_', '['].contains c

/-- Check a directive without blanks around it. -/
def checkDirective (cs : List Char) : Except Fault Unit :=
  if !cs.head?.any begins then .error .directive
  else
    match cs.dropWhile fun c => c != '=' && c != '[' with
    | [] => .ok ()
    | '=' :: level => checkLevel level
    | _ :: span => checkSpan span

/-- Check directives up to the first that is none. -/
def checkAll : List (List Char) → Except Fault Unit
  | [] => .ok ()
  | directive :: directives =>
      match checkDirective (Text.trimChars directive) with
      | .error fault => .error fault
      | .ok () => checkAll directives

/-- Check a filter. Nothing at all between two commas is no directive. -/
def check (filter : String) : Except Fault Unit :=
  checkAll ((Text.splitChars ',' filter.toList).filter fun directive => !directive.isEmpty)

/-- What is said of a text that is no level. -/
def noLevel : String :=
  "error parsing level filter: expected one of \"off\", \"error\", \"warn\", \"info\", " ++
    "\"debug\", \"trace\", or a number 0-5"

/-- The failure of a filter. A level that is none is also its own cause. -/
def Fault.failure : Fault → Cli.Failure
  | .directive => ⟨"invalid filter directive", []⟩
  | .level => ⟨noLevel, [noLevel]⟩

/-- Read a filter. -/
def reads (filter : String) : Except Cli.Failure Unit :=
  (check filter).mapError Fault.failure

end SessionKeeper.LogFilter
