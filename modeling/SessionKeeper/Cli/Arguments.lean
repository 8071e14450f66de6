import SessionKeeper.Options
import SessionKeeper.Text.Natural

/-!
# Command line arguments

The command is `ping` or `open`. Settings may stand before and behind it; those behind it count. The
value of a setting that stands in an argument of its own is looked at only when the next setting
comes or the arguments end, so that a request for help in between is answered first.
-/

namespace SessionKeeper.Cli

/-- Settings with a value. -/
inductive Setting where
  | config
  | host
  | port
  | user
  | password
  | schema
  | socket
  | tlsMode
  | ipMode
  | session
  deriving DecidableEq, Repr

/-- Settings that are given or not. -/
inductive Switch where
  | plainAuth
  | noAuth
  | expiredPassword
  | verbose
  | quiet
  deriving DecidableEq, Repr

/-- What the name of an argument can mean. -/
inductive Meaning where
  | setting (s : Setting)
  | switch (s : Switch)
  | help
  | version
  deriving DecidableEq, Repr

/-- The part of the arguments that is read: before the command, or behind one of the commands. -/
inductive Level where
  | top
  | ping
  | open
  deriving DecidableEq, Repr

/-- The names of arguments behind two dashes. -/
def longNames : List (String × Meaning) :=
  [("config", .setting .config), ("host", .setting .host), ("port", .setting .port),
    ("user", .setting .user), ("password", .setting .password), ("schema", .setting .schema),
    ("socket", .setting .socket), ("ssl-mode", .setting .tlsMode), ("ip-mode", .setting .ipMode),
    ("session", .setting .session), ("plain-auth", .switch .plainAuth),
    ("no-auth", .switch .noAuth), ("expired-password", .switch .expiredPassword),
    ("verbose", .switch .verbose), ("quiet", .switch .quiet), ("help", .help),
    ("version", .version)]

/-- The names of arguments behind one dash. -/
def shortNames : List (Char × Meaning) :=
  [('c', .setting .config), ('P', .setting .port), ('u', .setting .user),
    ('p', .setting .password), ('s', .setting .session), ('v', .switch .verbose),
    ('q', .switch .quiet), ('h', .help), ('V', .version)]

/-- Whether an argument of the given meaning exists on a level: sessions are named behind `open`,
and the version is told before the command. -/
def Level.has (level : Level) : Meaning → Bool
  | .setting .session => level == .open
  | .version => level == .top
  | _ => true

/-- The settings that were given on a level. -/
structure Given where
  config : Option String := none
  host : Option String := none
  port : Option UInt16 := none
  user : Option String := none
  password : Option String := none
  schema : Option String := none
  socket : Option String := none
  tlsMode : Option String := none
  ipMode : Option IpMode := none
  plainAuth : Bool := false
  noAuth : Bool := false
  expiredPassword : Bool := false
  verbose : Bool := false
  quiet : Bool := false
  sessions : List String := []
  deriving DecidableEq, Repr

/-- Why the arguments are not carried out. -/
inductive Stop where
  | usage
  | help
  | version
  deriving DecidableEq, Repr

namespace Given

/-- Settings given behind the command come before those given in front of it. -/
def merge (later earlier : Given) : Given where
  config := later.config.or earlier.config
  host := later.host.or earlier.host
  port := later.port.or earlier.port
  user := later.user.or earlier.user
  password := later.password.or earlier.password
  schema := later.schema.or earlier.schema
  socket := later.socket.or earlier.socket
  tlsMode := later.tlsMode.or earlier.tlsMode
  ipMode := later.ipMode.or earlier.ipMode
  plainAuth := later.plainAuth || earlier.plainAuth
  noAuth := later.noAuth || earlier.noAuth
  expiredPassword := later.expiredPassword || earlier.expiredPassword
  verbose := later.verbose || earlier.verbose
  quiet := later.quiet || earlier.quiet
  sessions := later.sessions

/-- A value that is there once at most. -/
def once {α : Type} (known : Option α) (value : α) : Except Stop (Option α) :=
  match known with
  | some _ => .error .usage
  | none => .ok (some value)

/-- A switch that is there once at most. -/
def onceOn (known : Bool) : Except Stop Bool :=
  if known then .error .usage else .ok true

/-- A port. A zero may have a minus sign. -/
def port? (text : String) : Option UInt16 :=
  let unsigned := match text.toList with
    | '-' :: rest => if !rest.isEmpty && rest.all (· == '0') then "0" else text
    | _ => text
  match Text.natural? unsigned with
  | none => none
  | some n => if n < UInt16.size then some (UInt16.ofNat n) else none

/-- Store the value of a setting. -/
def set (g : Given) (setting : Setting) (value : String) : Except Stop Given :=
  match setting with
  | .config =>
      if value.isEmpty then .error .usage
      else (once g.config value).map fun config => { g with config }
  | .host => (once g.host value).map fun host => { g with host }
  | .port =>
      match port? value with
      | none => .error .usage
      | some n => (once g.port n).map fun port => { g with port }
  | .user => (once g.user value).map fun user => { g with user }
  | .password => (once g.password value).map fun password => { g with password }
  | .schema => (once g.schema value).map fun schema => { g with schema }
  | .socket => (once g.socket value).map fun socket => { g with socket }
  | .tlsMode => (once g.tlsMode value).map fun tlsMode => { g with tlsMode }
  | .ipMode =>
      match IpMode.parse value with
      | .error _ => .error .usage
      | .ok mode => (once g.ipMode mode).map fun ipMode => { g with ipMode }
  | .session => .ok { g with sessions := g.sessions ++ [value] }

/-- Store a switch. -/
def turnOn (g : Given) (switch : Switch) : Except Stop Given :=
  match switch with
  | .plainAuth => (onceOn g.plainAuth).map fun plainAuth => { g with plainAuth }
  | .noAuth => (onceOn g.noAuth).map fun noAuth => { g with noAuth }
  | .expiredPassword =>
      (onceOn g.expiredPassword).map fun expiredPassword => { g with expiredPassword }
  | .verbose => (onceOn g.verbose).map fun verbose => { g with verbose }
  | .quiet => (onceOn g.quiet).map fun quiet => { g with quiet }

end Given

/-- A level while it is read: what was given, and the setting whose value was not looked at yet or
is still to come. -/
structure Reading where
  given : Given
  pending : Option (Setting × Option String)

namespace Reading

/-- Nothing was read. -/
def new : Reading := ⟨{}, none⟩

/-- Whether the value of a setting is still to come. -/
def awaits (r : Reading) : Bool :=
  match r.pending with
  | some (_, none) => true
  | _ => false

/-- Look at the value that was put off. -/
def settle (r : Reading) : Except Stop Reading :=
  match r.pending with
  | none => .ok r
  | some (_, none) => .error .usage
  | some (setting, some value) => (r.given.set setting value).map fun given => ⟨given, none⟩

/-- Carry out an argument that has no value. -/
def plain (r : Reading) (meaning : Meaning) : Except Stop Reading :=
  match r.settle with
  | .error stop => .error stop
  | .ok r =>
      match meaning with
      | .setting setting => .ok { r with pending := some (setting, none) }
      | .switch switch => (r.given.turnOn switch).map fun given => { r with given }
      | .help => .error .help
      | .version => .error .version

/-- Carry out an argument that has a value attached to its name. -/
def attached (r : Reading) (meaning : Meaning) (value : String) : Except Stop Reading :=
  match meaning with
  | .setting setting =>
      match r.settle with
      | .error stop => .error stop
      | .ok r => (r.given.set setting value).map fun given => { r with given }
  | _ => .error .usage

/-- The meaning of a name on a level. -/
def meaningOn {κ : Type} [BEq κ] (level : Level) (names : List (κ × Meaning)) (name : κ) :
    Except Stop Meaning :=
  match (names.lookup name).filter level.has with
  | none => .error .usage
  | some meaning => .ok meaning

/-- Carry out an argument behind two dashes: a name, or a name, an equals sign and a value. -/
def long (level : Level) (r : Reading) (cs : List Char) : Except Stop Reading :=
  let name := cs.takeWhile (· != '=')
  match meaningOn level longNames (String.ofList name) with
  | .error stop => .error stop
  | .ok meaning =>
      match cs.drop name.length with
      | [] => r.plain meaning
      | _ :: value => r.attached meaning (String.ofList value)

/-- The value attached to a short name, with or without an equals sign. -/
def shortValue : List Char → List Char
  | '=' :: value => value
  | value => value

/-- Carry out the short names behind one dash. What follows the name of a setting is its value. -/
def short (level : Level) (r : Reading) : List Char → Except Stop Reading
  | [] => .ok r
  | c :: rest =>
      match meaningOn level shortNames c with
      | .error stop => .error stop
      | .ok (.setting setting) =>
          if rest.isEmpty then r.plain (.setting setting)
          else r.attached (.setting setting) (String.ofList (shortValue rest))
      | .ok meaning =>
          match r.plain meaning with
          | .error stop => .error stop
          | .ok r => short level r rest

/-- Carry out one argument. Without a setting that waits for a value, only names are arguments. -/
def argument (level : Level) (r : Reading) (arg : String) : Except Stop Reading :=
  match arg.toList with
  | '-' :: '-' :: name => r.long level name
  | '-' :: c :: names => r.short level (c :: names)
  | _ =>
      match r.pending with
      | some (setting, none) => .ok { r with pending := some (setting, some arg) }
      | _ => .error .usage

/-- Read the arguments behind a command up to the end. Two dashes end the names, and nothing may
follow them. -/
def behind (level : Level) (r : Reading) : List String → Except Stop Given
  | [] => r.settle.map (·.given)
  | "--" :: rest => if rest.isEmpty then r.settle.map (·.given) else .error .usage
  | arg :: rest =>
      match r.argument level arg with
      | .error stop => .error stop
      | .ok r => r.behind level rest

end Reading

/-- A command with its arguments. -/
inductive Command where
  | ping
  | open (sessions : List String)
  deriving DecidableEq, Repr

/-- A command with all settings. -/
structure Invocation where
  given : Given
  command : Command
  deriving DecidableEq, Repr

/-- The commands. -/
def commandNames : List String := ["ping", "open", "help"]

/-- Whether help about the named command is there. -/
def help : List String → Stop
  | [] => .help
  | [name] => if commandNames.contains name then .help else .usage
  | _ => .usage

/-- Read the arguments behind `ping`, and then look at what was put off before it. -/
def readPing (r : Reading) (rest : List String) : Except Stop Invocation := do
  let later ← Reading.new.behind .ping rest
  let earlier ← r.settle
  return ⟨later.merge earlier.given, .ping⟩

/-- Read the arguments behind `open`, which must name a session, and then look at what was put off
before it. -/
def readOpen (r : Reading) (rest : List String) : Except Stop Invocation := do
  let later ← Reading.new.behind .open rest
  if later.sessions.isEmpty then throw .usage
  let earlier ← r.settle
  return ⟨later.merge earlier.given, .open later.sessions⟩

/-- Read arguments from the front of the command line on. -/
def readTop (r : Reading) : List String → Except Stop Invocation
  | [] => .error .usage
  | arg :: rest =>
      if arg = "ping" ∧ !r.awaits then readPing r rest
      else if arg = "open" ∧ !r.awaits then readOpen r rest
      else if arg = "help" ∧ !r.awaits then .error (help rest)
      else if arg = "--" then .error .usage
      else
        match r.argument .top arg with
        | .error stop => .error stop
        | .ok r => readTop r rest

/-- Read a command line. -/
def Invocation.parse (args : List String) : Except Stop Invocation :=
  readTop .new args

end SessionKeeper.Cli
