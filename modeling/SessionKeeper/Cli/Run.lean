import SessionKeeper.Cli.Arguments
import SessionKeeper.Cli.Failure
import SessionKeeper.Keeper.Close
import SessionKeeper.Keeper.Connect
import SessionKeeper.Network.Session

/-!
# Running a command line

The settings of the command line are put over those of the configuration, and the result is checked
before anything is sent. Then the default session is connected and the command carried out. Whatever
comes of it, every session is closed at the end, and in verbose mode the counters are shown.
-/

namespace SessionKeeper.Cli

/-- Put the settings of a command line over options. -/
def Given.override (g : Given) (o : Options) : Options :=
  { o with
    host := g.host.getD o.host
    port := g.port.getD o.port
    user := g.user.getD o.user
    password := g.password.getD o.password
    schema := g.schema.getD o.schema
    socket := g.socket.getD o.socket
    tls := { o.tls with mode := (g.tlsMode.map Text.upper).getD o.tls.mode }
    ipMode := g.ipMode.getD o.ipMode }

/-- A session to open. -/
structure SessionRequest where
  name : String
  user : String
  password : String
  schema : String
  deriving DecidableEq, Repr

/-- Read a request: the parts stand between colons, those at the end may be left out, and the schema
may have colons of its own. -/
def SessionRequest.parse (text : String) : SessionRequest :=
  let parts := Text.split ':' text
  ⟨parts.getD 0 "", parts.getD 1 "", parts.getD 2 "", ":".intercalate (parts.drop 3)⟩

namespace Invocation

/-- The configuration to start from: that of a file, or the standard one. -/
def baseConfig (files : Files) (g : Given) : Except Failure Config :=
  match g.config with
  | none => .ok {}
  | some path => (Config.load files path).mapError (Failure.ofFile path)

/-- The configuration that counts. In verbose mode more is logged, unless a filter is given. -/
def adjust (g : Given) (filter : Option String) (c : Config) : Config where
  connection := g.override c.connection
  logging :=
    if g.verbose && filter.isNone then { c.logging with level := "info" } else c.logging

/-- Load the configuration, put the settings over it, and check the result. -/
def loadConfig (files : Files) (g : Given) (filter : Option String) : Except Failure Config :=
  match baseConfig files g with
  | .error failure => .error failure
  | .ok base => (adjust g filter base).check.mapError fun fault => ⟨fault.text, fault.causes⟩

/-- Check what is to be logged: the level of the configuration counts if no valid filter is given.
Which filters are valid is up to `reads`. -/
def checkLog (reads : String → Except Failure Unit) (filter : Option String) (level : String) :
    Except Failure Unit :=
  match filter.map reads with
  | some (.ok ()) => .ok ()
  | _ => reads level

/-- The configuration of a run, which can also be logged as it says. -/
def configure (reads : String → Except Failure Unit) (files : Files) (g : Given)
    (filter : Option String) : Except Failure Config :=
  match loadConfig files g filter with
  | .error failure => .error failure
  | .ok config => (checkLog reads filter config.logging.level).map fun _ => config

variable {σ ω : Type} [Session σ ω]

/-- Let an attempt with the keeper run; if it fails, the failure names the attempt. -/
def attempt {α : Type} (name : String) (act : EStateM KeeperError (Keeper σ ω) α) :
    EStateM Failure (Keeper σ ω) α := fun k =>
  match act k with
  | .ok a k => .ok a k
  | .error e k => .error (.ofKeeper name e) k

/-- Show the client id of the active session. -/
def showClientId : EStateM Failure (Keeper σ ω) Unit := fun k =>
  match k.activeSession with
  | .error e => .error ⟨e.display, []⟩ k
  | .ok session =>
      .ok () (k.print ("client id " ++ toString (Session.clientId session).toNat ++ "\n"))

/-- Open sessions, one after the other. -/
def openAll : List String → EStateM Failure (Keeper σ ω) Unit
  | [] => fun k => .ok () k
  | text :: rest => fun k =>
      let r := SessionRequest.parse text
      match attempt ("Failed to open session " ++ r.name)
          (Keeper.create r.name r.user r.password r.schema false) k with
      | .error failure k => .error failure k
      | .ok () k => openAll rest k

/-- Show the names of all sessions. -/
def showNames (k : Keeper σ ω) : Keeper σ ω :=
  k.print ("sessions: " ++ ", ".intercalate (k.names.map Keeper.shownName) ++ "\n")

/-- Close the active session until the default session is the active one. -/
def closeToDefault (quiet : Bool) (k : Keeper σ ω) : EStateM.Result Failure (Keeper σ ω) Unit :=
  if k.isDefaultActive then .ok () k
  else
    match _ : k.closeActive false quiet with
    | .error e k => .error ⟨e.display, []⟩ k
    | .ok () next => closeToDefault quiet next
termination_by if k.isDefaultActive then 0 else 1
decreasing_by
  have hnext := Keeper.default_active_of_close_active ‹k.closeActive false quiet = _›
  have hfirst := ‹¬k.isDefaultActive = true›
  simp [hnext, hfirst]

/-- Carry out a command. -/
def carryOut (quiet : Bool) : Command → EStateM Failure (Keeper σ ω) Unit
  | .ping => showClientId
  | .open sessions => fun k =>
      match openAll sessions k with
      | .error failure k => .error failure k
      | .ok () k => closeToDefault quiet (showNames k)

/-- Connect the default session and carry out the command. -/
def drive (i : Invocation) : EStateM Failure (Keeper σ ω) Unit := fun k =>
  match attempt "Failed to connect default session"
      (Keeper.connectDefault i.given.expiredPassword i.given.noAuth i.given.plainAuth) k with
  | .error failure k => .error failure k
  | .ok () k => carryOut i.given.quiet i.command k

/-- Close every session, and in verbose mode show the counters. -/
def conclude (k : Keeper σ ω) : Keeper σ ω :=
  let k := k.destroy
  k.printVerbose (k.metrics.display ++ "\n")

/-- Let a keeper with the given options carry out the invocation, and end it. -/
def runKeeper (i : Invocation) (o : Options) (world : ω) : Keeper σ ω × Option Failure :=
  match i.drive (Keeper.new o (Console.new i.given.verbose) world) with
  | .ok () k => (conclude k, none)
  | .error failure k => (conclude k, some failure)

end Invocation

/-- What a run leaves behind. -/
structure Outcome where
  exitCode : UInt32
  out : Bytes
  err : Bytes
  /-- Every session that there was. -/
  sessions : List NetworkSession

namespace Outcome

/-- The version. -/
def version : String := "0.1.0"

/-- The line that tells the version. -/
def versionLine : String := "xsession " ++ version ++ "\n"

/-- The line that tells how arguments are given. -/
def usageLine : String := "Usage: xsession [OPTIONS] <COMMAND>\n"

/-- The outcome of arguments that are not carried out. -/
def ofStop : Stop → Outcome
  | .usage => ⟨2, [], Text.utf8 usageLine, []⟩
  | .help => ⟨0, Text.utf8 usageLine, [], []⟩
  | .version => ⟨0, Text.utf8 versionLine, [], []⟩

/-- The outcome of a run that failed before there was a keeper. -/
def ofFailure (failure : Failure) : Outcome := ⟨1, [], Text.utf8 failure.report, []⟩

/-- The outcome of a keeper that has ended. The report of a failure comes last. -/
def ofKeeper (k : Keeper NetworkSession Host) (failure : Option Failure) : Outcome where
  exitCode := if failure.isSome then 1 else 0
  out := k.console.bytesOn .out
  err := k.console.bytesOn .err ++ (failure.map fun f => Text.utf8 f.report).getD []
  sessions := k.everySession

end Outcome

/-- Carry out an invocation on a host. -/
def Invocation.run (reads : String → Except Failure Unit) (i : Invocation) (filter : Option String)
    (host : Host) : Outcome :=
  match configure reads host.files i.given filter with
  | .error failure => .ofFailure failure
  | .ok config =>
      let (k, failure) := i.runKeeper config.connection host
      .ofKeeper k failure

/-- Carry out a command line on a host; `filter` is the log filter of the environment. -/
def run (reads : String → Except Failure Unit) (args : List String) (filter : Option String)
    (host : Host) : Outcome :=
  match Invocation.parse args with
  | .error stop => .ofStop stop
  | .ok i => i.run reads filter host

end SessionKeeper.Cli
