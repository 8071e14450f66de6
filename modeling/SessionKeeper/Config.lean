import SessionKeeper.Files
import SessionKeeper.Options
import SessionKeeper.Text.Quoted
import SessionKeeper.Toml.Record

/-!
# Configurations

A configuration has the options of the connection and those of logging. It is read from a file and
checked, and the first fault is reported.
-/

namespace SessionKeeper

/-- What is logged, and how. -/
structure LogOptions where
  level : String := "warn"
  format : String := "pretty"
  deriving DecidableEq, Repr

/-- A configuration. -/
structure Config where
  connection : Options := {}
  logging : LogOptions := {}
  deriving DecidableEq, Repr

/-- What is wrong with options. -/
inductive OptionsFault where
  /-- Without a local socket a port is needed. -/
  | zeroPort
  | unknownMode (mode : String)
  | zeroTimeout
  deriving DecidableEq, Repr

/-- The text of a fault. -/
def OptionsFault.text : OptionsFault → String
  | zeroPort => "connection.port must be > 0 when no socket is given"
  | unknownMode mode => "unknown connection.ssl.ssl_mode: " ++ mode
  | zeroTimeout => "connection.connect_timeout_ms must be > 0"

/-- Check options. -/
def Options.check (o : Options) : Except OptionsFault Unit :=
  if o.socket.isEmpty ∧ o.port = 0 then .error .zeroPort
  else if ¬ TlsOptions.modes.contains (Text.upper o.tls.mode) then .error (.unknownMode o.tls.mode)
  else if o.connectTimeoutMs = 0 then .error .zeroTimeout
  else .ok ()

/-- Why a configuration cannot be loaded. -/
inductive ConfigFault where
  | unreadable (path cause : String)
  | malformed
  | options (fault : OptionsFault)
  deriving DecidableEq, Repr

namespace ConfigFault

/-- The text of a fault. -/
def text : ConfigFault → String
  | unreadable path _ => "Failed to read config file: " ++ Text.quote path
  | malformed => "Failed to parse config file"
  | options fault => fault.text

/-- What lies behind a fault, as far as it is known. -/
def causes : ConfigFault → List String
  | unreadable _ cause => [cause]
  | malformed | options _ => []

end ConfigFault

namespace Config

open Toml

/-- The mode of a name in a file, where names are exact. -/
def ipMode? : String → Option IpMode
  | "ip4" => some .ip4
  | "ip6" => some .ip6
  | "any" => some .any
  | _ => none

/-- The parts of TLS options. -/
def tlsParts : List (RecordPart TlsOptions) :=
  [.of "ssl_mode" Value.text? fun value o => { o with mode := value },
    .of "ssl_ca" Value.text? fun value o => { o with ca := value },
    .of "ssl_ca_path" Value.text? fun value o => { o with caPath := value },
    .of "ssl_cert" Value.text? fun value o => { o with cert := value },
    .of "ssl_key" Value.text? fun value o => { o with key := value },
    .of "ssl_cipher" Value.text? fun value o => { o with ciphers := value },
    .of "allowed_tls" Value.text? fun value o => { o with versions := value }]

/-- The parts of the options of a connection. -/
def optionParts : List (RecordPart Options) :=
  [.of "host" Value.text? fun value o => { o with host := value },
    .of "port" (Value.natBelow? UInt16.size) fun value o => { o with port := UInt16.ofNat value },
    .of "socket" Value.text? fun value o => { o with socket := value },
    .of "user" Value.text? fun value o => { o with user := value },
    .of "password" Value.text? fun value o => { o with password := value },
    .of "schema" Value.text? fun value o => { o with schema := value },
    .of "ssl" (readRecord tlsParts .empty) fun value o => { o with tls := value },
    .of "ip_mode" (fun value => value.name?.bind ipMode?) fun value o => { o with ipMode := value },
    .of "dont_wait_for_disconnect" Value.bool? fun value o => { o with skipWait := value },
    .of "connect_timeout_ms" (Value.natBelow? UInt64.size) fun value o =>
      { o with connectTimeoutMs := UInt64.ofNat value },
    .of "read_timeout_ms" (Value.natBelow? UInt64.size) fun value o =>
      { o with readTimeoutMs := UInt64.ofNat value }]

/-- The parts of the options of logging. -/
def logParts : List (RecordPart LogOptions) :=
  [.of "level" Value.text? fun value o => { o with level := value },
    .of "format" Value.text? fun value o => { o with format := value }]

/-- The parts of a configuration. -/
def parts : List (RecordPart Config) :=
  [.of "connection" (readRecord optionParts {}) fun value c => { c with connection := value },
    .of "logging" (readRecord logParts {}) fun value c => { c with logging := value }]

/-- The configuration that a text describes. -/
def parse? (text : String) : Option Config :=
  (Toml.parse? text).bind fun entries => putEntries entries parts {}

/-- Check a configuration. -/
def check (c : Config) : Except ConfigFault Config :=
  match c.connection.check with
  | .error fault => .error (.options fault)
  | .ok () => .ok c

/-- What is said of a file that is no text. -/
def notText : String := "stream did not contain valid UTF-8"

/-- The text of a file. -/
def readText (files : Files) (path : String) : Except ConfigFault String :=
  match files.read path with
  | .error e => .error (.unreadable path e.text)
  | .ok bytes =>
      match Text.ofUtf8? bytes with
      | none => .error (.unreadable path notText)
      | some text => .ok text

/-- Load a configuration from a file. -/
def load (files : Files) (path : String) : Except ConfigFault Config :=
  match readText files path with
  | .error fault => .error fault
  | .ok text =>
      match parse? text with
      | none => .error .malformed
      | some config => config.check

end Config

end SessionKeeper
