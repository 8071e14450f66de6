import SessionKeeper.Library.Base64
import SessionKeeper.Text.Quoted
import SessionKeeper.Text.Utf8
import SessionKeeper.Tls.Reader

/-!
# Armored files

A file of certificates or keys has sections, each in base64 between a line that begins and a line
that ends it; both lines name the kind of the section. Text between sections is passed over, and so
are sections of an unknown kind.
-/

namespace SessionKeeper.Armor

/-- The kinds of sections that are read. -/
inductive Kind where
  | certificate
  | publicKey
  | rsaKey
  | wrappedKey
  | curveKey
  | revocations
  | request
  | helloKeys
  deriving DecidableEq, Repr

/-- The kinds with their labels. -/
def labels : List (String × Kind) :=
  [("CERTIFICATE", .certificate), ("PUBLIC KEY", .publicKey), ("RSA PRIVATE KEY", .rsaKey),
    ("PRIVATE KEY", .wrappedKey), ("EC PRIVATE KEY", .curveKey), ("X509 CRL", .revocations),
    ("CERTIFICATE REQUEST", .request), ("ECHCONFIG", .helloKeys)]

/-- The kind of a label. -/
def kind? (label : Bytes) : Option Kind :=
  (labels.find? fun entry => Text.utf8 entry.1 == label).map Prod.snd

/-- A section: its kind and what it holds. -/
structure Section where
  kind : Kind
  content : Bytes
  deriving DecidableEq, Repr

/-- Why a section cannot be read. -/
inductive Fault where
  | missingEnd (label : Bytes)
  | illegalStart (line : Bytes)
  | content (fault : Base64.Fault)
  deriving DecidableEq, Repr

/-- The text of a fault. -/
def Fault.text : Fault → String
  | missingEnd label => "section end " ++ Text.quote (Text.lossy label) ++ " missing"
  | illegalStart line => "illegal section start: " ++ Text.quote (Text.lossy line)
  | content fault => fault.text

/-- Whether a byte ends a line. -/
def endsLine (b : UInt8) : Bool := b == 10 || b == 13

/-- The lines of a file, each with the byte that ends it. -/
def lines : Bytes → List Bytes
  | [] => []
  | b :: rest =>
      if endsLine b then [b] :: lines rest
      else
        match lines rest with
        | [] => [[b]]
        | line :: later => (b :: line) :: later

/-- What a line that begins a section starts with. -/
def startMark : Bytes := Text.utf8 "-----BEGIN "

/-- What a line that ends a section starts with. -/
def endMark : Bytes := Text.utf8 "-----END "

/-- The dashes behind a label. -/
def dashes : Bytes := Text.utf8 "-----"

/-- The dashes and blanks at the end of a line. -/
def trailer (line : Bytes) : Bytes :=
  (line.reverse.takeWhile fun b => b == 45 || b == 32 || endsLine b).reverse

/-- The label in a line that begins a section, if exactly five dashes follow it. -/
def label? (line : Bytes) : Option Bytes :=
  let tail := (trailer line).dropWhile (· != 45)
  if tail.count 45 = 5 then
    some ((line.take (line.length - tail.length)).drop startMark.length)
  else none

/-- Whether a line ends the section of a label. -/
def isEnd (label line : Bytes) : Bool :=
  (endMark ++ label ++ dashes).isPrefixOf line

/-- Read sections from lines. The label of the section that is open comes first, and then the lines
that were collected for it. Reading ends with the first fault. -/
def sectionsOf (label : Option Bytes) (collected : Bytes) :
    List Bytes → List (Except Fault Section)
  | [] =>
      match label with
      | none => []
      | some label => [.error (.missingEnd label)]
  | line :: rest =>
      if startMark.isPrefixOf line then
        match label? line with
        | none => [.error (.illegalStart line)]
        | some label => sectionsOf (some label) collected rest
      else
        match label with
        | none => sectionsOf none collected rest
        | some label =>
            if isEnd label line then
              match kind? label with
              | none => sectionsOf none [] rest
              | some kind =>
                  match Base64.decode collected with
                  | .error fault => [.error (.content fault)]
                  | .ok content => .ok ⟨kind, content⟩ :: sectionsOf none [] rest
            else sectionsOf (some label) (collected ++ line) rest

/-- The sections of a file up to the first fault. -/
def sections (file : Bytes) : List (Except Fault Section) :=
  sectionsOf none [] (lines file)

/-- The certificates of a file. -/
def certificates (file : Bytes) : Except Fault (List Bytes) :=
  ((sections file).mapM id).map fun read =>
    (read.filter (·.kind == .certificate)).map (·.content)

/-- The form of a private key in a section, if there is one. -/
def Kind.keyForm? : Kind → Option KeyForm
  | rsaKey => some .pkcs1
  | wrappedKey => some .pkcs8
  | curveKey => some .sec1
  | _ => none

/-- The first private key among sections. -/
def firstKey : List (Except Fault Section) → Except Fault (Option PrivateKey)
  | [] => .ok none
  | .error fault :: _ => .error fault
  | .ok read :: rest =>
      match read.kind.keyForm? with
      | some form => .ok (some ⟨form, read.content⟩)
      | none => firstKey rest

end SessionKeeper.Armor
