import SessionKeeper.Options
import SessionKeeper.SystemError
import SessionKeeper.Text.Blank

/-!
# Network addresses

A host is given by an address in one of its written forms, or by a name. An address of version 4
has four numbers between dots; one of version 6 has eight groups of hexadecimal digits between
colons, where two colons stand for as many zero groups as are missing, and the last two groups may
be written like an address of version 4.
-/

namespace SessionKeeper

/-- A network address. -/
inductive Address where
  | v4 (bytes : List UInt8)
  | v6 (groups : List UInt16)
  deriving DecidableEq, Repr

namespace Address

/-- The value of a digit in a base of at most sixteen. -/
def digitValue? (base : Nat) (c : Char) : Option Nat :=
  let value :=
    if '0' ≤ c ∧ c ≤ '9' then c.toNat - 48
    else if 'a' ≤ c ∧ c ≤ 'f' then c.toNat - 87
    else if 'A' ≤ c ∧ c ≤ 'F' then c.toNat - 55
    else 16
  if value < base then some value else none

/-- The number that digits spell, behind the number read so far. -/
def readDigits (base : Nat) (n : Nat) : List Char → Option Nat
  | [] => some n
  | c :: cs =>
      match digitValue? base c with
      | none => none
      | some value => readDigits base (n * base + value) cs

/-- A number between dots: one to three digits without a superfluous zero, at most 255. -/
def byte? (cs : List Char) : Option UInt8 :=
  if cs.isEmpty ∨ 3 < cs.length ∨ (1 < cs.length ∧ cs.head? = some '0') then none
  else
    match readDigits 10 0 cs with
    | none => none
    | some n => if n < 256 then some (UInt8.ofNat n) else none

/-- The four numbers of an address of version 4. -/
def v4Bytes? (cs : List Char) : Option (List UInt8) :=
  let pieces := Text.splitChars '.' cs
  if pieces.length = 4 then pieces.mapM byte? else none

/-- A group: one to four hexadecimal digits. -/
def group? (cs : List Char) : Option UInt16 :=
  if cs.isEmpty ∨ 4 < cs.length then none else (readDigits 16 0 cs).map UInt16.ofNat

/-- Two groups from the four numbers of an address of version 4. -/
def groupsOfBytes : List UInt8 → List UInt16
  | a :: b :: rest => (a.toUInt16 * 256 + b.toUInt16) :: groupsOfBytes rest
  | _ => []

/-- The groups of a list of pieces, of which only the last may be an address of version 4. -/
def groups? : List (List Char) → Option (List UInt16)
  | [] => some []
  | [last] =>
      match v4Bytes? last with
      | some bytes => some (groupsOfBytes bytes)
      | none => (group? last).map ([·])
  | piece :: pieces =>
      match group? piece, groups? pieces with
      | some group, some groups => some (group :: groups)
      | _, _ => none

/-- The groups of a text without two colons in a row; the empty text has none. -/
def groupsOf? (cs : List Char) : Option (List UInt16) :=
  if cs.isEmpty then some [] else groups? (Text.splitChars ':' cs)

/-- The parts of a text before and behind its first two colons in a row. -/
def splitGap : List Char → Option (List Char × List Char)
  | [] => none
  | ':' :: ':' :: rest => some ([], rest)
  | c :: cs => (splitGap cs).map fun parts => (c :: parts.1, parts.2)

/-- The eight groups of an address of version 6. -/
def v6Groups? (cs : List Char) : Option (List UInt16) :=
  match splitGap cs with
  | none => (groupsOf? cs).filter (·.length = 8)
  | some (front, back) =>
      if front.contains '.' then none
      else
        match groupsOf? front, groupsOf? back with
        | some first, some last =>
            if first.length + last.length ≤ 7 then
              some (first ++ List.replicate (8 - first.length - last.length) 0 ++ last)
            else none
        | _, _ => none

/-- The address that a text is the written form of. -/
def parse? (text : String) : Option Address :=
  match v4Bytes? text.toList with
  | some bytes => some (v4 bytes)
  | none => (v6Groups? text.toList).map v6

/-- A number in a loose form: hexadecimal behind `0x`, octal behind any other zero, else decimal. -/
def looseNumber? : List Char → Option Nat
  | [] => none
  | '0' :: 'x' :: digits | '0' :: 'X' :: digits =>
      if digits.isEmpty then none else readDigits 16 0 digits
  | '0' :: digits => readDigits 8 0 digits
  | digits => readDigits 10 0 digits

/-- The bytes of a number, the most significant one first. -/
def bigEndian : (width : Nat) → Nat → List UInt8
  | 0, _ => []
  | width + 1, n => bigEndian width (n / 256) ++ [UInt8.ofNat (n % 256)]

/-- The four numbers of an address of version 4 in a loose form: one to four numbers between dots,
of which the last one fills what the others leave. -/
def looseBytes? (cs : List Char) : Option (List UInt8) :=
  match (Text.splitChars '.' cs).mapM looseNumber? with
  | none => none
  | some numbers =>
      let front := numbers.dropLast
      let last := numbers.getLast?.getD 0
      if 3 < front.length ∨ front.any (255 < ·) ∨ Nat.pow 256 (4 - front.length) ≤ last then none
      else some (front.map UInt8.ofNat ++ bigEndian (4 - front.length) last)

/-- The name of the own host, and its address. -/
def loopbackName : String := "localhost"

/-- The address under which the own host reaches itself. -/
def loopback : Address := v4 [127, 0, 0, 1]

/-- The addresses of a host, or why there is none. An address may also have a loose form; names other
than that of the own host are not known. -/
def lookUp (host : String) : Except String (List Address) :=
  match parse? host with
  | some address => .ok [address]
  | none =>
      if host.toList.contains '\x00' then .error SystemError.zeroInPath.text
      else
        match looseBytes? host.toList with
        | some bytes => .ok [v4 bytes]
        | none =>
            if Text.sameIgnoringCase host loopbackName then .ok [loopback]
            else .error "failed to lookup address information: Name or service not known"

/-- Whether an address belongs to a family. -/
def fits (mode : IpMode) : Address → Bool
  | v4 _ => mode != .ip6
  | v6 _ => mode != .ip4

/-- Why an address cannot be reached on a host that has no route: addresses of the own link need
an interface, and other addresses of version 6 a source address; those that stand for an address
of version 4 and those of groups have no route either. -/
def unreachable : Address → SystemError
  | v4 _ => .networkUnreachable
  | v6 groups =>
      if groups.take 6 = [0, 0, 0, 0, 0, 0xFFFF] then .networkUnreachable
      else if 0xFF00 ≤ groups.headD 0 then .networkUnreachable
      else if 0xFE80 ≤ groups.headD 0 ∧ groups.headD 0 < 0xFEC0 then .invalidArgument
      else .addressUnavailable

end Address

end SessionKeeper
