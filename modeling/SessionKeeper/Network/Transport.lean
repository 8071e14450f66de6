import SessionKeeper.Tls.Policy
import SessionKeeper.Wire.Frame

/-!
# Transports

A transport carries bytes both ways between a client and its peer. What comes of every call is
settled by the peer: the bytes that can be read, the failures that reads meet when these are too
few, and the bytes behind the failures; which writes fail, and how; and whether a TLS handshake
succeeds. What the client wrote is kept in order. A transport starts in the clear and may be
encrypted once.
-/

namespace SessionKeeper

/-- A failure that a read meets, and what has come once the next one is tried. -/
structure Interruption where
  failure : TransportFailure
  bytes : Bytes
  deriving DecidableEq, Repr

/-- What comes of a TLS handshake with a peer, whatever the peer sends in the clear. -/
inductive TlsAnswer where
  /-- The handshake fails, for the given reason. -/
  | refusal (reason : String)
  /-- The handshake succeeds, and over the encrypted transport the bytes come, and others behind
  interruptions. -/
  | success (bytes : Bytes) (later : List Interruption)
  deriving DecidableEq, Repr

/-- Something that a client wrote. -/
inductive Written where
  | clear (bytes : Bytes)
  /-- The beginning of a TLS handshake, with what the client asks. -/
  | hello (config : TlsConfig)
  | encrypted (bytes : Bytes)
  deriving DecidableEq, Repr

/-- A transport as the client sees it. -/
structure Transport where
  /-- The number of the transport, in the order in which they were opened. -/
  number : Nat
  /-- What the peer has sent and the client has not read. -/
  unread : Bytes
  /-- The interruptions before which all of that is read or lost. -/
  later : List Interruption
  /-- Whether the peer sends nothing more behind the last of them. -/
  ended : Bool
  /-- The outcomes of the next writes, each with a failure or without one. -/
  sends : List (Option TransportFailure)
  /-- Whether the peer takes what is written after these. -/
  heard : Bool
  tlsAnswer : TlsAnswer
  encrypted : Bool
  /-- What the client wrote, oldest first. -/
  written : List Written
  /-- What it tried to write when a write failed: any part of it may have reached the peer. -/
  broken : List Written
  deriving DecidableEq, Repr

namespace Transport

/-- The failure of a write, if as many others as given come before it. -/
def sendFailure? (t : Transport) (earlier : Nat) : Option TransportFailure :=
  t.sends[earlier]?.getD (if t.heard then none else some .disconnected)

/-- Write bytes. -/
def write (bytes : Bytes) : EStateM SessionError Transport Unit := fun t =>
  let part : Written := if t.encrypted then .encrypted bytes else .clear bytes
  match t.sendFailure? 0 with
  | some failure =>
      .error (.ofTransport failure) { t with sends := t.sends.tail, broken := t.broken ++ [part] }
  | none => .ok () { t with sends := t.sends.tail, written := t.written ++ [part] }

/-- The failure that a read meets if it asks for more than there is. -/
def shortage (t : Transport) : TransportFailure :=
  match t.later with
  | [] => if t.ended then .disconnected else .timeout
  | next :: _ => next.failure

/-- The transport after such a read: what there was is lost. -/
def interrupted (t : Transport) : Transport :=
  match t.later with
  | [] => { t with unread := [] }
  | next :: later => { t with unread := next.bytes, later }

/-- Read exactly the given number of bytes. -/
def read (count : Nat) : EStateM SessionError Transport Bytes := fun t =>
  if count ≤ t.unread.length then
    .ok (t.unread.take count) { t with unread := t.unread.drop count }
  else .error (.ofTransport t.shortage) t.interrupted

/-- Read a frame: a header, and the length of type and payload that it announces. -/
def readFrame : EStateM SessionError Transport Frame := fun t =>
  match read Frame.headerLength t with
  | .error e t => .error e t
  | .ok header t =>
      match Frame.bodyLength header with
      | .error e => .error e t
      | .ok length =>
          match read length t with
          | .error e t => .error e t
          | .ok [] t => .error (.malformed "frame without message type") t
          | .ok (type :: payload) t => .ok ⟨type, payload⟩ t

/-- The error of a session whose handshake failed. -/
def handshakeError (reason : String) : SessionError :=
  ⟨Code.tlsFailed, "SSL connection error: " ++ reason⟩

/-- Encrypt a transport in the clear. The handshake begins with a greeting of the client, and takes
what was sent in the clear. -/
def encrypt (config : TlsConfig) : EStateM SessionError Transport Unit := fun t =>
  let greeted := { t with written := t.written ++ [Written.hello config] }
  match t.tlsAnswer with
  | .refusal reason => .error (handshakeError reason) { greeted with unread := [] }
  | .success bytes later => .ok () { greeted with unread := bytes, later, encrypted := true }

/-- The bytes that the client wrote in the clear. -/
def clearBytes (t : Transport) : Bytes :=
  t.written.flatMap fun part =>
    match part with
    | .clear bytes => bytes
    | _ => []

/-! ### The other end -/

/-- The peer sends bytes, behind all others. -/
def deliver (bytes : Bytes) (t : Transport) : Transport :=
  if t.ended then t
  else
    match t.later.getLast? with
    | none => { t with unread := t.unread ++ bytes }
    | some last =>
        { t with later := t.later.dropLast ++ [{ last with bytes := last.bytes ++ bytes }] }

/-- The peer sends nothing more. -/
def finish (t : Transport) : Transport :=
  { t with ended := true }

/-! ### What reading consumes -/

/-- What is read was at the front of the bytes that were there. -/
theorem unread_of_read {count : Nat} {t u : Transport} {bytes : Bytes}
    (h : read count t = .ok bytes u) :
    t.unread = bytes ++ u.unread ∧ bytes.length = count := by
  simp only [read] at h
  split at h
  · next hle =>
      cases h
      simp [hle]
  · cases h

/-- A frame takes its own bytes from what was there, and nothing else. -/
theorem length_unread_of_readFrame {t u : Transport} {f : Frame} (h : readFrame t = .ok f u) :
    u.unread.length + f.size = t.unread.length := by
  simp only [readFrame] at h
  split at h
  · cases h
  · rename_i header v hheader
    split at h
    · cases h
    · split at h
      · cases h
      · cases h
      · rename_i length hlength type payload w hbody
        cases h
        have h1 := unread_of_read hheader
        have h2 := unread_of_read hbody
        rw [h1.1, h2.1]
        simp only [List.length_append, List.length_cons, h1.2, Frame.size]
        omega

end Transport

end SessionKeeper
