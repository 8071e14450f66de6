/-!
# Counters

A ledger counts what became of sessions, and traffic what they sent and received. All counters
have 64 bits and wrap around.
-/

namespace SessionKeeper

/-- What became of sessions. -/
structure Ledger where
  opened : UInt64
  closed : UInt64
  aborted : UInt64
  failed : UInt64
  /-- Closing exchanges in which the server did not answer with a farewell. -/
  violations : UInt64
  deriving DecidableEq, Repr

namespace Ledger

/-- Nothing has happened. -/
def zero : Ledger := ⟨0, 0, 0, 0, 0⟩

/-- A session was opened. -/
def countOpened (l : Ledger) : Ledger := { l with opened := l.opened + 1 }

/-- A session was closed. -/
def countClosed (l : Ledger) : Ledger := { l with closed := l.closed + 1 }

/-- A session was aborted. -/
def countAborted (l : Ledger) : Ledger := { l with aborted := l.aborted + 1 }

/-- A session could not be connected. -/
def countFailed (l : Ledger) : Ledger := { l with failed := l.failed + 1 }

/-- A farewell was not answered as it should be. -/
def countViolation (l : Ledger) : Ledger := { l with violations := l.violations + 1 }

end Ledger

/-- What was sent and received. -/
structure Traffic where
  messagesSent : UInt64
  bytesSent : UInt64
  messagesReceived : UInt64
  bytesReceived : UInt64
  deriving DecidableEq, Repr

namespace Traffic

/-- Nothing was sent or received. -/
def zero : Traffic := ⟨0, 0, 0, 0⟩

/-- A message of the given size was sent. -/
def countSent (t : Traffic) (size : Nat) : Traffic :=
  { t with messagesSent := t.messagesSent + 1, bytesSent := t.bytesSent + UInt64.ofNat size }

/-- A message of the given size was received. -/
def countReceived (t : Traffic) (size : Nat) : Traffic :=
  { t with
    messagesReceived := t.messagesReceived + 1
    bytesReceived := t.bytesReceived + UInt64.ofNat size }

/-- The traffic of both. -/
def add (s t : Traffic) : Traffic :=
  ⟨s.messagesSent + t.messagesSent, s.bytesSent + t.bytesSent,
    s.messagesReceived + t.messagesReceived, s.bytesReceived + t.bytesReceived⟩

end Traffic

/-- All counters. -/
structure Metrics where
  ledger : Ledger
  traffic : Traffic
  deriving DecidableEq, Repr

namespace Metrics

/-- Nothing has happened. -/
def zero : Metrics := ⟨.zero, .zero⟩

/-- The decimal digits of a counter. -/
def shown (n : UInt64) : String := toString n.toNat

/-- The report of three lines. -/
def display (m : Metrics) : String :=
  "sessions: opened=" ++ shown m.ledger.opened ++ " closed=" ++ shown m.ledger.closed ++
    " aborted=" ++ shown m.ledger.aborted ++ " failed=" ++ shown m.ledger.failed ++ "\n" ++
    "close violations: " ++ shown m.ledger.violations ++ "\n" ++
    "messages: sent=" ++ shown m.traffic.messagesSent ++ " (" ++ shown m.traffic.bytesSent ++
    " bytes) received=" ++ shown m.traffic.messagesReceived ++ " (" ++
    shown m.traffic.bytesReceived ++ " bytes)"

end Metrics

end SessionKeeper
