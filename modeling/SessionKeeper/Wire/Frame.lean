import SessionKeeper.Bytes
import SessionKeeper.Error

/-!
# Frames

A frame is a length of four bytes, a type byte and a payload; the length counts the type byte and
the payload. Frames of more than 64 MiB are not accepted.
-/

namespace SessionKeeper

/-- A message type with its payload. -/
structure Frame where
  type : UInt8
  payload : Bytes
  deriving DecidableEq, Repr

namespace Frame

/-- The size of the length in front of a frame. -/
def headerLength : Nat := 4

/-- The greatest length that is accepted. -/
def maxLength : Nat := 64 * 1024 * 1024

/-- The bytes of a frame. -/
def encode (f : Frame) : Bytes :=
  Bytes.littleEndian headerLength (f.payload.length + 1) ++ f.type :: f.payload

/-- The number of bytes of a frame. -/
def size (f : Frame) : Nat :=
  headerLength + 1 + f.payload.length

/-- The length of type byte and payload that a header announces, if it is accepted. -/
def bodyLength (header : Bytes) : Except SessionError Nat :=
  let length := Bytes.toNat header
  if length = 0 then .error (.malformed "frame without message type")
  else if maxLength < length then
    .error (.malformed ("frame of " ++ toString length ++ " bytes exceeds limit"))
  else .ok length

/-- The frames at the front of some bytes, as far as they are complete, and what is left. -/
def splitAll (bytes : Bytes) : List Frame × Bytes :=
  match bytes with
  | [] => ([], [])
  | b :: bs =>
      let length := Bytes.toNat ((b :: bs).take headerLength)
      match ((b :: bs).drop headerLength).take length with
      | [] => ([], b :: bs)
      | type :: payload =>
          if payload.length + 1 = length then
            let later := splitAll ((b :: bs).drop (headerLength + length))
            (⟨type, payload⟩ :: later.1, later.2)
          else ([], b :: bs)
termination_by bytes.length
decreasing_by
  simp only [List.length_drop, List.length_cons, headerLength]
  omega

@[simp]
theorem length_encode (f : Frame) : f.encode.length = f.size := by
  simp [encode, size]
  omega

end Frame

end SessionKeeper
