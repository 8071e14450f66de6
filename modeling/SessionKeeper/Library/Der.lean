import SessionKeeper.Bytes

/-!
# Tagged elements

Certificates and keys are trees of elements; each has a tag, the length of its content and the
content. A length takes as few bytes as possible, so that an element has one written form.
-/

namespace SessionKeeper.Der

/-- A tag with its content. -/
structure Element where
  tag : UInt8
  content : Bytes
  deriving DecidableEq, Repr

/-- The tag of integers. -/
def integer : UInt8 := 0x02

/-- The tag of bit strings. -/
def bitString : UInt8 := 0x03

/-- The tag of strings of bytes. -/
def octetString : UInt8 := 0x04

/-- The tag of sequences. -/
def sequence : UInt8 := 0x30

/-- The tag of the part of an element that has the given number and holds other elements. -/
def part (number : UInt8) : UInt8 := 0xA0 + number

/-- The number that bytes spell, most significant byte first. -/
def bigEndian (bytes : Bytes) : Nat :=
  Bytes.toNat bytes.reverse

/-- A length and what follows it. Lengths from 128 on have a byte that tells in how many bytes, at
most four, they are written. -/
def readLength : Bytes → Option (Nat × Bytes)
  | [] => none
  | first :: rest =>
      if first < 0x80 then some (first.toNat, rest)
      else
        let count := first.toNat - 0x80
        let length := bigEndian (rest.take count)
        if count = 0 ∨ 4 < count ∨ rest.length < count ∨ length < 128 ∨
            length < Nat.pow 256 (count - 1) then none
        else some (length, rest.drop count)

/-- The first element and what follows it. -/
def readElement : Bytes → Option (Element × Bytes)
  | [] => none
  | tag :: rest =>
      if tag &&& 0x1F = 0x1F then none
      else
        match readLength rest with
        | none => none
        | some (length, rest) =>
            if rest.length < length then none
            else some (⟨tag, rest.take length⟩, rest.drop length)

/-- The content of the first element, which must have the given tag, and what follows it. -/
def expect (tag : UInt8) (bytes : Bytes) : Option (Bytes × Bytes) :=
  match readElement bytes with
  | none => none
  | some (element, rest) => if element.tag = tag then some (element.content, rest) else none

/-- The content of the only element, which must have the given tag. -/
def only (tag : UInt8) (bytes : Bytes) : Option Bytes :=
  match expect tag bytes with
  | some (content, []) => some content
  | _ => none

/-- The bits of a bit string that fills whole bytes. -/
def wholeBits : Bytes → Option Bytes
  | 0 :: bits => some bits
  | _ => none

/-- Whether the bytes are elements of one tag, at most `fuel` of them. -/
def allOf (tag : UInt8) : (fuel : Nat) → Bytes → Bool
  | _, [] => true
  | 0, _ :: _ => false
  | fuel + 1, bytes =>
      match expect tag bytes with
      | none => false
      | some (_, rest) => allOf tag fuel rest

end SessionKeeper.Der
