import SessionKeeper.Bytes

/-!
# Base64

Four digits of six bits each spell three bytes. A text may end with two or three digits, with or
without pads up to four places; blanks may stand anywhere.
-/

namespace SessionKeeper.Base64

/-- Why a text spells no bytes. -/
inductive Fault where
  | invalidCharacter (byte : UInt8)
  /-- Something follows a pad. -/
  | prematurePadding
  /-- The text ends with a single digit, or its pads do not fit its digits. -/
  | trailingPadding
  deriving DecidableEq, Repr

/-- The text of a fault. -/
def Fault.text : Fault → String
  | invalidCharacter byte => "InvalidCharacter(" ++ toString byte.toNat ++ ")"
  | prematurePadding => "PrematurePadding"
  | trailingPadding => "InvalidTrailingPadding"

/-- What a character stands for. -/
inductive Symbol where
  | digit (value : Nat)
  | pad
  | blank
  deriving DecidableEq, Repr

/-- What a character stands for, if anything. -/
def symbol? (b : UInt8) : Option Symbol :=
  if 65 ≤ b ∧ b ≤ 90 then some (.digit (b.toNat - 65))
  else if 97 ≤ b ∧ b ≤ 122 then some (.digit (b.toNat - 71))
  else if 48 ≤ b ∧ b ≤ 57 then some (.digit (b.toNat + 4))
  else if b = 43 then some (.digit 62)
  else if b = 47 then some (.digit 63)
  else if b = 61 then some .pad
  else if b = 32 ∨ (9 ≤ b ∧ b ≤ 13) then some .blank
  else none

/-- The first `count` of the three bytes that four digits spell. -/
def quantum (count : Nat) (a b c d : Nat) : Bytes :=
  let n := ((a * 64 + b) * 64 + c) * 64 + d
  [UInt8.ofNat (n / 65536), UInt8.ofNat (n / 256), UInt8.ofNat n].take count

/-- The bytes of the last four places or less. -/
def readLast : List Symbol → Except Fault Bytes
  | [] => .ok []
  | [.digit a, .digit b] | [.digit a, .digit b, .pad, .pad] => .ok (quantum 1 a b 0 0)
  | [.digit a, .digit b, .digit c] | [.digit a, .digit b, .digit c, .pad] => .ok (quantum 2 a b c 0)
  | [.digit a, .digit b, .digit c, .digit d] => .ok (quantum 3 a b c d)
  | _ => .error .trailingPadding

/-- The bytes of four places with more behind them. -/
def readInner : List Symbol → Except Fault Bytes
  | [.digit a, .digit b, .digit c, .digit d] => .ok (quantum 3 a b c d)
  | _ => .error .prematurePadding

/-- The bytes of the last eight places or less. -/
def finish (block : List Symbol) : Except Fault Bytes :=
  if block.length ≤ 4 then readLast block
  else
    match readInner (block.take 4) with
    | .error e => .error e
    | .ok first => (readLast (block.drop 4)).map (first ++ ·)

/-- The bytes of eight places with more behind them. -/
def readBlock (block : List Symbol) : Except Fault Bytes :=
  match readInner (block.take 4) with
  | .error e => .error e
  | .ok first => (readInner (block.drop 4)).map (first ++ ·)

/-- Decode a text behind a block of up to eight symbols that were read already. -/
def decodeBehind (block : List Symbol) : Bytes → Except Fault Bytes
  | [] => finish block
  | b :: rest =>
      match symbol? b with
      | none => .error (.invalidCharacter b)
      | some .blank => decodeBehind block rest
      | some symbol =>
          if block.length < 8 then decodeBehind (block ++ [symbol]) rest
          else
            match readBlock block with
            | .error e => .error e
            | .ok first => (decodeBehind [symbol] rest).map (first ++ ·)

/-- The bytes that a text spells. -/
def decode (text : Bytes) : Except Fault Bytes :=
  decodeBehind [] text

end SessionKeeper.Base64
