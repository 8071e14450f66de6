import SessionKeeper.Bytes

/-!
# The SHA-1 digest

A message is padded to whole blocks of 64 bytes. Each block is expanded to eighty words, and each
word drives one round on a state of five words, from which the digest of twenty bytes is read.
-/

namespace SessionKeeper.Sha1

/-- The bytes of a word, most significant first. -/
def wordBytes (w : UInt32) : Bytes :=
  [(w >>> 24).toUInt8, (w >>> 16).toUInt8, (w >>> 8).toUInt8, w.toUInt8]

/-- The words that the bytes spell, most significant byte first. An incomplete word is dropped. -/
def words : Bytes → List UInt32
  | a :: b :: c :: d :: rest =>
      ((a.toUInt32 <<< 24) ||| (b.toUInt32 <<< 16) ||| (c.toUInt32 <<< 8) ||| d.toUInt32) ::
        words rest
  | _ => []

/-- Rotate a word to the left. -/
def rotate (w : UInt32) (amount : UInt32) : UInt32 :=
  (w <<< amount) ||| (w >>> (32 - amount))

/-- The five words that are carried from round to round and from block to block. -/
structure State where
  a : UInt32
  b : UInt32
  c : UInt32
  d : UInt32
  e : UInt32
  deriving DecidableEq, Repr

namespace State

/-- The state before the first block. -/
def initial : State :=
  ⟨0x67452301, 0xEFCDAB89, 0x98BADCFE, 0x10325476, 0xC3D2E1F0⟩

/-- The sum of two states, word by word. -/
def add (s t : State) : State :=
  ⟨s.a + t.a, s.b + t.b, s.c + t.c, s.d + t.d, s.e + t.e⟩

/-- The twenty bytes of a state. -/
def bytes (s : State) : Bytes :=
  wordBytes s.a ++ wordBytes s.b ++ wordBytes s.c ++ wordBytes s.d ++ wordBytes s.e

/-- How the words `b`, `c` and `d` are combined in a round, and the constant that is added. -/
def mix (s : State) (round : Nat) : UInt32 × UInt32 :=
  if round < 20 then ((s.b &&& s.c) ||| ((~~~s.b) &&& s.d), 0x5A827999)
  else if round < 40 then (s.b ^^^ s.c ^^^ s.d, 0x6ED9EBA1)
  else if round < 60 then ((s.b &&& s.c) ||| (s.b &&& s.d) ||| (s.c &&& s.d), 0x8F1BBCDC)
  else (s.b ^^^ s.c ^^^ s.d, 0xCA62C1D6)

/-- One round with a word of the schedule. -/
def step (s : State) (round : Nat) (word : UInt32) : State :=
  let (mixed, constant) := s.mix round
  ⟨rotate s.a 5 + mixed + s.e + constant + word, s.a, rotate s.b 30, s.c, s.d⟩

/-- The rounds from the given one on, one for each word. -/
def rounds (s : State) (round : Nat) : List UInt32 → State
  | [] => s
  | word :: schedule => (s.step round word).rounds (round + 1) schedule

end State

/-- The next word of a schedule behind a window of sixteen words. -/
def nextWord (window : List UInt32) : UInt32 :=
  rotate (window.getD 13 0 ^^^ window.getD 8 0 ^^^ window.getD 2 0 ^^^ window.getD 0 0) 1

/-- A window of sixteen words and the given number of words behind it. -/
def expand : (count : Nat) → (window : List UInt32) → List UInt32
  | 0, window => window
  | _ + 1, [] => []
  | count + 1, word :: window => word :: expand count (window ++ [nextWord (word :: window)])

/-- The state after a block. -/
def absorb (s : State) (block : Bytes) : State :=
  s.add (s.rounds 0 (expand 64 (words block)))

/-- The number of zero bytes that complete a message of the given length, its end mark and the
eight bytes of its length to whole blocks. -/
def zeros (length : Nat) : Nat :=
  (64 - (length + 9) % 64) % 64

/-- The message with an end mark, zeros, and the number of its bits. -/
def pad (message : Bytes) : Bytes :=
  message ++ 0x80 ::
    (List.replicate (zeros message.length) 0 ++
      (Bytes.littleEndian 8 (message.length * 8)).reverse)

/-- The state after all blocks. -/
def absorbAll (s : State) (bytes : Bytes) : State :=
  match bytes with
  | [] => s
  | b :: bs => absorbAll (absorb s ((b :: bs).take 64)) ((b :: bs).drop 64)
termination_by bytes.length
decreasing_by
  simp only [List.length_drop, List.length_cons]
  omega

/-- The digest of a message. -/
def digest (message : Bytes) : Bytes :=
  (absorbAll .initial (pad message)).bytes

@[simp]
theorem State.length_bytes (s : State) : s.bytes.length = 20 := by
  simp [State.bytes, wordBytes]

/-- A digest has twenty bytes. -/
@[simp]
theorem length_digest (message : Bytes) : (digest message).length = 20 :=
  State.length_bytes _

end SessionKeeper.Sha1
