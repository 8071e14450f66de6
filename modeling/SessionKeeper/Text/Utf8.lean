import SessionKeeper.Bytes

/-!
# Text as bytes

`utf8` and `ofUtf8?` go between text and its UTF-8 bytes, and `ofUtf8?_utf8` says that reading
undoes writing. `lossy` reads any bytes: each longest run of bytes that begins a character and
cannot be finished, and each byte that begins none, becomes one replacement character.
-/

namespace SessionKeeper.Text

/-- The UTF-8 bytes of a text. -/
def utf8 (s : String) : Bytes :=
  s.toByteArray.data.toList

/-- The text that the bytes spell in UTF-8, if they do. -/
def ofUtf8? (bytes : Bytes) : Option String :=
  String.fromUTF8? ⟨bytes.toArray⟩

@[simp]
theorem ofUtf8?_utf8 (s : String) : ofUtf8? (utf8 s) = some s := by
  simp [ofUtf8?, utf8, String.fromUTF8?, s.isValidUTF8, String.fromUTF8]

/-- Different texts have different bytes. -/
theorem utf8_injective {s t : String} (h : utf8 s = utf8 t) : s = t := by
  have hs := ofUtf8?_utf8 s
  rw [h, ofUtf8?_utf8] at hs
  exact (Option.some.inj hs).symm

/-- The character that stands for bytes that spell none. -/
def replacement : Char := '\uFFFD'

/-- The ranges, least and greatest byte, of the bytes that may follow a leading byte; `none` for
a byte that begins no character. -/
def followers (lead : UInt8) : Option (List (UInt8 × UInt8)) :=
  if lead < 0x80 then some []
  else if lead < 0xC2 then none
  else if lead < 0xE0 then some [(0x80, 0xBF)]
  else if lead < 0xF0 then
    some [(if lead = 0xE0 then 0xA0 else 0x80, if lead = 0xED then 0x9F else 0xBF), (0x80, 0xBF)]
  else if lead < 0xF5 then
    some [(if lead = 0xF0 then 0x90 else 0x80, if lead = 0xF4 then 0x8F else 0xBF), (0x80, 0xBF),
      (0x80, 0xBF)]
  else none

/-- The payload bits of a leading byte that has `count` followers. -/
def leadBits (lead : UInt8) : (count : Nat) → Nat
  | 0 => lead.toNat
  | 1 => lead.toNat % 32
  | 2 => lead.toNat % 16
  | _ => lead.toNat % 8

/-- Read followers while they are in range, six bits each. The result is the code point, or
`none` if a follower is missing, and the bytes after those that were read. -/
def readFollowers : (ranges : List (UInt8 × UInt8)) → (code : Nat) → Bytes → Option Nat × Bytes
  | [], code, rest => (some code, rest)
  | _ :: _, _, [] => (none, [])
  | (low, high) :: ranges, code, b :: rest =>
      if low ≤ b ∧ b ≤ high then readFollowers ranges (code * 64 + b.toNat % 64) rest
      else (none, b :: rest)

/-- Reading followers never lengthens the input. -/
theorem length_readFollowers (ranges : List (UInt8 × UInt8)) (code : Nat) (bytes : Bytes) :
    (readFollowers ranges code bytes).2.length ≤ bytes.length := by
  fun_induction readFollowers ranges code bytes with
  | case1 => exact Nat.le_refl _
  | case2 => exact Nat.le_refl _
  | case3 low high ranges code b rest h ih => exact Nat.le_succ_of_le ih
  | case4 => exact Nat.le_refl _

/-- The characters of any bytes, with one replacement character for each maximal invalid part. -/
def lossyChars : Bytes → List Char
  | [] => []
  | lead :: rest =>
      match followers lead with
      | none => replacement :: lossyChars rest
      | some ranges =>
          ((readFollowers ranges (leadBits lead ranges.length) rest).1.elim replacement
              Char.ofNat) ::
            lossyChars (readFollowers ranges (leadBits lead ranges.length) rest).2
termination_by bytes => bytes.length
decreasing_by
  · simp
  · exact Nat.lt_succ_of_le (length_readFollowers _ _ _)

/-- The text of any bytes, with one replacement character for each maximal invalid part. -/
def lossy (bytes : Bytes) : String :=
  String.ofList (lossyChars bytes)

end SessionKeeper.Text
