/-!
# Byte strings

Byte strings are lists of bytes, first byte first, so that what is read from a stream is a list
that gets shorter. Numbers are laid out least significant byte first; `toNat_littleEndian` says
that a number that fits is read back.
-/

namespace SessionKeeper

/-- A byte string, first byte first. -/
abbrev Bytes := List UInt8

namespace Bytes

/-- The low `width` bytes of a number, least significant first. -/
def littleEndian : (width : Nat) → Nat → Bytes
  | 0, _ => []
  | width + 1, n => UInt8.ofNat n :: littleEndian width (n / 256)

/-- The number that the bytes spell, least significant first. -/
def toNat : Bytes → Nat
  | [] => 0
  | b :: bs => b.toNat + 256 * toNat bs

@[simp]
theorem length_littleEndian (width n : Nat) : (littleEndian width n).length = width := by
  induction width generalizing n with
  | zero => rfl
  | succ width ih => simp [littleEndian, ih]

/-- A number below `256 ^ width` is read back from its `width` bytes. -/
theorem toNat_littleEndian {width n : Nat} (h : n < Nat.pow 256 width) :
    toNat (littleEndian width n) = n := by
  induction width generalizing n with
  | zero =>
      have hzero : n = 0 := Nat.lt_one_iff.mp h
      subst hzero
      rfl
  | succ width ih =>
      have hdiv : n / 256 < Nat.pow 256 width := (Nat.div_lt_iff_lt_mul (by decide)).mpr h
      simp only [littleEndian, toNat, ih hdiv, UInt8.toNat_ofNat']
      omega

/-- Bytes are the layout of the number that they spell. -/
theorem littleEndian_toNat (bs : Bytes) : littleEndian bs.length (toNat bs) = bs := by
  induction bs with
  | nil => rfl
  | cons b bs ih =>
      have hb := b.toNat_lt
      have hlow : UInt8.ofNat (b.toNat + 256 * toNat bs) = b := by
        apply UInt8.toNat_inj.mp
        rw [UInt8.toNat_ofNat']
        omega
      have hhigh : (b.toNat + 256 * toNat bs) / 256 = toNat bs := by omega
      simp only [List.length_cons, littleEndian, toNat, hlow, hhigh, ih]

end Bytes

end SessionKeeper
