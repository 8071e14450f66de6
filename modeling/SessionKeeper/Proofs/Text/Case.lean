import Mathlib.Data.List.Forall2
import SessionKeeper.Text.Ascii

/-!
# Letters in upper case

`Raises` says what a character is in upper case, by the codes of the letters alone, and
`InUpperCase` says the same of texts. `in_upper_case_iff` finds that this is what `upper` computes,
and `upper_eq_of_same` that texts which differ in the case of letters only are the same in upper
case.
-/

namespace SessionKeeper.Text

/-- The second character is the first one in upper case: the code of a letter from a to z is 32
above that of the letter in upper case, and any other character stays as it is. -/
inductive Raises : Char → Char → Prop where
  | letter {c d : Char} (hfirst : 'a' ≤ c) (hlast : c ≤ 'z') (h : d.toNat + 32 = c.toNat) :
      Raises c d
  | other {c : Char} (h : ¬ ('a' ≤ c ∧ c ≤ 'z')) : Raises c c

/-- The second text is the first one in upper case. -/
def InUpperCase (s t : String) : Prop :=
  List.Forall₂ Raises s.toList t.toList

variable {c d : Char} {s t : String}

theorem to_nat_to_upper (hfirst : 'a' ≤ c) (hlast : c ≤ 'z') :
    c.toUpper.toNat + 32 = c.toNat := by
  have hlow : 97 ≤ c.val.toNat := hfirst
  have hhigh : c.val.toNat ≤ 122 := hlast
  have hstep : ('A'.val - 'a'.val).toNat = 2 ^ 32 - 32 := by decide
  have hletter : 'a'.val ≤ c.val ∧ c.val ≤ 'z'.val := ⟨hfirst, hlast⟩
  have hupper : c.toUpper = _ := dif_pos hletter
  rw [hupper]
  show (c.val + ('A'.val - 'a'.val)).toNat + 32 = c.val.toNat
  rw [UInt32.toNat_add, hstep]
  omega

theorem raises_iff : Raises c d ↔ c.toUpper = d := by
  by_cases hletter : 'a' ≤ c ∧ c ≤ 'z'
  · have hupper := to_nat_to_upper hletter.1 hletter.2
    constructor
    · intro h
      cases h with
      | letter _ h => exact Char.toNat_inj.mp (by omega)
      | other h => exact absurd hletter h
    · rintro rfl
      exact .letter hletter.1 hletter.2 hupper
  · have hupper : c.toUpper = c := dif_neg hletter
    rw [hupper]
    constructor
    · intro h
      cases h with
      | letter hfirst hlast => exact absurd ⟨hfirst, hlast⟩ hletter
      | other h => rfl
    · rintro rfl
      exact .other hletter

theorem in_upper_case_iff : InUpperCase s t ↔ upper s = t := by
  have hraises : Raises = fun c d => c.toUpper = d := by
    ext c d
    exact raises_iff
  rw [InUpperCase, hraises, ← List.forall₂_map_left_iff, List.forall₂_eq_eq_eq, upper,
    ← String.toList_inj, String.toList_ofList]

theorem to_nat_to_lower (hfirst : 'A' ≤ c) (hlast : c ≤ 'Z') :
    c.toLower.toNat = c.toNat + 32 := by
  have hlow : 65 ≤ c.val.toNat := hfirst
  have hhigh : c.val.toNat ≤ 90 := hlast
  have hstep : ('a'.val - 'A'.val).toNat = 32 := by decide
  have hletter : 'A'.val ≤ c.val ∧ c.val ≤ 'Z'.val := ⟨hfirst, hlast⟩
  have hlower : c.toLower = _ := dif_pos hletter
  rw [hlower]
  show (c.val + ('a'.val - 'A'.val)).toNat = c.val.toNat + 32
  rw [UInt32.toNat_add, hstep]
  omega

/-- A letter that is put into lower case first is the same in upper case. -/
theorem to_upper_to_lower (c : Char) : c.toLower.toUpper = c.toUpper := by
  by_cases hletter : 'A' ≤ c ∧ c ≤ 'Z'
  · have hlow : 65 ≤ c.toNat := hletter.1
    have hhigh : c.toNat ≤ 90 := hletter.2
    have hlower := to_nat_to_lower hletter.1 hletter.2
    have hraised : Raises c.toLower c :=
      .letter (show 97 ≤ c.toLower.toNat by omega) (show c.toLower.toNat ≤ 122 by omega) hlower.symm
    have hsame : Raises c c := .other fun h => absurd (show 97 ≤ c.toNat from h.1) (by omega)
    rw [raises_iff.mp hraised, raises_iff.mp hsame]
  · have hlower : c.toLower = c := dif_neg hletter
    rw [hlower]

/-- Texts that differ in the case of letters only are the same in upper case. -/
theorem upper_eq_of_same (h : sameIgnoringCase s t = true) : upper s = upper t := by
  have hlower : s.toList.map Char.toLower = t.toList.map Char.toLower := eq_of_beq h
  have hupper := congrArg (List.map Char.toUpper) hlower
  simp only [List.map_map, Function.comp_def, to_upper_to_lower] at hupper
  rw [upper, upper, hupper]

end SessionKeeper.Text
