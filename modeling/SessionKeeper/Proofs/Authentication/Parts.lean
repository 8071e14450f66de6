import SessionKeeper.Authentication
import SessionKeeper.Config
import SessionKeeper.Proofs.Outcome

/-!
# The parts of authentication data

Authentication data are taken apart at their first two zero bytes, into schema, user and what is
behind. The main statement, `plain_data_recovered`, says that this recovers what the client was
configured with exactly if neither the schema nor the user has a zero character in it; a password
may have any. Options without such characters are known from the data of an authentication by the
password itself. `plain_data_shared` shows different options with the same data.
-/

namespace SessionKeeper

/-! ## Zero bytes of a text -/

namespace Text

/-- The bytes of a text are those of its characters. -/
theorem utf8_eq_flat_map (s : String) : utf8 s = s.toList.flatMap String.utf8EncodeChar := by
  rw [utf8, ← String.utf8Encode_toList, List.utf8Encode, List.data_toByteArray]

/-- Only the zero character has a zero byte: every byte of a longer character has its high bit. -/
theorem zero_mem_utf8_encode_char {c : Char} (h : 0 ∈ String.utf8EncodeChar c) : c = '\x00' := by
  have hzero : c.val.toNat = 0 := by
    rw [String.utf8EncodeChar] at h
    split at h
    · next hshort =>
        simp [← UInt8.toNat_inj] at h hshort ⊢
        omega
    · exfalso
      split at h
      · simp [← UInt8.toNat_inj] at h
        omega
      · split at h <;> simp [← UInt8.toNat_inj] at h <;> omega
  exact Char.ext (UInt32.toNat_inj.mp hzero)

/-- A text has a zero byte if it has a zero character. -/
theorem zero_mem_utf8_iff {s : String} : 0 ∈ utf8 s ↔ '\x00' ∈ s.toList := by
  rw [utf8_eq_flat_map, List.mem_flatMap]
  constructor
  · rintro ⟨c, hc, hzero⟩
    exact zero_mem_utf8_encode_char hzero ▸ hc
  · exact fun h => ⟨_, h, by decide⟩

end Text

namespace Authentication

/-! ## Taking data apart -/

/-- What stands before the first zero byte, and what stands behind it. -/
def splitAtZero? : Bytes → Option (Bytes × Bytes)
  | [] => none
  | b :: bytes =>
      if b = 0 then some ([], bytes)
      else (splitAtZero? bytes).map fun parts => (b :: parts.1, parts.2)

/-- What stands before the first zero byte, up to the second one, and behind that. -/
def parts? (data : Bytes) : Option (Bytes × Bytes × Bytes) :=
  (splitAtZero? data).bind fun first =>
    (splitAtZero? first.2).map fun second => (first.1, second.1, second.2)

variable {data front behind first second last : Bytes}

theorem split_at_zero_eq_some_iff :
    splitAtZero? data = some (front, behind) ↔ data = front ++ 0 :: behind ∧ 0 ∉ front := by
  constructor
  · intro h
    induction data generalizing front with
    | nil => cases h
    | cons b data ih =>
        rw [splitAtZero?] at h
        split at h
        · next hzero =>
            cases h
            exact ⟨by rw [hzero, List.nil_append], List.not_mem_nil⟩
        · next hother =>
            obtain ⟨⟨later, _⟩, hlater, hparts⟩ := Option.map_eq_some_iff.mp h
            cases hparts
            obtain ⟨rfl, hnone⟩ := ih hlater
            exact ⟨rfl, List.not_mem_cons_of_ne_of_not_mem (Ne.symm hother) hnone⟩
  · rintro ⟨rfl, hnone⟩
    induction front with
    | nil => rfl
    | cons b front ih =>
        rw [List.mem_cons, not_or] at hnone
        obtain ⟨hother, hnone⟩ := hnone
        rw [List.cons_append, splitAtZero?, if_neg (Ne.symm hother), ih hnone]
        rfl

/-- Data have the parts that are found if they consist of them and the first two have no zero. -/
theorem parts_eq_some_iff :
    parts? data = some (first, second, last) ↔
      data = first ++ 0 :: (second ++ 0 :: last) ∧ 0 ∉ first ∧ 0 ∉ second := by
  simp only [parts?, Option.bind_eq_some_iff, Option.map_eq_some_iff]
  constructor
  · rintro ⟨⟨_, behind⟩, hfirst, ⟨_, _⟩, hsecond, heq⟩
    cases heq
    obtain ⟨rfl, hfront⟩ := split_at_zero_eq_some_iff.mp hfirst
    obtain ⟨rfl, hmiddle⟩ := split_at_zero_eq_some_iff.mp hsecond
    exact ⟨rfl, hfront, hmiddle⟩
  · rintro ⟨rfl, hfront, hmiddle⟩
    exact ⟨_, split_at_zero_eq_some_iff.mpr ⟨rfl, hfront⟩, _,
      split_at_zero_eq_some_iff.mpr ⟨rfl, hmiddle⟩, rfl⟩

end Authentication

/-! ## What is recovered -/

/-- Neither schema nor user has a zero character in it. -/
def Options.IsSeparable (o : Options) : Prop :=
  '\x00' ∉ o.schema.toList ∧ '\x00' ∉ o.user.toList

namespace Authentication

variable {o other : Options} {challenge : Bytes}

/-- Whatever stands behind schema and user, these are recovered if they are separable. -/
theorem parts_of_identification_iff {secret : Bytes} :
    parts? (identification o ++ secret) = some (Text.utf8 o.schema, Text.utf8 o.user, secret) ↔
      o.IsSeparable := by
  rw [parts_eq_some_iff, Text.zero_mem_utf8_iff, Text.zero_mem_utf8_iff]
  exact and_iff_right (by simp [identification])

/-- Nothing else than what stands behind schema and user is found there. -/
theorem exists_parts_of_identification_iff {secret : Bytes} :
    (∃ last, parts? (identification o ++ secret) =
        some (Text.utf8 o.schema, Text.utf8 o.user, last)) ↔ o.IsSeparable := by
  constructor
  · rintro ⟨last, hparts⟩
    obtain ⟨-, hschema, huser⟩ := parts_eq_some_iff.mp hparts
    exact ⟨fun h => hschema (Text.zero_mem_utf8_iff.mpr h),
      fun h => huser (Text.zero_mem_utf8_iff.mpr h)⟩
  · exact fun h => ⟨secret, parts_of_identification_iff.mpr h⟩

/-- Schema, user and password are known from the data that hold them. -/
theorem credentials_of_plain_data_eq (h : o.IsSeparable) (hother : other.IsSeparable)
    (heq : plainData o = plainData other) :
    o.schema = other.schema ∧ o.user = other.user ∧ o.password = other.password := by
  have hparts : parts? (plainData o) =
      some (Text.utf8 o.schema, Text.utf8 o.user, Text.utf8 o.password) :=
    parts_of_identification_iff.mpr h
  rw [heq, plainData, parts_of_identification_iff.mpr hother] at hparts
  obtain ⟨hschema, huser, hpassword⟩ : _ ∧ _ ∧ _ := by simpa using hparts
  exact ⟨Text.utf8_injective hschema.symm, Text.utf8_injective huser.symm,
    Text.utf8_injective hpassword.symm⟩

/-- A server that takes the data of an authentication by the password itself apart at their first
two zero bytes recovers schema, user and password exactly if neither schema nor user has a zero
character in it; of the data that answer a challenge it recovers schema and user under the same
condition. So two such options that differ in schema, user or password have different data. -/
theorem plain_data_recovered (o : Options) :
    (parts? (plainData o) =
        some (Text.utf8 o.schema, Text.utf8 o.user, Text.utf8 o.password) ↔ o.IsSeparable) ∧
      (∀ challenge, (∃ proof, parts? (challengeData o challenge) =
        some (Text.utf8 o.schema, Text.utf8 o.user, proof)) ↔ o.IsSeparable) ∧
      ∀ other : Options, o.IsSeparable → other.IsSeparable →
        (other.schema ≠ o.schema ∨ other.user ≠ o.user ∨ other.password ≠ o.password) →
          plainData other ≠ plainData o := by
  refine ⟨parts_of_identification_iff, fun challenge => exists_parts_of_identification_iff, ?_⟩
  intro other hseparable hother hdifferent heq
  obtain ⟨hschema, huser, hpassword⟩ := credentials_of_plain_data_eq hother hseparable heq
  obtain hne | hne | hne := hdifferent
  · exact hne hschema
  · exact hne huser
  · exact hne hpassword

/-- A password may have a zero character in it, and other options have other data. -/
theorem plain_data_recovered_with_zero :
    let o : Options := { schema := "a", user := "b", password := "c\x00d" }
    let other : Options := { schema := "a", user := "b\x01c", password := "d" }
    o.IsSeparable ∧ other.IsSeparable ∧ (other.schema ≠ o.schema ∨ other.user ≠ o.user ∨
        other.password ≠ o.password) ∧
      parts? (plainData o) = some (Text.utf8 "a", Text.utf8 "b", Text.utf8 "c\x00d") ∧
      plainData other ≠ plainData o := by
  intro o other
  have hseparable : o.IsSeparable := by unfold Options.IsSeparable; decide
  have hother : other.IsSeparable := by unfold Options.IsSeparable; decide
  have hdifferent : other.schema ≠ o.schema ∨ other.user ≠ o.user ∨ other.password ≠ o.password :=
    .inr (.inl (by decide))
  obtain ⟨hparts, -, hdata⟩ := plain_data_recovered o
  exact ⟨hseparable, hother, hdifferent, hparts.mpr hseparable,
    hdata other hseparable hother hdifferent⟩

/-- Options that pass the check and differ in schema, user and password have the same data if there
is a zero character in a schema. A server finds another schema in these data, and also in those that
answer a challenge. -/
theorem plain_data_shared :
    let o : Options := { schema := "a", user := "b", password := "c\x00d" }
    let other : Options := { schema := "a\x00b", user := "c", password := "d" }
    o.check = .ok () ∧ other.check = .ok () ∧ other.schema ≠ o.schema ∧ other.user ≠ o.user ∧
      other.password ≠ o.password ∧ plainData other = plainData o ∧
      parts? (plainData other) = some (Text.utf8 "a", Text.utf8 "b", Text.utf8 "c\x00d") ∧
      (parts? (challengeData other [])).map (fun parts => (parts.1, parts.2.1)) =
        some (Text.utf8 "a", Text.utf8 "b") := by
  intro o other
  exact ⟨Except.eq_ok_of_toOption (by decide +kernel), Except.eq_ok_of_toOption (by decide +kernel),
    by decide, by decide, by decide, by decide +kernel, by decide +kernel, by decide +kernel⟩

end Authentication

end SessionKeeper
