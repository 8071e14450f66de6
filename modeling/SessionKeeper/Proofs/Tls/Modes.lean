import SessionKeeper.Proofs.Cli.Settings
import SessionKeeper.Proofs.Tls.Assurance

/-!
# The check of the options and the policy know the same modes

The options are checked against a list of modes, and the policy goes through the modes one by one.
`check_eq_unknown_mode_iff` and `of_options_eq_unknown_mode_iff` say when each of them complains
about the mode; for the policy this takes that no fault of what the options name can be mistaken for
that complaint. `mode_checks_agree` compares the two, for options that may have other faults as
well.
-/

namespace SessionKeeper

/-! ## Faults of what options name -/

/-- Whether the fault lies in what the options name, and not in how they go together. -/
def TlsFault.inMaterial : TlsFault → Bool
  | unpairedIdentity | authorityMissing _ | disabledWithMaterial | unknownMode _ => false
  | noSuite _ | unknownVersion _ | noUsableSuite | directory .. | unopened .. | certificateFile ..
  | keyFile .. | authority _ | noAuthority | noKey _ | identity _ => true

/-- If something fails, then with such a fault. -/
def MaterialOnly {α : Type} (x : Except TlsFault α) : Prop :=
  ∀ fault, x = .error fault → fault.inMaterial = true

namespace MaterialOnly

variable {α β : Type} {x : Except TlsFault α} {fault : TlsFault}

theorem ok (a : α) : MaterialOnly (.ok a) := nofun

theorem error (h : fault.inMaterial = true) : MaterialOnly (.error fault : Except TlsFault α) := by
  rintro _ ⟨⟩
  exact h

theorem of_error (h : MaterialOnly x) (hx : x = .error fault) :
    MaterialOnly (.error fault : Except TlsFault β) :=
  .error (h fault hx)

theorem map (h : MaterialOnly x) (f : α → β) : MaterialOnly (x.map f) := by
  cases x with
  | ok a => exact .ok _
  | error fault => exact h.of_error rfl

/-- What a reader says is wrong with files is such a fault. -/
theorem mapError {ε : Type} {x : Except ε α} {f : ε → TlsFault}
    (h : ∀ e, (f e).inMaterial = true) : MaterialOnly (x.mapError f) := by
  cases x with
  | ok a => exact .ok _
  | error e => exact .error (h e)

end MaterialOnly

namespace TlsConfig

variable (reader : TlsReader) (files : Files) (o : TlsOptions)

theorem load_certificates_material (path : String) :
    MaterialOnly (loadCertificates reader files path) := by
  unfold loadCertificates
  split
  · exact .error rfl
  · split
    · exact .error rfl
    · exact .mapError fun _ => rfl

theorem load_key_material (path : String) : MaterialOnly (loadKey reader files path) := by
  unfold loadKey
  repeat' split
  all_goals first | exact .ok _ | exact .error rfl

theorem authority_files_material : MaterialOnly (authorityFiles files o) := by
  have hlist : MaterialOnly (authorityFilesIn files o.caPath) := by
    unfold authorityFilesIn
    split
    · exact .error rfl
    · exact .ok _
  unfold authorityFiles
  dsimp only
  split
  · exact .ok _
  · exact hlist.map _

theorem check_authorities_material (certificates : List Bytes) :
    MaterialOnly (checkAuthorities reader certificates) := by
  induction certificates with
  | nil => exact .ok _
  | cons certificate certificates ih =>
      unfold checkAuthorities
      split
      · exact .error rfl
      · exact ih

theorem read_authorities_material (paths : List String) :
    MaterialOnly (readAuthorities reader files paths) := by
  induction paths with
  | nil => exact .ok _
  | cons path paths ih =>
      unfold readAuthorities
      split
      · next h => exact (load_certificates_material reader files path).of_error h
      · next certificates _ =>
          split
          · next h => exact (check_authorities_material reader certificates).of_error h
          · exact ih.map _

theorem load_authorities_material : MaterialOnly (loadAuthorities reader files o) := by
  unfold loadAuthorities
  split
  · next h => exact (authority_files_material files o).of_error h
  · next paths _ =>
      split
      · next h => exact (read_authorities_material reader files paths).of_error h
      · exact .error rfl
      · exact .ok _

theorem load_identity_material : MaterialOnly (loadIdentity reader files o) := by
  unfold loadIdentity
  split
  · exact .ok _
  · split
    · next h => exact (load_certificates_material reader files o.cert).of_error h
    · split
      · next h => exact (load_key_material reader files o.key).of_error h
      · split
        · exact .error rfl
        · exact .ok _

theorem select_ciphers_material : MaterialOnly (selectCiphers o) := by
  unfold selectCiphers
  dsimp only
  repeat' split
  all_goals first | exact .ok _ | exact .error rfl

/-- Loading what the options name fails for what they name only. -/
theorem load_material (verification : Verification) :
    MaterialOnly (load reader files o verification) := by
  have hauthorities :
      MaterialOnly
        (if verification = .skipped then .ok [] else loadAuthorities reader files o) := by
    split
    · exact .ok _
    · exact load_authorities_material reader files o
  unfold load
  split
  · next h => exact (select_ciphers_material o).of_error h
  · split
    · next h => exact hauthorities.of_error h
    · exact (load_identity_material reader files o).map _

end TlsConfig

/-! ## When the mode is complained about -/

/-- None of the modes that there are is the one of the options. -/
def TlsOptions.Unknown (o : TlsOptions) : Prop :=
  ∀ mode ∈ modes, ¬ o.HasMode mode

theorem Options.unknown_mode_iff {o : Options} :
    o.tls.Unknown ↔ TlsOptions.modes.contains (Text.upper o.tls.mode) = false := by
  rw [← Bool.not_eq_true, contains_upper_iff]
  simp only [TlsOptions.Unknown, not_exists, not_and]

theorem Options.check_eq_unknown_mode_iff {o : Options} {mode : String} :
    o.check = .error (.unknownMode mode) ↔
      (o.port ≠ 0 ∨ o.socket ≠ "") ∧ o.tls.Unknown ∧ mode = o.tls.mode := by
  unfold check
  by_cases hreachable : o.port ≠ 0 ∨ o.socket ≠ ""
  · rw [if_neg (mt unreachable_iff.mp (not_not_intro hreachable)), and_iff_right hreachable]
    by_cases hunknown : o.tls.Unknown
    · have habsent : ¬ TlsOptions.modes.contains (Text.upper o.tls.mode) = true :=
        Bool.eq_false_iff.mp (unknown_mode_iff.mp hunknown)
      rw [if_pos habsent, and_iff_right hunknown]
      simp only [Except.error.injEq, OptionsFault.unknownMode.injEq, eq_comm]
    · have hpresent : TlsOptions.modes.contains (Text.upper o.tls.mode) = true :=
        Bool.not_eq_false _ ▸ mt unknown_mode_iff.mpr hunknown
      rw [if_neg (not_not_intro hpresent)]
      refine iff_of_false ?_ fun h => hunknown h.1
      split <;> exact nofun
  · rw [if_pos (unreachable_iff.mpr hreachable)]
    exact iff_of_false nofun fun h => hreachable h.1

namespace TlsPolicy

variable {reader : TlsReader} {files : Files} {o : TlsOptions} {mode : String}

/-- The policy of a mode complains about the mode just if it is none that there is. -/
theorem of_mode_eq_unknown_mode_iff :
    ofMode reader files (Text.upper o.mode) o = .error (.unknownMode mode) ↔
      o.Unknown ∧ mode = Text.upper o.mode := by
  have hload (f : TlsConfig → TlsPolicy) :
      (TlsConfig.load reader files o (verificationOf (Text.upper o.mode) o)).map f ≠
        .error (.unknownMode mode) := fun h =>
    absurd ((TlsConfig.load_material reader files o _).map f _ h) Bool.false_ne_true
  have hknown {name : String} (hmem : name ∈ TlsOptions.modes) (hname : Text.upper o.mode = name) :
      ¬ (o.Unknown ∧ mode = Text.upper o.mode) :=
    fun h => h.1 name hmem (TlsOptions.has_mode_iff.mpr hname)
  unfold ofMode
  dsimp only
  split
  next h =>
    refine iff_of_false ?_ (hknown (by decide) h)
    split <;> exact nofun
  next hdisabled =>
    split
    next h =>
      refine iff_of_false ?_ (hknown (by decide) h)
      split
      · exact hload required
      · exact nofun
    next hempty =>
      split
      next h => exact iff_of_false (hload preferred) (hknown (by decide) h)
      next hpreferred =>
        split
        next h =>
          refine iff_of_false (hload required) ?_
          obtain h | h | h := h <;> exact hknown (by decide) h
        next hrequired =>
          have hunknown : o.Unknown := by
            simp only [not_or] at hrequired
            simp [TlsOptions.Unknown, TlsOptions.has_mode_iff, TlsOptions.modes, *]
          constructor
          · rintro ⟨⟩
            exact ⟨hunknown, rfl⟩
          · rintro ⟨-, rfl⟩
            rfl

/-- The one half of a pair is complained about before anything else. -/
theorem of_options_of_unpaired (h : ¬ (o.cert = "" ↔ o.key = "")) :
    ofOptions reader files o = .error .unpairedIdentity :=
  if_pos (unpaired_iff.mpr h)

/-- The policy complains about the mode just if it is none that there is and what comes in pairs is
paired. -/
theorem of_options_eq_unknown_mode_iff :
    ofOptions reader files o = .error (.unknownMode mode) ↔
      (o.cert = "" ↔ o.key = "") ∧ o.Unknown ∧ mode = Text.upper o.mode := by
  by_cases hpaired : o.cert = "" ↔ o.key = ""
  · unfold ofOptions
    rw [if_neg (mt unpaired_iff.mp (not_not_intro hpaired)), and_iff_right hpaired]
    split
    next h =>
      -- Without an authority only modes that there are ask for one.
      obtain ⟨hverified, hmissing⟩ := h
      refine iff_of_false nofun fun hall => ?_
      obtain (hmode | hmode) | hnamed := verification_of_ne_skipped_iff.mp hverified
      · exact hall.1 _ (by decide) hmode
      · exact hall.1 _ (by decide) hmode
      · simp [TlsOptions.has_authority_iff.mpr hnamed] at hmissing
    next => exact of_mode_eq_unknown_mode_iff
  · rw [of_options_of_unpaired hpaired]
    exact iff_of_false nofun fun hall => hpaired hall.1

end TlsPolicy

/-! ## What the complaint says -/

/-- No fault that a reader finds begins as the complaint about the mode does. -/
theorem MaterialFault.take_text_ne (fault : MaterialFault) :
    fault.text.toList.take 3 ≠ ['u', 'n', 'k'] := by
  intro hstart
  unfold text at hstart
  cases fault
  all_goals
    simp (disch := decide +kernel) only [String.toList_append,
      List.take_append_of_le_length] at hstart
    exact absurd hstart (by decide +kernel)

namespace TlsFault

/-- Only the complaint about the mode begins as it does. -/
theorem eq_unknown_mode_of_text {fault : TlsFault} {mode : String}
    (h : fault.text = (unknownMode mode).text) : fault = unknownMode mode := by
  have hstart : fault.text.toList.take 3 = ['u', 'n', 'k'] := by
    rw [h]
    unfold text
    rw [String.toList_append, List.take_append_of_le_length (by decide +kernel)]
    decide +kernel
  unfold text at h hstart
  cases fault with
  | unknownMode other =>
      rw [String.append_right_inj] at h
      rw [h]
  | authority fault | identity fault => exact absurd hstart fault.take_text_ne
  | _ =>
      simp (disch := decide +kernel) only [String.append_assoc, String.toList_append,
        List.take_append_of_le_length] at hstart
      exact absurd hstart (by decide +kernel)

theorem session_error_eq_unknown_mode_iff {fault : TlsFault} {mode : String} :
    fault.sessionError = (unknownMode mode).sessionError ↔ fault = unknownMode mode := by
  refine ⟨fun h => eq_unknown_mode_of_text ?_, congrArg sessionError⟩
  exact (String.append_right_inj _).mp (congrArg SessionError.message h)

end TlsFault

/-! ## Both together -/

/-- The fault of options with their mode spelled in another way. -/
def OptionsFault.respelled (mode : String) : OptionsFault → OptionsFault
  | unknownMode _ => unknownMode mode
  | zeroPort => zeroPort
  | zeroTimeout => zeroTimeout

theorem TlsPolicy.of_options_respelled (reader : TlsReader) (files : Files) {o : TlsOptions}
    {mode : String} (h : Text.sameIgnoringCase o.mode mode = true) :
    ofOptions reader files { o with mode } = ofOptions reader files o := by
  unfold ofOptions
  rw [Text.upper_eq_of_same h]
  rfl

theorem Options.check_respelled {o : Options} {mode : String}
    (h : Text.sameIgnoringCase o.tls.mode mode = true) :
    check { o with tls := { o.tls with mode } } = o.check.mapError (.respelled mode) := by
  unfold check
  rw [Text.upper_eq_of_same h]
  dsimp only
  repeat' split
  all_goals rfl

/-- The check complains about the mode just if it is none that there is, unless it complains about
the port first. Then there is no policy either: the policy complains about the mode as well, or
about a pair that is not complete. Options that pass the check never bring the policy to complain
about the mode, whatever else is wrong with them, and no other error says the same. Neither of the
two distinguishes spellings of a mode that differ in the case of letters, but in what the check
says. -/
theorem mode_checks_agree (reader : TlsReader) (files : Files) (o : Options) :
    let policy := (TlsPolicy.ofOptions reader files o.tls).mapError TlsFault.sessionError
    ((∃ mode, o.check = .error (.unknownMode mode)) ↔
        (o.port ≠ 0 ∨ o.socket ≠ "") ∧ o.tls.Unknown) ∧
      (∀ mode, policy = .error (TlsFault.unknownMode mode).sessionError ↔
        (o.tls.cert = "" ↔ o.tls.key = "") ∧ o.tls.Unknown ∧ mode = Text.upper o.tls.mode) ∧
      ((∃ mode, o.check = .error (.unknownMode mode)) →
        policy = .error (TlsFault.unknownMode (Text.upper o.tls.mode)).sessionError ∨
          policy = .error TlsFault.unpairedIdentity.sessionError) ∧
      (o.check = .ok () → ∀ mode, policy ≠ .error (TlsFault.unknownMode mode).sessionError) ∧
      ∀ mode, Text.sameIgnoringCase o.tls.mode mode = true →
        let other : Options := { o with tls := { o.tls with mode } }
        TlsPolicy.ofOptions reader files other.tls = TlsPolicy.ofOptions reader files o.tls ∧
          other.check = o.check.mapError (.respelled mode) := by
  intro policy
  have hcheck : (∃ mode, o.check = .error (.unknownMode mode)) ↔
      (o.port ≠ 0 ∨ o.socket ≠ "") ∧ o.tls.Unknown := by
    simp only [Options.check_eq_unknown_mode_iff, exists_and_left, exists_eq, and_true]
  have hpolicy : ∀ mode, policy = .error (TlsFault.unknownMode mode).sessionError ↔
      (o.tls.cert = "" ↔ o.tls.key = "") ∧ o.tls.Unknown ∧ mode = Text.upper o.tls.mode := by
    intro mode
    rw [← @TlsPolicy.of_options_eq_unknown_mode_iff reader files]
    simp only [policy, Except.mapError_eq_error_iff, TlsFault.session_error_eq_unknown_mode_iff,
      exists_eq_right]
  refine ⟨hcheck, hpolicy, fun h => ?_, fun h mode hmode => ?_, fun mode hsame =>
    ⟨TlsPolicy.of_options_respelled reader files hsame, Options.check_respelled hsame⟩⟩
  · obtain ⟨-, hunknown⟩ := hcheck.mp h
    by_cases hpaired : o.tls.cert = "" ↔ o.tls.key = ""
    · exact .inl ((hpolicy _).mpr ⟨hpaired, hunknown, rfl⟩)
    · refine .inr ?_
      simp only [policy, TlsPolicy.of_options_of_unpaired hpaired]
      rfl
  · obtain ⟨known, hmem, hknown⟩ := (Options.check_eq_ok_iff.mp h).knownMode
    exact ((hpolicy mode).mp hmode).2.1 known hmem hknown

/-- A mode that is none is complained about in every spelling, by the check, and by the policy once
the certificate has a key. -/
theorem unknown_mode_in_any_case :
    let files : Files := .empty
    let o : Options := { tls := { mode := "Always", cert := "c.pem" } }
    let paired : Options := { o with tls := { o.tls with key := "k.pem" } }
    let policy (o : Options) :=
      (TlsPolicy.ofOptions .empty files o.tls).mapError TlsFault.sessionError
    o.check = .error (.unknownMode "Always") ∧
      (∃ e, policy o = .error e) ∧
      policy paired = .error (TlsFault.unknownMode "ALWAYS").sessionError ∧
      { o with tls := { o.tls with mode := "aLWAYS" } }.check = .error (.unknownMode "aLWAYS") := by
  intro files o paired policy
  have hcheck : o.check = .error (.unknownMode "Always") := by decide +kernel
  have hunknown : paired.tls.Unknown := Options.unknown_mode_iff.mpr (by decide +kernel)
  obtain ⟨-, -, hfails, -, hspelling⟩ := mode_checks_agree .empty files o
  obtain ⟨-, hpolicy, -⟩ := mode_checks_agree .empty files paired
  obtain ⟨-, hrespelled⟩ := hspelling "aLWAYS" (by decide +kernel)
  refine ⟨hcheck, ?_, (hpolicy "ALWAYS").mpr ⟨by decide, hunknown, by decide +kernel⟩, ?_⟩
  · obtain h | h := hfails ⟨_, hcheck⟩ <;> exact ⟨_, h⟩
  · rw [hrespelled, hcheck]
    rfl

end SessionKeeper
