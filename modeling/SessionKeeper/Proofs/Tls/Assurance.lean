import SessionKeeper.Proofs.Tls.Material

/-!
# A policy never weakens what was asked for

The mode says whether a session is encrypted, and together with the authorities how the certificate
of the server is verified. `Contradictory` says when options do not go together, and `Complies` what
a configuration must do to answer them. `policy_as_asked` says that every combination of options
ends in the policy of its mode with such a configuration, or in an error, and when in an error.
-/

namespace SessionKeeper

/-! ## What options ask for -/

namespace TlsOptions

variable {o : TlsOptions}

/-- The mode demands that the certificate of the server is verified. -/
def AsksVerified (o : TlsOptions) : Prop :=
  o.HasMode "VERIFY_CA" ∨ o.HasMode "VERIFY_IDENTITY"

/-- No encryption is asked for, nor anything that would need it. -/
def AsksPlain (o : TlsOptions) : Prop :=
  (o.HasMode "DISABLED" ∨ o.HasMode "") ∧ o.Bare

/-- Nothing but an encrypted session is asked for. -/
def AsksEncrypted (o : TlsOptions) : Prop :=
  o.HasMode "REQUIRED" ∨ o.AsksVerified ∨ o.HasMode "" ∧ ¬ o.Bare

/-- The options contradict each other, or their mode is none that there is. -/
inductive Contradictory (o : TlsOptions) : Prop where
  | unpaired (h : ¬ (o.cert = "" ↔ o.key = ""))
  | authorityMissing (hmode : o.AsksVerified) (h : ¬ o.NamesAuthority)
  | disabledWithMaterial (hmode : o.HasMode "DISABLED") (h : ¬ o.Bare)
  | unknownMode (h : ∀ mode ∈ modes, ¬ o.HasMode mode)

theorem not_names_authority_iff : ¬ o.NamesAuthority ↔ o.ca = "" ∧ o.caPath = "" := by
  rw [NamesAuthority, not_or, Classical.not_not, Classical.not_not]

theorem has_authority_iff : o.hasAuthority = true ↔ o.NamesAuthority := by
  rw [← Bool.not_eq_false, has_authority_eq_false_iff, ← not_names_authority_iff, Classical.not_not]

theorem HasMode.unique {mode other : String} (h : o.HasMode mode) (h' : o.HasMode other) :
    mode = other :=
  (has_mode_iff.mp h).symm.trans (has_mode_iff.mp h')

/-- Options with a mode that there is go together if what comes in pairs is paired, what is verified
has an authority, and nothing is given that the mode has no use for. -/
theorem HasMode.consistent {mode : String} (hmode : o.HasMode mode) (hmem : mode ∈ modes)
    (hpaired : o.cert = "" ↔ o.key = "") (hverified : o.AsksVerified → o.NamesAuthority)
    (hdisabled : mode = "DISABLED" → o.Bare) : ¬ o.Contradictory := by
  intro h
  cases h with
  | unpaired h => exact h hpaired
  | authorityMissing hasks h => exact h (hverified hasks)
  | disabledWithMaterial h hmaterial => exact hmaterial (hdisabled (hmode.unique h))
  | unknownMode h => exact h mode hmem hmode

theorem AsksPlain.mode_eq {mode : String} (h : o.AsksPlain) (hmode : o.HasMode mode) :
    mode = "DISABLED" ∨ mode = "" :=
  h.1.imp hmode.unique hmode.unique

theorem AsksPlain.not_verified (h : o.AsksPlain) : ¬ o.AsksVerified := by
  rintro (hmode | hmode) <;> exact absurd (h.mode_eq hmode) (by decide)

theorem AsksPlain.not_preferred (h : o.AsksPlain) : ¬ o.HasMode "PREFERRED" :=
  fun hmode => absurd (h.mode_eq hmode) (by decide)

theorem AsksPlain.consistent (h : o.AsksPlain) : ¬ o.Contradictory := by
  have hpaired : o.cert = "" ↔ o.key = "" := iff_of_true h.2.2.2.1 h.2.2.2.2
  have hverified : o.AsksVerified → o.NamesAuthority := (absurd · h.not_verified)
  rcases h.1 with hmode | hmode
  · exact hmode.consistent (by decide) hpaired hverified fun _ => h.2
  · exact hmode.consistent (by decide) hpaired hverified fun _ => h.2

theorem AsksEncrypted.not_plain (h : o.AsksEncrypted) : ¬ o.AsksPlain := by
  intro hplain
  obtain hmode | hverified | ⟨-, hmaterial⟩ := h
  · exact absurd (hplain.mode_eq hmode) (by decide)
  · exact hplain.not_verified hverified
  · exact hmaterial hplain.2

theorem AsksEncrypted.not_preferred (h : o.AsksEncrypted) : ¬ o.HasMode "PREFERRED" := by
  intro hmode
  obtain h | (h | h) | ⟨h, -⟩ := h <;> exact absurd (h.unique hmode) (by decide)

end TlsOptions

/-! ## What a configuration must do -/

namespace TlsConfig

/-- The configuration verifies the certificate of the server as far as the options ask for it,
trusts the authorities that they name, presents the identity that they give, and offers just the
suites and versions that they select. -/
structure Complies (reader : TlsReader) (files : Files) (o : TlsOptions) (config : TlsConfig) :
    Prop where
  skips : config.verification = .skipped ↔ o.ca = "" ∧ o.caPath = ""
  verifies : o.AsksVerified → config.verification ≠ .skipped
  checksHost : config.verification = .chainAndHost ↔ o.HasMode "VERIFY_IDENTITY"
  trusts : ∀ certificate, certificate ∈ config.authorities ↔ Trusted reader files o certificate
  trustsSome : config.verification ≠ .skipped → config.authorities ≠ []
  presents : config.identity.isSome = true ↔ o.cert ≠ "" ∧ o.key ≠ ""
  identity : ∀ identity, config.identity = some identity → Identifies reader files o identity
  suites : ∀ suite, suite ∈ config.suites ↔ suite.Kept o.ciphers
  versions : ∀ version, version ∈ config.versions ↔ TlsVersion.Allowed o.versions version

end TlsConfig

namespace TlsPolicy

open TlsConfig (Loadable Loaded Complies)

variable {reader : TlsReader} {files : Files} {o : TlsOptions} {config : TlsConfig}

theorem verification_of_ne_skipped_iff :
    verificationOf (Text.upper o.mode) o ≠ .skipped ↔ o.AsksVerified ∨ o.NamesAuthority := by
  simp only [verificationOf, TlsOptions.AsksVerified, TlsOptions.has_mode_iff,
    ← TlsOptions.has_authority_iff]
  grind

theorem verification_of_eq_chain_and_host_iff :
    verificationOf (Text.upper o.mode) o = .chainAndHost ↔ o.HasMode "VERIFY_IDENTITY" := by
  simp only [verificationOf, TlsOptions.has_mode_iff]
  grind

/-- Nothing is verified just if there is no authority, unless an authority is missing. -/
theorem verification_of_eq_skipped_iff (h : o.AsksVerified → o.NamesAuthority) :
    verificationOf (Text.upper o.mode) o = .skipped ↔ ¬ o.NamesAuthority := by
  rw [← not_iff_not, Classical.not_not, ← ne_eq, verification_of_ne_skipped_iff]
  exact or_iff_right_of_imp h

/-- What is loaded with the verification of the mode complies with the options. -/
theorem complies_of_loaded (hpaired : o.cert = "" ↔ o.key = "")
    (hverified : o.AsksVerified → o.NamesAuthority)
    (h : Loaded reader files o (verificationOf (Text.upper o.mode) o) config) :
    Complies reader files o config := by
  have hskips : config.verification = .skipped ↔ ¬ o.NamesAuthority := by
    rw [h.verification, verification_of_eq_skipped_iff hverified]
  exact {
    skips := hskips.trans TlsOptions.not_names_authority_iff
    verifies := fun hasks hskipped => hskips.mp hskipped (hverified hasks)
    checksHost := by rw [h.verification, verification_of_eq_chain_and_host_iff]
    trusts := h.authorities
    trustsSome := fun hne => h.nonempty (Classical.not_not.mp (mt hskips.mpr hne))
    presents := h.presents.trans (and_iff_left_of_imp (mt hpaired.mpr)).symm
    identity := h.identity
    suites := h.suites
    versions := h.versions }

/-! ## The decision -/

/-- What becomes of the options: an error, because they contradict each other or something that they
name cannot be used, or the policy of their mode. -/
inductive Decided (reader : TlsReader) (files : Files) (o : TlsOptions) :
    Except TlsFault TlsPolicy → Prop where
  | contradictory (fault : TlsFault) (h : o.Contradictory) : Decided reader files o (.error fault)
  | unusable (fault : TlsFault) (hmode : o.HasMode "PREFERRED" ∨ o.AsksEncrypted)
      (h : ¬ (Selectable o ∧ Loadable reader files o)) : Decided reader files o (.error fault)
  | disabled (h : o.AsksPlain) : Decided reader files o (.ok .disabled)
  | preferred (config : TlsConfig) (hmode : o.HasMode "PREFERRED") (hconsistent : ¬ o.Contradictory)
      (h : Selectable o ∧ Loadable reader files o) (hcomplies : Complies reader files o config) :
      Decided reader files o (.ok (.preferred config))
  | required (config : TlsConfig) (hmode : o.AsksEncrypted) (hconsistent : ¬ o.Contradictory)
      (h : Selectable o ∧ Loadable reader files o) (hcomplies : Complies reader files o config) :
      Decided reader files o (.ok (.required config))

/-- What is loaded for a session that is encrypted complies with the options, unless something that
they name cannot be used. -/
theorem load_complies_or_fault (reader : TlsReader) (files : Files)
    (hpaired : o.cert = "" ↔ o.key = "") (hverified : o.AsksVerified → o.NamesAuthority) :
    let loaded := TlsConfig.load reader files o (verificationOf (Text.upper o.mode) o)
    (∃ config, loaded = .ok config ∧ (Selectable o ∧ Loadable reader files o) ∧
        Complies reader files o config) ∨
      ∃ fault, loaded = .error fault ∧ ¬ (Selectable o ∧ Loadable reader files o) := by
  obtain ⟨config, hload, husable, hloaded⟩ | hfault :=
    TlsConfig.load_cases reader files o (verification_of_eq_skipped_iff hverified)
  · exact .inl ⟨config, hload, husable, complies_of_loaded hpaired hverified hloaded⟩
  · exact .inr hfault

namespace Decided

variable {decided : Except TlsFault TlsPolicy}

theorem disabled_iff (h : Decided reader files o decided) :
    decided = .ok .disabled ↔ o.AsksPlain := by
  cases h with
  | contradictory fault h => exact iff_of_false nofun fun hplain => hplain.consistent h
  | unusable fault hmode h =>
      exact iff_of_false nofun fun hplain =>
        hmode.elim hplain.not_preferred fun hasks => hasks.not_plain hplain
  | disabled h => exact iff_of_true rfl h
  | preferred config hmode => exact iff_of_false nofun fun hplain => hplain.not_preferred hmode
  | required config hmode => exact iff_of_false nofun hmode.not_plain

theorem of_preferred (h : Decided reader files o (.ok (.preferred config))) :
    o.HasMode "PREFERRED" ∧ Complies reader files o config := by
  cases h with
  | preferred _ hmode _ _ hcomplies => exact ⟨hmode, hcomplies⟩

theorem of_required (h : Decided reader files o (.ok (.required config))) :
    o.AsksEncrypted ∧ Complies reader files o config := by
  cases h with
  | required _ hmode _ _ hcomplies => exact ⟨hmode, hcomplies⟩

theorem preferred_or_error (h : Decided reader files o decided) (hmode : o.HasMode "PREFERRED") :
    (∃ config, decided = .ok (.preferred config)) ∨ ∃ fault, decided = .error fault := by
  cases h with
  | contradictory fault | unusable fault => exact .inr ⟨fault, rfl⟩
  | disabled h => exact absurd hmode h.not_preferred
  | preferred config => exact .inl ⟨config, rfl⟩
  | required config h => exact absurd hmode h.not_preferred

theorem required_or_error (h : Decided reader files o decided) (hmode : o.AsksEncrypted) :
    (∃ config, decided = .ok (.required config)) ∨ ∃ fault, decided = .error fault := by
  cases h with
  | contradictory fault | unusable fault => exact .inr ⟨fault, rfl⟩
  | disabled h => exact absurd h hmode.not_plain
  | preferred config h => exact absurd h hmode.not_preferred
  | required config => exact .inl ⟨config, rfl⟩

theorem error_iff (h : Decided reader files o decided) :
    (∃ fault, decided = .error fault) ↔
      o.Contradictory ∨ ¬ o.AsksPlain ∧ ¬ (Selectable o ∧ Loadable reader files o) := by
  cases h with
  | contradictory fault h => exact iff_of_true ⟨fault, rfl⟩ (.inl h)
  | unusable fault hmode h =>
      refine iff_of_true ⟨fault, rfl⟩ (.inr ⟨fun hplain => ?_, h⟩)
      exact hmode.elim hplain.not_preferred fun hasks => hasks.not_plain hplain
  | disabled h => exact iff_of_false nofun (not_or_intro h.consistent fun hnot => hnot.1 h)
  | preferred config _ hconsistent h | required config _ hconsistent h =>
      exact iff_of_false nofun (not_or_intro hconsistent fun hnot => hnot.2 h)

end Decided

/-- Options that pass the first checks are decided by their mode. -/
theorem of_mode_cases (reader : TlsReader) (files : Files) (hpaired : o.cert = "" ↔ o.key = "")
    (hverified : o.AsksVerified → o.NamesAuthority) :
    Decided reader files o (ofMode reader files (Text.upper o.mode) o) := by
  have hload := load_complies_or_fault reader files hpaired hverified
  have hrequired (hasks : o.AsksEncrypted) (hconsistent : ¬ o.Contradictory) :
      Decided reader files o
        ((TlsConfig.load reader files o (verificationOf (Text.upper o.mode) o)).map required) := by
    obtain ⟨config, hload, husable, hcomplies⟩ | ⟨fault, hload, hunusable⟩ := hload
    · rw [hload]
      exact .required config hasks hconsistent husable hcomplies
    · rw [hload]
      exact .unusable fault (.inr hasks) hunusable
  have hbare : o.hasMaterial = true ↔ ¬ o.Bare := by
    rw [← TlsOptions.has_material_eq_false_iff, Bool.not_eq_false]
  have hconsistent {mode : String} (hmode : o.HasMode mode) (hmem : mode ∈ TlsOptions.modes)
      (hne : mode ≠ "DISABLED") : ¬ o.Contradictory :=
    hmode.consistent hmem hpaired hverified (absurd · hne)
  simp only [ofMode, ← TlsOptions.has_mode_iff]
  split
  next hmode =>
    split
    next h => exact .contradictory _ (.disabledWithMaterial hmode (hbare.mp h))
    next h => exact .disabled ⟨.inl hmode, Classical.not_not.mp (mt hbare.mpr h)⟩
  split
  next hmode =>
    split
    next h =>
      exact hrequired (.inr (.inr ⟨hmode, hbare.mp h⟩)) (hconsistent hmode (by decide) (by decide))
    next h => exact .disabled ⟨.inr hmode, Classical.not_not.mp (mt hbare.mpr h)⟩
  split
  next hmode =>
    obtain ⟨config, hload, husable, hcomplies⟩ | ⟨fault, hload, hunusable⟩ := hload
    · rw [hload]
      exact .preferred config hmode (hconsistent hmode (by decide) (by decide)) husable hcomplies
    · rw [hload]
      exact .unusable fault (.inl hmode) hunusable
  split
  next hmode =>
    rcases hmode with hmode | hmode | hmode
    · exact hrequired (.inl hmode) (hconsistent hmode (by decide) (by decide))
    · exact hrequired (.inr (.inl (.inl hmode))) (hconsistent hmode (by decide) (by decide))
    · exact hrequired (.inr (.inl (.inr hmode))) (hconsistent hmode (by decide) (by decide))
  next hdisabled hempty hpreferred hothers =>
    refine .contradictory _ (.unknownMode fun mode hmem hmode => ?_)
    simp only [not_or] at hothers
    simp only [TlsOptions.modes, List.mem_cons, List.not_mem_nil, or_false] at hmem
    rcases hmem with rfl | rfl | rfl | rfl | rfl | rfl
    · exact hempty hmode
    · exact hdisabled hmode
    · exact hpreferred hmode
    · exact hothers.1 hmode
    · exact hothers.2.1 hmode
    · exact hothers.2.2 hmode

theorem unpaired_iff :
    (o.cert.isEmpty != o.key.isEmpty) = true ↔ ¬ (o.cert = "" ↔ o.key = "") := by
  rw [bne_iff_ne, ne_eq, Bool.eq_iff_iff, String.isEmpty_iff, String.isEmpty_iff]

theorem of_options_cases (reader : TlsReader) (files : Files) (o : TlsOptions) :
    Decided reader files o (ofOptions reader files o) := by
  have hmissing : verificationOf (Text.upper o.mode) o ≠ .skipped ∧ (!o.hasAuthority) = true ↔
      o.AsksVerified ∧ ¬ o.NamesAuthority := by
    rw [verification_of_ne_skipped_iff, Bool.not_eq_true', ← Bool.not_eq_true,
      TlsOptions.has_authority_iff, or_and_right, or_iff_left (and_not_self)]
  simp only [ofOptions]
  split
  next h => exact .contradictory _ (.unpaired (unpaired_iff.mp h))
  next h =>
    have hpaired := Classical.not_not.mp (mt unpaired_iff.mpr h)
    split
    next h =>
      obtain ⟨hasks, hnone⟩ := hmissing.mp h
      exact .contradictory _ (.authorityMissing hasks hnone)
    next h =>
      refine of_mode_cases reader files hpaired fun hasks => ?_
      exact Classical.not_not.mp fun hnone => h (hmissing.mpr ⟨hasks, hnone⟩)

/-- Every combination of options ends in an error with the code of misconfigured TLS, or in the
policy of its mode. Nothing is encrypted exactly if the mode is `DISABLED` or empty and no
authority, certificate or key is given; the server may refuse encryption only in the mode
`PREFERRED`; in all other modes a session is encrypted, or there is an error. A configuration always
complies with the options. There is an error exactly if the options contradict each other, or if,
for a session that is to be encrypted, nothing usable is selected or something that they name cannot
be used. -/
theorem policy_as_asked (reader : TlsReader) (files : Files) (o : TlsOptions) :
    let result := (ofOptions reader files o).mapError TlsFault.sessionError
    (∀ e, result = .error e → e.code = 2503) ∧
      (result = .ok .disabled ↔ (o.HasMode "DISABLED" ∨ o.HasMode "") ∧ o.Bare) ∧
      (∀ config, result = .ok (.preferred config) →
        o.HasMode "PREFERRED" ∧ Complies reader files o config) ∧
      (∀ config, result = .ok (.required config) →
        o.AsksEncrypted ∧ Complies reader files o config) ∧
      (o.HasMode "PREFERRED" →
        (∃ config, result = .ok (.preferred config)) ∨ ∃ e, result = .error e) ∧
      (o.AsksEncrypted → (∃ config, result = .ok (.required config)) ∨ ∃ e, result = .error e) ∧
      ((∃ e, result = .error e) ↔
        o.Contradictory ∨ ¬ o.AsksPlain ∧ ¬ (Selectable o ∧ Loadable reader files o)) := by
  intro result
  have hdecided := of_options_cases reader files o
  have hok (policy : TlsPolicy) : result = .ok policy ↔ ofOptions reader files o = .ok policy :=
    Except.mapError_eq_ok_iff
  have herror : (∃ e, result = .error e) ↔ ∃ fault, ofOptions reader files o = .error fault := by
    simp only [result, Except.mapError_eq_error_iff]
    exact ⟨fun ⟨_, fault, h, _⟩ => ⟨fault, h⟩, fun ⟨fault, h⟩ => ⟨_, fault, h, rfl⟩⟩
  simp only [hok, herror]
  refine ⟨fun e h => ?_, hdecided.disabled_iff, fun config h => (h ▸ hdecided).of_preferred,
    fun config h => (h ▸ hdecided).of_required, hdecided.preferred_or_error,
    hdecided.required_or_error, hdecided.error_iff⟩
  obtain ⟨fault, -, rfl⟩ := Except.mapError_eq_error_iff.mp h
  rfl

/-- The file of an authority. -/
def rootFile : String :=
  "-----BEGIN CERTIFICATE-----\n" ++
  "MIIBdjCCARugAwIBAgIUfTIOzfnYSixl3PB7hZjbx6J7rkwwCgYIKoZIzj0EAwIw\n" ++
  "DzENMAsGA1UEAwwEUm9vdDAgFw0yNjExMjAwNjM5MTFaGA8yMTI2MTAyNzA2Mzkx\n" ++
  "MVowDzENMAsGA1UEAwwEUm9vdDBZMBMGByqGSM49AgEGCCqGSM49AwEHA0IABF1B\n" ++
  "/WanT9diQoLKsDVrDxm0A75T7zGa1CRZVa/0EPBuRGZM8Vp4oc41CoMBEj1WSgXy\n" ++
  "tewLI+QieOkk7B+KcKOjUzBRMB0GA1UdDgQWBBRutdVGQybZPDpcTb19r0Ksh4hS\n" ++
  "6zAfBgNVHSMEGDAWgBRutdVGQybZPDpcTb19r0Ksh4hS6zAPBgNVHRMBAf8EBTAD\n" ++
  "AQH/MAoGCCqGSM49BAMCA0kAMEYCIQDPfClnoToEkPdxatDLCA/oZ4IdsGHOgfU0\n" ++
  "hrNnSWbo4AIhAI9/VJKu5Ost46SZgdeFQdTCQxRLav13CBtSdghOCLRR\n" ++
  "-----END CERTIFICATE-----\n"

/-- The certificate in it. -/
def rootCertificate : Bytes :=
  [48, 130, 1, 118, 48, 130, 1, 27, 160, 3, 2, 1, 2, 2, 20, 125, 50, 14, 205, 249, 216, 74, 44,
    101, 220, 240, 123, 133, 152, 219, 199, 162, 123, 174, 76, 48, 10, 6, 8, 42, 134, 72, 206, 61,
    4, 3, 2, 48, 15, 49, 13, 48, 11, 6, 3, 85, 4, 3, 12, 4, 82, 111, 111, 116, 48, 32, 23, 13, 50,
    54, 49, 49, 50, 48, 48, 54, 51, 57, 49, 49, 90, 24, 15, 50, 49, 50, 54, 49, 48, 50, 55, 48, 54,
    51, 57, 49, 49, 90, 48, 15, 49, 13, 48, 11, 6, 3, 85, 4, 3, 12, 4, 82, 111, 111, 116, 48, 89,
    48, 19, 6, 7, 42, 134, 72, 206, 61, 2, 1, 6, 8, 42, 134, 72, 206, 61, 3, 1, 7, 3, 66, 0, 4, 93,
    65, 253, 102, 167, 79, 215, 98, 66, 130, 202, 176, 53, 107, 15, 25, 180, 3, 190, 83, 239, 49,
    154, 212, 36, 89, 85, 175, 244, 16, 240, 110, 68, 102, 76, 241, 90, 120, 161, 206, 53, 10, 131,
    1, 18, 61, 86, 74, 5, 242, 181, 236, 11, 35, 228, 34, 120, 233, 36, 236, 31, 138, 112, 163, 163,
    83, 48, 81, 48, 29, 6, 3, 85, 29, 14, 4, 22, 4, 20, 110, 181, 213, 70, 67, 38, 217, 60, 58, 92,
    77, 189, 125, 175, 66, 172, 135, 136, 82, 235, 48, 31, 6, 3, 85, 29, 35, 4, 24, 48, 22, 128, 20,
    110, 181, 213, 70, 67, 38, 217, 60, 58, 92, 77, 189, 125, 175, 66, 172, 135, 136, 82, 235, 48,
    15, 6, 3, 85, 29, 19, 1, 1, 255, 4, 5, 48, 3, 1, 1, 255, 48, 10, 6, 8, 42, 134, 72, 206, 61, 4,
    3, 2, 3, 73, 0, 48, 70, 2, 33, 0, 207, 124, 41, 103, 161, 58, 4, 144, 247, 113, 106, 208, 203,
    8, 15, 232, 103, 130, 29, 176, 97, 206, 129, 245, 52, 134, 179, 103, 73, 102, 232, 224, 2, 33,
    0, 143, 127, 84, 146, 174, 228, 235, 45, 227, 164, 153, 129, 215, 133, 65, 212, 194, 67, 20, 75,
    106, 253, 119, 8, 27, 82, 118, 8, 78, 8, 180, 81]

/-- A reader that knows this file and no other. -/
def rootReader : TlsReader :=
  { TlsReader.empty with
    certificates := fun file => .ok (if file = Text.utf8 rootFile then [rootCertificate] else [])
    authority := fun certificate =>
      if certificate = rootCertificate then .ok () else .error (.invalidCertificate "BadEncoding") }

/-- Of a directory only the file with the extension of certificates is read, and the case of a mode
does not matter; a certificate without its key is an error. -/
theorem policy_as_asked_of_directory :
    let files := (Files.empty.add "certs/root.pem" (.regular (Text.utf8 rootFile))).add
      "certs/readme.txt" (.regular [])
    let o : TlsOptions := { mode := "Verify_Identity", caPath := "certs" }
    (∃ config, ofOptions rootReader files o = .ok (.required config) ∧
        config.authorities = [rootCertificate] ∧ Complies rootReader files o config) ∧
      ∃ e, (ofOptions rootReader files { o with cert := "certs/root.pem" }).mapError
        TlsFault.sessionError = .error e := by
  intro files o
  have hpolicy : ofOptions rootReader files o = .ok (.required
      ⟨Suite.all, [.v12, .v13], .chainAndHost, [rootCertificate], none⟩) := by
    decide +kernel
  obtain ⟨-, -, -, hrequired, -⟩ := policy_as_asked rootReader files o
  obtain ⟨-, -, -, -, -, -, herror⟩ :=
    policy_as_asked rootReader files { o with cert := "certs/root.pem" }
  refine ⟨⟨_, hpolicy, rfl, (hrequired _ (Except.mapError_eq_ok_iff.mpr hpolicy)).2⟩, ?_⟩
  exact herror.mpr (.inl (.unpaired (by decide)))

end TlsPolicy

end SessionKeeper
