import SessionKeeper.Proofs.Outcome
import SessionKeeper.Proofs.Text.Case
import SessionKeeper.Proofs.Text.Tokens
import SessionKeeper.Tls.Policy

/-!
# Which suites and versions are selected

The list of ciphers keeps suites and the list of versions allows versions, each in its own grammar.
`Selectable` says when something usable remains, in terms of the tokens that the two texts list, and
`select_ciphers_cases` what the options select, or which fault is reported first. The main
statement, `encrypted_iff_selectable`, says what that means for a session that must be encrypted and
names no file.
-/

namespace SessionKeeper

open Text (Token)

/-! ## Versions -/

namespace TlsVersion

/-- The name of a version, as a list must spell it. -/
def name : TlsVersion → String
  | v12 => "TLSv1.2"
  | v13 => "TLSv1.3"

/-- Nothing but blank characters stands in the list. -/
def Blank (versions : String) : Prop :=
  ∀ c ∈ versions.toList, Text.isBlank c = true

/-- The list names the version. -/
def Named (versions token : String) : Prop :=
  Token ',' versions token ∧ token ≠ ""

/-- The list allows the version: a blank list allows all, any other one those that it names. -/
def Allowed (versions : String) (version : TlsVersion) : Prop :=
  Blank versions ∨ Token ',' versions version.name

/-- The list is blank, or all that it names are versions. -/
def Known (versions : String) : Prop :=
  Blank versions ∨ ∀ token, Named versions token → ∃ version : TlsVersion, token = version.name

/-- The name is on the list, and no version has it. -/
structure Stray (versions token : String) : Prop where
  nonblank : ¬ Blank versions
  named : Named versions token
  unknown : ∀ version : TlsVersion, token ≠ version.name

variable {versions token : String} {version : TlsVersion}

theorem Stray.not_known (h : Stray versions token) : ¬ Known versions := by
  rintro (hblank | hknown)
  · exact h.nonblank hblank
  · obtain ⟨version, rfl⟩ := hknown token h.named
    exact h.unknown version rfl

theorem of_name_eq_some_iff : ofName? token = some version ↔ token = version.name := by
  simp only [ofName?, all, List.lookup_cons, List.lookup_nil]
  cases version <;> grind [name]

theorem of_name_eq_none_iff :
    ofName? token = none ↔ ∀ version : TlsVersion, token ≠ version.name := by
  rw [Option.eq_none_iff_forall_ne_some]
  exact forall_congr' fun version => not_congr of_name_eq_some_iff

/-- The names of versions give these versions, and the first other name a fault. -/
theorem of_names_cases (names : List String) :
    (∃ found, ofNames names = .ok found ∧
        (∀ token ∈ names, ∃ version : TlsVersion, token = version.name) ∧
        ∀ version : TlsVersion, version ∈ found ↔ version.name ∈ names) ∨
      ∃ token ∈ names, ofNames names = .error token ∧
        ∀ version : TlsVersion, token ≠ version.name := by
  induction names with
  | nil => exact .inl ⟨[], rfl, by simp⟩
  | cons first names ih =>
      cases hfirst : ofName? first with
      | none =>
          exact .inr ⟨first, List.mem_cons_self, by simp [ofNames, hfirst],
            of_name_eq_none_iff.mp hfirst⟩
      | some version =>
          obtain rfl := of_name_eq_some_iff.mp hfirst
          obtain ⟨found, hfound, hknown, hmem⟩ | ⟨token, htoken, herror, hunknown⟩ := ih
          · refine .inl ⟨version :: found, by simp [ofNames, hfirst, hfound, Except.map], ?_, ?_⟩
            · exact List.forall_mem_cons.mpr ⟨⟨version, rfl⟩, hknown⟩
            · intro other
              rw [List.mem_cons, List.mem_cons, hmem]
              have hname : other = version ↔ other.name = version.name := by
                cases other <;> cases version <;> decide
              rw [hname]
          · exact .inr ⟨token, List.mem_cons_of_mem _ htoken,
              by simp [ofNames, hfirst, herror, Except.map], hunknown⟩

theorem mem_listed_iff : token ∈ listed versions ↔ Named versions token := by
  rw [listed, List.mem_filter, Text.mem_map_trim_split_iff, Named]
  simp

/-- A list gives the versions that it allows, unless it names a stray one. -/
theorem allowed_cases (versions : String) :
    (∃ found, allowed versions = .ok found ∧ Known versions ∧
        ∀ version, version ∈ found ↔ Allowed versions version) ∨
      ∃ token, Stray versions token ∧ allowed versions = .error token := by
  by_cases hblank : Blank versions
  · have hempty : (Text.trim versions).isEmpty = true :=
      String.isEmpty_iff.mpr (Text.trim_eq_empty_iff.mpr hblank)
    refine .inl ⟨_, by rw [allowed, if_pos hempty], .inl hblank, fun version => ?_⟩
    have hall : version ∈ all.map Prod.snd := by cases version <;> decide
    exact iff_of_true hall (.inl hblank)
  · have hlisted : allowed versions = ofNames (listed versions) := by
      refine if_neg fun hempty => hblank (Text.trim_eq_empty_iff.mp (String.isEmpty_iff.mp hempty))
    rw [hlisted]
    obtain ⟨found, hfound, hknown, hmem⟩ | ⟨token, htoken, herror, hunknown⟩ :=
      of_names_cases (listed versions)
    · refine .inl ⟨found, hfound, .inr fun token htoken => ?_, fun version => ?_⟩
      · exact hknown token (mem_listed_iff.mpr htoken)
      · have hne : version.name ≠ "" := by cases version <;> decide
        rw [hmem, mem_listed_iff]
        exact ⟨fun h => .inr h.1, fun h => ⟨h.resolve_left hblank, hne⟩⟩
    · exact .inr ⟨token, ⟨hblank, mem_listed_iff.mp htoken, hunknown⟩, herror⟩

end TlsVersion

/-! ## Suites -/

/-- The list keeps the suite: an empty list keeps all that there are, any other one those with a
name that it lists, in any case. -/
def Suite.Kept (ciphers : String) (suite : Suite) : Prop :=
  suite ∈ Suite.all ∧
    (ciphers = "" ∨
      ∃ token, Token ':' ciphers token ∧ Text.sameIgnoringCase suite.name token = true)

theorem Suite.mem_selected_iff {ciphers : String} {suite : Suite} :
    suite ∈ Suite.selected ciphers ↔ suite.Kept ciphers := by
  by_cases hempty : ciphers = ""
  · simp [selected, Kept, hempty]
  · have hlisted : selected ciphers = all.filter fun suite =>
        (listed ciphers).any (Text.sameIgnoringCase suite.name) :=
      if_neg fun h => hempty (String.isEmpty_iff.mp h)
    rw [hlisted, List.mem_filter, List.any_eq_true, Kept, or_iff_right hempty]
    simp only [listed, Text.mem_map_trim_split_iff]

/-! ## Both together -/

/-- Something usable remains: a suite is kept, the versions are known, and a suite that is kept
belongs to a version that is allowed. -/
structure Selectable (o : TlsOptions) : Prop where
  kept : ∃ suite : Suite, suite.Kept o.ciphers
  known : TlsVersion.Known o.versions
  usable : ∃ suite : Suite, suite.Kept o.ciphers ∧ TlsVersion.Allowed o.versions suite.version

namespace TlsConfig

/-- What the options select, or the fault that is reported first. -/
inductive Selected (o : TlsOptions) : Except TlsFault (List Suite × List TlsVersion) → Prop where
  | suites (suites : List Suite) (versions : List TlsVersion) (h : Selectable o)
      (hsuites : ∀ suite, suite ∈ suites ↔ suite.Kept o.ciphers)
      (hversions : ∀ version, version ∈ versions ↔ TlsVersion.Allowed o.versions version) :
      Selected o (.ok (suites, versions))
  | noSuite (hnone : ¬ ∃ suite : Suite, suite.Kept o.ciphers) :
      Selected o (.error (.noSuite o.ciphers))
  | unknownVersion (token : String) (hkept : ∃ suite : Suite, suite.Kept o.ciphers)
      (hstray : TlsVersion.Stray o.versions token) : Selected o (.error (.unknownVersion token))
  | noUsableSuite (hkept : ∃ suite : Suite, suite.Kept o.ciphers)
      (hknown : TlsVersion.Known o.versions)
      (hnone : ¬ ∃ suite : Suite,
        suite.Kept o.ciphers ∧ TlsVersion.Allowed o.versions suite.version) :
      Selected o (.error .noUsableSuite)

theorem select_ciphers_cases (o : TlsOptions) : Selected o (selectCiphers o) := by
  by_cases hkept : ∃ suite : Suite, suite.Kept o.ciphers
  · have hsome : (Suite.selected o.ciphers).isEmpty = false := by
      obtain ⟨suite, hsuite⟩ := hkept
      exact List.isEmpty_eq_false_iff_exists_mem.mpr ⟨suite, Suite.mem_selected_iff.mpr hsuite⟩
    obtain ⟨versions, hversions, hknown, hmem⟩ | ⟨token, hstray, hversions⟩ :=
      TlsVersion.allowed_cases o.versions
    · have husable : (Suite.selected o.ciphers).any (Suite.usableIn versions) = true ↔
          ∃ suite : Suite, suite.Kept o.ciphers ∧
            TlsVersion.Allowed o.versions suite.version := by
        simp only [List.any_eq_true, Suite.mem_selected_iff, Suite.usableIn, List.contains_iff_mem,
          hmem]
      simp only [selectCiphers, hsome, hversions, Bool.false_eq_true, if_false]
      split
      · next h =>
          exact .suites _ _ ⟨hkept, hknown, husable.mp h⟩ (fun _ => Suite.mem_selected_iff) hmem
      · next h => exact .noUsableSuite hkept hknown fun hsuite => h (husable.mpr hsuite)
    · simp only [selectCiphers, hsome, hversions, Bool.false_eq_true, if_false]
      exact .unknownVersion token hkept hstray
  · have hnone : (Suite.selected o.ciphers).isEmpty = true := by
      rw [List.isEmpty_iff, List.eq_nil_iff_forall_not_mem]
      exact fun suite hsuite => hkept ⟨suite, Suite.mem_selected_iff.mp hsuite⟩
    simp only [selectCiphers, hnone, if_true]
    exact .noSuite hkept

/-- Suites and versions are selected, unless nothing usable remains. -/
theorem selected_or_fault (o : TlsOptions) :
    (∃ suites versions, selectCiphers o = .ok (suites, versions) ∧ Selectable o ∧
        (∀ suite, suite ∈ suites ↔ suite.Kept o.ciphers) ∧
        ∀ version, version ∈ versions ↔ TlsVersion.Allowed o.versions version) ∨
      ∃ fault, selectCiphers o = .error fault ∧ ¬ Selectable o := by
  have hcases := select_ciphers_cases o
  generalize selectCiphers o = selection at hcases
  cases hcases with
  | suites suites versions h hsuites hversions =>
      exact .inl ⟨suites, versions, rfl, h, hsuites, hversions⟩
  | noSuite hnone => exact .inr ⟨_, rfl, fun h => hnone h.kept⟩
  | unknownVersion token hkept hstray => exact .inr ⟨_, rfl, fun h => hstray.not_known h.known⟩
  | noUsableSuite hkept hknown hnone => exact .inr ⟨_, rfl, fun h => hnone h.usable⟩

end TlsConfig

/-! ## Encryption without files -/

namespace TlsOptions

variable {o : TlsOptions}

/-- The mode is the named one, in any case. -/
def HasMode (o : TlsOptions) (mode : String) : Prop :=
  Text.InUpperCase o.mode mode

/-- Neither an authority nor a certificate nor a key is given. -/
def Bare (o : TlsOptions) : Prop :=
  o.ca = "" ∧ o.caPath = "" ∧ o.cert = "" ∧ o.key = ""

theorem has_mode_iff {mode : String} : o.HasMode mode ↔ Text.upper o.mode = mode :=
  Text.in_upper_case_iff

instance (o : TlsOptions) (mode : String) : Decidable (o.HasMode mode) :=
  decidable_of_iff _ has_mode_iff.symm

theorem has_material_eq_false_iff : o.hasMaterial = false ↔ o.Bare := by
  simp [hasMaterial, Bare, and_assoc]

theorem has_authority_eq_false_iff : o.hasAuthority = false ↔ o.ca = "" ∧ o.caPath = "" := by
  simp [hasAuthority]

end TlsOptions

namespace TlsPolicy

variable {o : TlsOptions}

/-- Without files the suites and versions alone decide about a session that must be encrypted. -/
theorem of_options_of_required (reader : TlsReader) (files : Files) (hmode : o.HasMode "REQUIRED")
    (hbare : o.Bare) :
    ofOptions reader files o =
      (TlsConfig.selectCiphers o).map fun selected =>
        .required ⟨selected.1, selected.2, .skipped, [], none⟩ := by
  have hauthority : o.hasAuthority = false :=
    TlsOptions.has_authority_eq_false_iff.mpr ⟨hbare.1, hbare.2.1⟩
  have hverification : verificationOf "REQUIRED" o = .skipped := by
    simp [verificationOf, hauthority]
  have hload : TlsConfig.load reader files o .skipped =
      (TlsConfig.selectCiphers o).map fun selected =>
        ⟨selected.1, selected.2, .skipped, [], none⟩ := by
    simp only [TlsConfig.load, TlsConfig.loadIdentity, hbare.2.2.1]
    cases TlsConfig.selectCiphers o <;> rfl
  simp only [ofOptions, TlsOptions.has_mode_iff.mp hmode, hbare.2.2.1, hbare.2.2.2, hverification,
    ofMode, hload]
  cases TlsConfig.selectCiphers o <;> simp [Except.map]

/-- A session that must be encrypted and names no files can be exactly if a suite is kept, the
versions are known, and a suite that is kept belongs to a version that is allowed. It then offers
just the suites that are kept and the versions that are allowed. Every fault has the code of
misconfigured TLS: a list that keeps no suite comes before a name that is no version, and that
before suites and versions that do not go together. -/
theorem encrypted_iff_selectable (reader : TlsReader) (files : Files) (hmode : o.HasMode "REQUIRED")
    (hbare : o.Bare) :
    let result := ofOptions reader files o
    ((∃ policy, result = .ok policy) ↔
        (∃ suite : Suite, suite.Kept o.ciphers) ∧ TlsVersion.Known o.versions ∧
          ∃ suite : Suite, suite.Kept o.ciphers ∧
            TlsVersion.Allowed o.versions suite.version) ∧
      (∀ policy, result = .ok policy →
        ∃ config, policy = .required config ∧
          (∀ suite, suite ∈ config.suites ↔ suite.Kept o.ciphers) ∧
          ∀ version, version ∈ config.versions ↔ TlsVersion.Allowed o.versions version) ∧
      (∀ fault, result = .error fault → fault.sessionError.code = 2503) ∧
      ((¬ ∃ suite : Suite, suite.Kept o.ciphers) → result = .error (.noSuite o.ciphers)) ∧
      ((∃ suite : Suite, suite.Kept o.ciphers) → ¬ TlsVersion.Known o.versions →
        ∃ token, TlsVersion.Stray o.versions token ∧ result = .error (.unknownVersion token)) ∧
      ((∃ suite : Suite, suite.Kept o.ciphers) → TlsVersion.Known o.versions →
        (¬ ∃ suite : Suite, suite.Kept o.ciphers ∧
          TlsVersion.Allowed o.versions suite.version) →
        result = .error .noUsableSuite) := by
  intro result
  have hresult : result = _ := of_options_of_required reader files hmode hbare
  have hcases := TlsConfig.select_ciphers_cases o
  generalize TlsConfig.selectCiphers o = selected at hresult hcases
  rw [hresult]
  cases hcases with
  | suites suites versions h hsuites hversions =>
      refine ⟨iff_of_true ⟨_, rfl⟩ ⟨h.kept, h.known, h.usable⟩, ?_, fun _ _ => rfl, absurd h.kept,
        fun _ => absurd h.known, fun _ _ => absurd h.usable⟩
      rintro policy ⟨⟩
      exact ⟨_, rfl, hsuites, hversions⟩
  | noSuite hnone =>
      exact ⟨iff_of_false nofun fun h => hnone h.1, nofun, fun _ _ => rfl, fun _ => rfl,
        (absurd · hnone), (absurd · hnone)⟩
  | unknownVersion token hkept hstray =>
      exact ⟨iff_of_false nofun fun h => hstray.not_known h.2.1, nofun, fun _ _ => rfl,
        absurd hkept, fun _ _ => ⟨token, hstray, rfl⟩, fun _ => (absurd · hstray.not_known)⟩
  | noUsableSuite hkept hknown hnone =>
      exact ⟨iff_of_false nofun fun h => hnone h.2.2, nofun, fun _ _ => rfl, absurd hkept,
        fun _ => absurd hknown, fun _ _ _ => rfl⟩

/-- Blanks, the case of a suite and empty names do not matter; a list without a suite is reported
before a name that is no version. -/
theorem encrypted_by_named_suite :
    let o : TlsOptions :=
      { mode := "Required", ciphers := "x: tls13_aes_128_gcm_sha256", versions := " TLSv1.3 ," }
    (∃ policy, ofOptions .empty .empty o = .ok policy) ∧
      ofOptions .empty .empty { o with ciphers := ":", versions := "TLSv1.1" } =
        .error (.noSuite ":") := by
  intro o
  have hmode : o.HasMode "REQUIRED" := by decide +kernel
  have hbare : o.Bare := ⟨rfl, rfl, rfl, rfl⟩
  let suite : Suite := ⟨"TLS13_AES_128_GCM_SHA256", .v13⟩
  have hkept : suite.Kept o.ciphers := Suite.mem_selected_iff.mp (by decide +kernel)
  have hallowed : Token ',' o.versions (TlsVersion.name .v13) :=
    Text.mem_map_trim_split_iff.mp (by decide +kernel)
  have hknown : TlsVersion.Known o.versions := by
    refine .inr fun token htoken => ⟨.v13, ?_⟩
    have hlisted : TlsVersion.listed o.versions = ["TLSv1.3"] := by decide +kernel
    rw [← TlsVersion.mem_listed_iff, hlisted] at htoken
    exact List.mem_singleton.mp htoken
  have hnone : ¬ ∃ suite : Suite, suite.Kept ":" := by
    rintro ⟨suite, hsuite⟩
    have hempty : Suite.selected ":" = [] := by decide +kernel
    rw [← Suite.mem_selected_iff, hempty] at hsuite
    cases hsuite
  exact ⟨(encrypted_iff_selectable .empty .empty hmode hbare).1.mpr
      ⟨⟨suite, hkept⟩, hknown, suite, hkept, .inr hallowed⟩,
    (encrypted_iff_selectable (o := { o with ciphers := ":", versions := "TLSv1.1" }) .empty .empty
      hmode hbare).2.2.2.1 hnone⟩

end TlsPolicy

end SessionKeeper
