import SessionKeeper.Cli.Run
import SessionKeeper.Proofs.Outcome
import SessionKeeper.Proofs.Tls.Selection

/-!
# Settings over a configuration

The configuration of a run is that of a file, or the standard one, with the settings of the command
line put over it. `IsUsable` says which options pass the check, `StartsFrom` which configuration the
settings are put over, and `Overlays` what comes of it. `load_config_exact` says that loading
succeeds exactly if the configuration of the file and the options that come of it are both usable,
and that nothing but these options is loaded then. Settings cannot mend a file that is not usable by
itself.
-/

namespace SessionKeeper

/-! ## What the check demands -/

namespace Options

/-- There is something to connect, the mode is one that there is, in any case, and there is time to
connect. -/
structure IsUsable (o : Options) : Prop where
  reachable : o.port ≠ 0 ∨ o.socket ≠ ""
  knownMode : ∃ mode ∈ TlsOptions.modes, o.tls.HasMode mode
  waits : o.connectTimeoutMs ≠ 0

/-- The options have a fault. -/
inductive HasFault (o : Options) : OptionsFault → Prop where
  | zeroPort (hport : o.port = 0) (hsocket : o.socket = "") : HasFault o .zeroPort
  | unknownMode (h : ∀ mode ∈ TlsOptions.modes, ¬ o.tls.HasMode mode) :
      HasFault o (.unknownMode o.tls.mode)
  | zeroTimeout (h : o.connectTimeoutMs = 0) : HasFault o .zeroTimeout

variable {o : Options}

theorem HasFault.not_usable {fault : OptionsFault} (h : o.HasFault fault) : ¬ o.IsUsable := by
  rintro ⟨hreachable, ⟨mode, hmem, hmode⟩, hwaits⟩
  cases h with
  | zeroPort hport hsocket => exact hreachable.elim (· hport) (· hsocket)
  | unknownMode h => exact h mode hmem hmode
  | zeroTimeout h => exact hwaits h

theorem contains_upper_iff :
    TlsOptions.modes.contains (Text.upper o.tls.mode) = true ↔
      ∃ mode ∈ TlsOptions.modes, o.tls.HasMode mode := by
  rw [List.contains_iff_mem]
  exact ⟨fun hmem => ⟨_, hmem, TlsOptions.has_mode_iff.mpr rfl⟩,
    fun ⟨_, hmem, hmode⟩ => TlsOptions.has_mode_iff.mp hmode ▸ hmem⟩

/-- There is nothing to connect just if there is neither a socket nor a port. -/
theorem unreachable_iff :
    o.socket.isEmpty = true ∧ o.port = 0 ↔ ¬ (o.port ≠ 0 ∨ o.socket ≠ "") := by
  rw [String.isEmpty_iff, and_comm, not_or, not_not, not_not]

/-- The check passes usable options, and else it reports a fault that there is. -/
theorem check_cases (o : Options) :
    o.IsUsable ∧ o.check = .ok () ∨ ∃ fault, o.HasFault fault ∧ o.check = .error fault := by
  unfold check
  split
  next h => exact .inr ⟨_, .zeroPort h.2 (String.isEmpty_iff.mp h.1), rfl⟩
  next hreachable =>
    split
    next h =>
      have hunknown := mt contains_upper_iff.mpr h
      exact .inr ⟨_, .unknownMode fun mode hmem hmode => hunknown ⟨mode, hmem, hmode⟩, rfl⟩
    next hmode =>
      split
      next h => exact .inr ⟨_, .zeroTimeout h, rfl⟩
      next hwaits =>
        have hreachable : o.port ≠ 0 ∨ o.socket ≠ "" := by
          by_contra h
          exact hreachable (unreachable_iff.mpr h)
        have hknown := contains_upper_iff.mp (Classical.not_not.mp hmode)
        exact .inl ⟨⟨hreachable, hknown, hwaits⟩, rfl⟩

theorem check_eq_ok_iff : o.check = .ok () ↔ o.IsUsable := by
  obtain ⟨husable, hcheck⟩ | ⟨fault, hfault, hcheck⟩ := o.check_cases
  · exact iff_of_true hcheck husable
  · exact iff_of_false (hcheck ▸ nofun) hfault.not_usable

theorem standard_usable : ({} : Options).IsUsable :=
  check_eq_ok_iff.mp (Except.eq_ok_of_toOption (by decide +kernel))

end Options

namespace Cli

/-! ## Putting settings over options -/

/-- What a field has after a setting was put over it: the value of the setting if it is given, and
else what the field had. -/
inductive Overlay {α : Type} : (setting : Option α) → (old new : α) → Prop where
  | given (value old : α) : Overlay (some value) old value
  | kept (old : α) : Overlay none old old

theorem overlay_iff {α : Type} {setting : Option α} {old new : α} :
    Overlay setting old new ↔ new = setting.getD old := by
  constructor
  · rintro (_ | _) <;> rfl
  · rintro rfl
    cases setting with
    | none => exact .kept old
    | some value => exact .given value old

namespace Given

/-- Each setting that is given stands in its field, a mode in upper case, and every other field is
kept. -/
structure Overlays (g : Given) (old new : Options) : Prop where
  host : Overlay g.host old.host new.host
  port : Overlay g.port old.port new.port
  user : Overlay g.user old.user new.user
  password : Overlay g.password old.password new.password
  schema : Overlay g.schema old.schema new.schema
  socket : Overlay g.socket old.socket new.socket
  tlsMode : Overlay (g.tlsMode.map Text.upper) old.tls.mode new.tls.mode
  material : { new.tls with mode := old.tls.mode } = old.tls
  ipMode : Overlay g.ipMode old.ipMode new.ipMode
  skipWait : new.skipWait = old.skipWait
  connectTimeoutMs : new.connectTimeoutMs = old.connectTimeoutMs
  readTimeoutMs : new.readTimeoutMs = old.readTimeoutMs

/-- Options are overridden by the settings, and nothing else. -/
theorem overlays_iff {g : Given} {old new : Options} :
    g.Overlays old new ↔ new = g.override old := by
  constructor
  · rintro ⟨host, port, user, password, schema, socket, tlsMode, material, ipMode, skipWait,
      connectTimeoutMs, readTimeoutMs⟩
    have htls : new.tls = { old.tls with mode := new.tls.mode } := by rw [← material]
    simp only [overlay_iff] at *
    obtain ⟨⟩ := new
    simp only at *
    subst host port user password schema socket ipMode skipWait connectTimeoutMs readTimeoutMs
    rw [htls, tlsMode]
    rfl
  · rintro rfl
    constructor <;> first | exact overlay_iff.mpr rfl | rfl

/-- The configuration that the settings are put over: the standard one if no file is given, and else
the one that the file describes. -/
inductive StartsFrom (files : Files) (g : Given) : Config → Prop where
  | standard (h : g.config = none) : StartsFrom files g {}
  | file {path text : String} {c : Config} (hconfig : g.config = some path)
      (hread : Config.readText files path = .ok text) (hparse : Config.parse? text = some c) :
      StartsFrom files g c

end Given

namespace Invocation

variable {files : Files} {g : Given} {base : Config} {merged : Options}

/-! ## Loading -/

/-- A file is checked by itself, before the settings are put over it. -/
theorem base_config_cases (hbase : g.StartsFrom files base) :
    base.connection.IsUsable ∧ baseConfig files g = .ok base ∨
      ∃ path fault, g.config = some path ∧ base.connection.HasFault fault ∧
        baseConfig files g = .error (.ofFile path (.options fault)) := by
  cases hbase with
  | standard h => exact .inl ⟨Options.standard_usable, by rw [baseConfig, h]⟩
  | @file path text _ hconfig hread hparse =>
      have hload : Config.load files path = base.check := by
        simp only [Config.load, hread, hparse]
      rw [baseConfig, hconfig]
      simp only [hload, Config.check]
      obtain ⟨husable, hcheck⟩ | ⟨fault, hfault, hcheck⟩ := base.connection.check_cases
      · exact .inl ⟨husable, by rw [hcheck]; rfl⟩
      · exact .inr ⟨path, fault, rfl, hfault, by rw [hcheck]; rfl⟩

/-- How loading ends: the file is at fault, or what comes of the settings is, or neither. -/
theorem load_config_cases (filter : Option String) (hbase : g.StartsFrom files base)
    (hmerged : g.Overlays base.connection merged) :
    (∃ path fault, g.config = some path ∧ base.connection.HasFault fault ∧
        loadConfig files g filter = .error (.ofFile path (.options fault))) ∨
      (∃ fault, base.connection.IsUsable ∧ merged.HasFault fault ∧
        loadConfig files g filter = .error ⟨fault.text, []⟩) ∨
      base.connection.IsUsable ∧ merged.IsUsable ∧
        loadConfig files g filter = .ok (adjust g filter base) := by
  have hmerged : (adjust g filter base).connection = merged :=
    (Given.overlays_iff.mp hmerged).symm
  obtain ⟨husable, hload⟩ | ⟨path, fault, hconfig, hfault, hload⟩ := base_config_cases hbase
  · simp only [loadConfig, hload, Config.check, hmerged]
    obtain ⟨hgood, hcheck⟩ | ⟨fault, hfault, hcheck⟩ := merged.check_cases
    · exact .inr (.inr ⟨husable, hgood, by rw [hcheck]; rfl⟩)
    · exact .inr (.inl ⟨fault, husable, hfault, by rw [hcheck]; rfl⟩)
  · exact .inl ⟨path, fault, hconfig, hfault, by simp only [loadConfig, hload]⟩

/-- Loading succeeds exactly if the configuration that the settings are put over and the options
that come of it are both usable; without a file, exactly if these options are. They are the options
that are loaded. If loading fails, the failure is a fault of the file, which it names, or else of
the options that came of the settings. -/
theorem load_config_exact (filter : Option String) (hbase : g.StartsFrom files base)
    (hmerged : g.Overlays base.connection merged) :
    let result := loadConfig files g filter
    ((∃ c, result = .ok c) ↔ base.connection.IsUsable ∧ merged.IsUsable) ∧
      (g.config = none → ((∃ c, result = .ok c) ↔ merged.IsUsable)) ∧
      (∀ c, result = .ok c → c.connection = merged) ∧
      ∀ failure, result = .error failure →
        (∃ path fault, g.config = some path ∧ base.connection.HasFault fault ∧
          failure = .ofFile path (.options fault)) ∨
        ∃ fault, base.connection.IsUsable ∧ merged.HasFault fault ∧ failure = ⟨fault.text, []⟩ := by
  intro result
  obtain ⟨path, fault, hconfig, hfault, hresult⟩ | ⟨fault, husable, hfault, hresult⟩ |
      ⟨husable, hgood, hresult⟩ := load_config_cases filter hbase hmerged
  all_goals
    rw [show result = _ from hresult]
  · refine ⟨iff_of_false nofun fun h => hfault.not_usable h.1, fun h => ?_, nofun, ?_⟩
    · cases hconfig.symm.trans h
    · rintro failure ⟨⟩
      exact .inl ⟨path, fault, hconfig, hfault, rfl⟩
  · refine ⟨iff_of_false nofun fun h => hfault.not_usable h.2,
      fun _ => iff_of_false nofun hfault.not_usable, nofun, ?_⟩
    rintro failure ⟨⟩
    exact .inr ⟨fault, husable, hfault, rfl⟩
  · refine ⟨iff_of_true ⟨_, rfl⟩ ⟨husable, hgood⟩, fun _ => iff_of_true ⟨_, rfl⟩ hgood, ?_, nofun⟩
    rintro c ⟨⟩
    exact (Given.overlays_iff.mp hmerged).symm

/-- A file can leave the port out because it has a socket. Settings that take the socket away must
then give a port. -/
theorem load_config_without_socket :
    let text := "[connection]\nport = 0\nsocket = \"a.sock\"\n"
    let files : Files := ⟨[(["c.toml"], .regular (Text.utf8 text))]⟩
    let g : Given := { config := some "c.toml", socket := some "", tlsMode := some "Required" }
    let base : Config := { connection := { port := 0, socket := "a.sock" } }
    let merged : Options := { port := 3307, tls := { mode := "REQUIRED" } }
    g.StartsFrom files base ∧
      (∃ c, loadConfig files { g with port := some 3307 } none = .ok c ∧ c.connection = merged) ∧
      ¬ ∃ c, loadConfig files g none = .ok c := by
  intro text files g base merged
  have hread : Config.readText files "c.toml" = .ok text :=
    Except.eq_ok_of_toOption (by decide +kernel)
  have hparse : Config.parse? text = some base := by decide +kernel
  have hbase (port : Option UInt16) : { g with port }.StartsFrom files base :=
    .file rfl hread hparse
  have husable : base.connection.IsUsable :=
    Options.check_eq_ok_iff.mp (Except.eq_ok_of_toOption (by decide +kernel))
  have hgood : merged.IsUsable :=
    Options.check_eq_ok_iff.mp (Except.eq_ok_of_toOption (by decide +kernel))
  have hbad : ¬ (g.override base.connection).IsUsable := fun h => h.reachable.elim (· rfl) (· rfl)
  have hmerged : { g with port := some 3307 }.Overlays base.connection merged :=
    Given.overlays_iff.mpr (by decide +kernel)
  obtain ⟨hiff, -, hloaded, -⟩ := load_config_exact none (hbase (some 3307)) hmerged
  obtain ⟨hiff', -⟩ := load_config_exact none (hbase none) (Given.overlays_iff.mpr rfl)
  obtain ⟨c, hc⟩ := hiff.mpr ⟨husable, hgood⟩
  exact ⟨hbase none, ⟨c, hc, hloaded c hc⟩, fun h => hbad (hiff'.mp h).2⟩

/-- A file that gives neither a port nor a socket is not mended by a socket among the settings,
although the options that come of it are usable. -/
theorem unusable_file_not_mended :
    let text := "[connection]\nport = 0\n"
    let files : Files := ⟨[(["c.toml"], .regular (Text.utf8 text))]⟩
    let g : Given := { config := some "c.toml", socket := some "server.sock" }
    let base : Config := { connection := { port := 0 } }
    let merged : Options := { port := 0, socket := "server.sock" }
    g.StartsFrom files base ∧ g.Overlays base.connection merged ∧ merged.IsUsable ∧
      ∀ filter, ¬ ∃ c, loadConfig files g filter = .ok c := by
  intro text files g base merged
  have hread : Config.readText files "c.toml" = .ok text :=
    Except.eq_ok_of_toOption (by decide +kernel)
  have hbase : g.StartsFrom files base := .file rfl hread (by decide +kernel)
  have hmerged : g.Overlays base.connection merged := Given.overlays_iff.mpr (by decide +kernel)
  have hgood : merged.IsUsable :=
    Options.check_eq_ok_iff.mp (Except.eq_ok_of_toOption (by decide +kernel))
  have hbad : ¬ base.connection.IsUsable := fun h => h.reachable.elim (· rfl) (· rfl)
  refine ⟨hbase, hmerged, hgood, ?_⟩
  rintro filter ⟨c, hc⟩
  obtain ⟨_, _, -, -, hresult⟩ | ⟨_, husable, -⟩ | ⟨husable, -⟩ :=
    load_config_cases filter hbase hmerged
  · cases hc.symm.trans hresult
  · exact hbad husable
  · exact hbad husable

end Invocation

end Cli

end SessionKeeper
