import SessionKeeper.Proofs.Keeper.Registry
import SessionKeeper.Session.Recorded
import SessionKeeper.Session.Scripted

/-!
# What misuse leaves

An operation that reports misuse by its caller should change nothing. `misuse_cases` says when that
is so: always, except that a named session may be let go although there is no default session that
could become active in its place. `misuse_along_runs` adds that this comes after the default
session was shut down, and never before.
-/

namespace SessionKeeper.Keeper

open Closing (Ending ending)

variable {σ ω : Type} {k : Keeper σ ω} {name : String} {session : σ} {cause : Misuse}

/-- A named session is active, and there is no default session. -/
structure Astray (k : Keeper σ ω) (name : String) (session : σ) : Prop where
  active : k.activeName = some name
  there : k.sessions.get? name = some session
  named : name ≠ defaultName
  missing : k.sessions.get? defaultName = none

variable [Session σ ω]

/-- What an operation that reports misuse leaves of the keeper. -/
inductive Misused (k : Keeper σ ω) (operation : Operation) (next : Keeper σ ω) : Prop where
  /-- Nothing has changed, but for the announcement of a connect. -/
  | untouched (console : Console) (hnext : next = { k with console })
  /-- The active session was aborted before it turned out that no other one could become active. -/
  | aborted (name : String) (session : σ) (hastray : k.Astray name session)
      (hoperation : operation = .abortActive) (hnext : next = k.aborted name session)
  /-- The active session was closed properly before that turned out. -/
  | closed (name : String) (session : σ) (quiet : Bool) (console : Console)
      (hastray : k.Astray name session) (hoperation : operation = .closeActive false quiet)
      (hfarewell : (ending session).outcome = .ok ())
      (hnext : next = k.dismissed name session console)

variable {operation : Operation} {quiet shutdown expired noAuth plain noTls : Bool}
  {user password schema : String}

/-! ## The operations -/

theorem set_active_misuse (h : (setActive name quiet k).outcome = .error (.misuse cause)) :
    k.sessions.get? name = none ∧ (setActive name quiet k).state = k := by
  cases hname : k.sessions.get? name with
  | none =>
      rw [set_active_of_absent hname]
      exact ⟨rfl, rfl⟩
  | some session =>
      rw [set_active_of_get? hname] at h
      cases h

theorem connect_default_misuse
    (h : (connectDefault expired noAuth plain k).outcome = .error (.misuse cause)) :
    ∃ console, (connectDefault expired noAuth plain k).state = { k with console } := by
  cases hsession : k.sessions.get? defaultName with
  | none =>
      rw [connect_default_of_absent hsession]
      exact ⟨_, rfl⟩
  | some session =>
      rcases hconnect : Session.connect k.options (!noAuth)
          (prepareDefault k.options k.world expired plain session, k.world) with
        ⟨_, left, world⟩ | ⟨e, left, world⟩
      · rw [connect_default_of_ok hsession hconnect] at h
        cases h
      · rw [connect_default_of_error hsession hconnect] at h
        cases h

theorem create_misuse
    (h : (create name user password schema noTls k).outcome = .error (.misuse cause)) :
    (create name user password schema noTls k).state = k := by
  cases hname : k.sessions.contains name with
  | true => rw [create_of_present hname, EStateM.Result.state_error]
  | false =>
      rcases hconnect : Session.connect (namedOptions k.options user password schema noTls)
          (user != noAuthUser) (k.prepared user password schema noTls) with
        ⟨_, left, world⟩ | ⟨e, left, world⟩
      · rw [create_of_ok hname hconnect] at h
        cases h
      · rw [create_of_error hname hconnect] at h
        cases h

omit [Session σ ω] in
/-- Without a session of that name among those that are left there was none before. -/
theorem get?_default_of_erased (hnamed : name ≠ defaultName)
    (h : (k.sessions.erase name).get? defaultName = none) :
    k.sessions.get? defaultName = none := by
  rwa [Table.get?_erase, if_neg (Ne.symm hnamed)] at h

theorem abort_active_misuse (h : (abortActive k).outcome = .error (.misuse cause)) :
    Misused k .abortActive (abortActive k).state := by
  cases hname : k.activeName with
  | none =>
      simp only [abortActive, hname]
      exact .untouched k.console rfl
  | some name =>
      obtain ⟨session, hsession⟩ := exists_of_active_name hname
      by_cases hnamed : name = defaultName
      · subst hnamed
        rw [abort_active_of_default hname hsession] at h
        cases h
      · rw [abort_active_of_named hname hnamed hsession] at h ⊢
        obtain ⟨hmissing, hstate⟩ := set_active_misuse h
        exact .aborted name session
          ⟨hname, hsession, hnamed, get?_default_of_erased hnamed hmissing⟩ rfl hstate

/-- An error of a farewell is no misuse. -/
theorem ending_outcome_ne_misuse {π : Type} [Channel π] (p : π) (cause : Misuse) :
    (ending p).outcome ≠ .error (.misuse cause) := by
  cases ending p <;> simp

theorem close_active_misuse
    (h : (closeActive shutdown quiet k).outcome = .error (.misuse cause)) :
    Misused k (.closeActive shutdown quiet) (closeActive shutdown quiet k).state := by
  cases hname : k.activeName with
  | none =>
      rw [close_active_of_none hname]
      exact .untouched k.console rfl
  | some name =>
      obtain ⟨session, hsession⟩ := exists_of_active_name hname
      by_cases hclosable : name ≠ defaultName ∨ shutdown = true
      · obtain ⟨console, -, houtcome, hstate⟩ := close_active_eq quiet hname hsession hclosable
        rw [h] at houtcome
        rw [hstate]
        obtain hending | ⟨_, hfarewell, hback⟩ := Except.bind_eq_error_iff.mp houtcome.symm
        · exact absurd hending (ending_outcome_ne_misuse session cause)
        · cases shutdown with
          | true => cases hback
          | false =>
              have hnamed := hclosable.resolve_right nofun
              obtain ⟨hmissing, hleft⟩ := set_active_misuse hback
              exact .closed name session quiet console
                ⟨hname, hsession, hnamed, get?_default_of_erased hnamed hmissing⟩ rfl hfarewell
                hleft
      · obtain ⟨rfl, rfl⟩ : name = defaultName ∧ shutdown = false := by simpa using hclosable
        rw [close_active_of_default hname]
        exact .untouched k.console rfl

omit [Session σ ω] in
theorem on_active_misuse {α : Type} {act : EStateM SessionError σ α}
    (h : (onActive act k).outcome = .error (.misuse cause)) : (onActive act k).state = k := by
  cases hname : k.activeName with
  | none => simp [onActive, hname]
  | some name =>
      obtain ⟨session, hsession⟩ := exists_of_active_name hname
      simp only [onActive, hname, hsession] at h
      cases hact : act session <;> rw [hact] at h <;> cases h

/-- What is left by an operation that carries out one action is what that action leaves. -/
theorem Misused.of_silently {act : EStateM KeeperError (Keeper σ ω) Unit}
    (hperform : perform operation = silently act)
    (hact : (act k).outcome = .error (.misuse cause) → Misused k operation (act k).state)
    (h : (perform operation k).outcome = .error (.misuse cause)) :
    Misused k operation (k.step operation) := by
  rw [hperform, silently_eq_error_iff] at h
  rw [step, hperform, state_silently]
  exact hact h

/-- Every operation that reports misuse leaves the keeper as it was, unless a named session was let
go while there was no default session to go back to. -/
theorem misuse_cases (h : (perform operation k).outcome = .error (.misuse cause)) :
    Misused k operation (k.step operation) := by
  cases operation with
  | connectDefault expired noAuth plain =>
      refine .of_silently rfl (fun hmisuse => ?_) h
      obtain ⟨console, hstate⟩ := connect_default_misuse hmisuse
      exact .untouched console hstate
  | create name user password schema noTls =>
      exact .of_silently rfl (fun hmisuse => .untouched k.console (create_misuse hmisuse)) h
  | setActive name quiet =>
      exact .of_silently rfl (fun hmisuse => .untouched k.console (set_active_misuse hmisuse).2) h
  | abortActive => exact .of_silently rfl abort_active_misuse h
  | closeActive shutdown quiet => exact .of_silently rfl close_active_misuse h
  | safeClose name => cases h
  | destroy arrangement => cases h
  | send message | closeTransport =>
      exact .of_silently rfl (fun hmisuse => .untouched k.console (on_active_misuse hmisuse)) h
  | receive =>
      rw [perform_receive_eq_error_iff] at h
      rw [step_receive]
      exact .untouched k.console (on_active_misuse h)

/-- No session is let go where the default session is there. -/
theorem Misused.untouched_of_default {next : Keeper σ ω}
    (h : Misused k operation next) (hdefault : k.sessions.contains defaultName = true) :
    ∃ console, next = { k with console } := by
  obtain ⟨main, hmain⟩ := Table.contains_iff_exists.mp hdefault
  cases h with
  | untouched console hnext => exact ⟨console, hnext⟩
  | aborted name session hastray => cases hastray.missing.symm.trans hmain
  | closed name session quiet console hastray => cases hastray.missing.symm.trans hmain

/-! ## Runs -/

/-- Along every run of a new keeper, misuse changes nothing as long as the default session is there,
and so until it is shut down: all sessions with what was said on them, the active name, the
variables and the counters stay as they are. From then on the one thing it can change is that
aborting or closing lets the active session go. -/
theorem misuse_along_runs (options : Options) (console : Console) (world : ω)
    (operations : List Operation) (operation : Operation) (cause : Misuse)
    (h : (perform operation ((new options console world : Keeper σ ω).run operations)).outcome =
      .error (.misuse cause)) :
    let k : Keeper σ ω := (new options console world).run operations
    Misused k operation (k.step operation) ∧
      (k.sessions.contains defaultName = true → ∃ console, k.step operation = { k with console }) ∧
      ((∀ earlier ∈ operations, earlier.shutsDown = false) →
        ∃ console, k.step operation = { k with console }) := by
  intro k
  have hmisused : Misused k operation (k.step operation) := misuse_cases h
  have hstart : (new options console world : Keeper σ ω).sessions.contains defaultName = true := by
    simp [new, Table.contains_insert]
  exact ⟨hmisused, hmisused.untouched_of_default, fun hup =>
    hmisused.untouched_of_default (run_default_kept hstart (Option.some_ne_none _) operations hup).1⟩

/-- Creating a session under a name that is taken is misuse, and nothing is said on the session that
has the name. -/
theorem misuse_along_runs_of_taken_name :
    let start : Keeper (Recorded Scripted) Scripts := new {} (Console.new false) ⟨[], 0⟩
    let created : Operation := .create "a" "" "" "" false
    (perform created (start.run [created])).outcome =
        .error (.misuse (.sessionExists "a")) ∧
      ((start.run [created]).step created).everySession.map Recorded.calls =
        (start.run [created]).everySession.map Recorded.calls := by
  intro start created
  have hmisuse : (perform created (start.run [created])).outcome =
      .error (.misuse (.sessionExists "a")) := rfl
  obtain ⟨-, -, hup⟩ := misuse_along_runs (σ := Recorded Scripted) {} _ _ [created] created _ hmisuse
  obtain ⟨console, hstep⟩ := hup (by simp [created, Operation.shutsDown])
  exact ⟨hmisuse, by rw [hstep]; rfl⟩

/-- After the default session was shut down, aborting and closing report misuse though the session
is gone: its transport was closed, in the second case after a farewell, and the counters have
changed. -/
theorem misuse_after_shutdown :
    let start : Keeper (Recorded Scripted) Scripts := new {} (Console.new false) ⟨[], 0⟩
    let k := start.run [.closeActive true true, .create "a" "" "" "" false]
    let misuse : Except KeeperError Unit := .error (.misuse (.noSuchSession defaultName ""))
    let lastSaid (next : Keeper (Recorded Scripted) Scripts) : Option (List Call) :=
      next.retired.head?.map fun r => r.calls.drop 4
    k.activeName = some "a" ∧ k.ledger = ⟨1, 1, 0, 0, 0⟩ ∧
      ((abortActive k).outcome = misuse ∧ (abortActive k).state.activeName = none ∧
        lastSaid (abortActive k).state = some [.close true] ∧
        (abortActive k).state.ledger = ⟨1, 1, 1, 0, 0⟩) ∧
      (closeActive false true k).outcome = misuse ∧
        (closeActive false true k).state.activeName = none ∧
        lastSaid (closeActive false true k).state =
          some [.send .close, .receive, .receive, .close true, .close false] ∧
        (closeActive false true k).state.ledger = ⟨1, 2, 0, 0, 0⟩ := by
  decide +kernel

end SessionKeeper.Keeper
