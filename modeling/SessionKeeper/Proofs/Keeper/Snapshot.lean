import SessionKeeper.Proofs.Keeper.Bookkeeping
import SessionKeeper.Proofs.Keeper.Preparation
import SessionKeeper.Proofs.Keeper.Transparency

/-!
# What named sessions start from

The options of a keeper are those of its beginning, and so are the variables that publish them: no
operation changes either. What a new session is told follows from these options and the call, and
`create_follows_snapshot` says what that is after any history.
-/

namespace SessionKeeper

/-- The options that are published, each with its variable. -/
def shownOptions (o : Options) : List (String × String) :=
  [(Variables.clientUser, o.user), (Variables.clientPassword, o.password),
    (Variables.clientHost, o.host), (Variables.clientSocket, o.socket),
    (Variables.clientSchema, o.schema), (Variables.clientPort, toString o.port.toNat),
    (Variables.tlsMode, o.tls.mode)]

namespace Keeper

variable {σ ω : Type} {k middle after : Keeper σ ω} {name : String}

/-- The options are as they were, and so are all variables but the client id. -/
structure SnapshotKept (k after : Keeper σ ω) : Prop where
  options : after.options = k.options
  published : ∀ name, name ≠ Variables.activeClientId →
    after.published.get? name = k.published.get? name

theorem SnapshotKept.refl (k : Keeper σ ω) : SnapshotKept k k :=
  ⟨rfl, fun _ _ => rfl⟩

theorem SnapshotKept.trans (h : SnapshotKept k middle) (hlater : SnapshotKept middle after) :
    SnapshotKept k after :=
  ⟨hlater.options.trans h.options,
    fun name hname => (hlater.published name hname).trans (h.published name hname)⟩

/-- Where the variables differ by a client id only, the others are as they were. -/
theorem SnapshotKept.of_insert {id other : String} (hoptions : after.options = k.options)
    (hpublished : after.published.insert Variables.activeClientId id =
      k.published.insert Variables.activeClientId other) : SnapshotKept k after := by
  refine ⟨hoptions, fun name hname => ?_⟩
  have hboth := congrArg (Table.get? · name) hpublished
  simpa only [Table.get?_insert, if_neg hname] using hboth

/-- Publishing a client id leaves the other variables. -/
theorem SnapshotKept.of_published {id : String} (hoptions : after.options = k.options)
    (hpublished : after.published = k.published.insert Variables.activeClientId id) :
    SnapshotKept k after := by
  have hboth : after.published.insert Variables.activeClientId id =
      k.published.insert Variables.activeClientId id := by
    rw [hpublished, Table.insert_insert]
  exact .of_insert hoptions hboth

variable [Session σ ω]

/-! ## The operations -/

theorem set_active_snapshot (name : String) (quiet : Bool) (k : Keeper σ ω) :
    SnapshotKept k (setActive name quiet k).state := by
  cases h : k.sessions.get? name with
  | none =>
      rw [set_active_of_absent h]
      exact .refl k
  | some session =>
      rw [set_active_of_get? h]
      exact .of_published rfl rfl

theorem connect_default_snapshot (expired noAuth plain : Bool) :
    SnapshotKept k (connectDefault expired noAuth plain k).state := by
  cases h : k.sessions.get? defaultName with
  | none =>
      rw [connect_default_of_absent h]
      exact ⟨rfl, fun _ _ => rfl⟩
  | some session =>
      rcases hconnect : Session.connect k.options (!noAuth)
          (prepareDefault k.options k.world expired plain session, k.world) with
        ⟨_, left, world⟩ | ⟨e, left, world⟩
      · rw [connect_default_of_ok h hconnect]
        exact .of_published rfl rfl
      · rw [connect_default_of_error h hconnect]
        exact ⟨rfl, fun _ _ => rfl⟩

theorem create_snapshot (name user password schema : String) (noTls : Bool) :
    SnapshotKept k (create name user password schema noTls k).state := by
  cases h : k.sessions.contains name with
  | true =>
      rw [create_of_present h]
      exact .refl k
  | false =>
      rcases hattempt : k.attempt user password schema noTls with
        ⟨_, left, world⟩ | ⟨e, left, world⟩
      · rw [create_of_ok h hattempt]
        exact .of_published rfl rfl
      · rw [create_of_error h hattempt]
        exact ⟨rfl, fun _ _ => rfl⟩

theorem abort_active_snapshot : SnapshotKept k (abortActive k).state := by
  cases hname : k.activeName with
  | none =>
      simp only [abortActive, hname]
      exact .refl k
  | some name =>
      obtain ⟨session, h⟩ := exists_of_active_name hname
      by_cases hnamed : name = defaultName
      · subst hnamed
        rw [abort_active_of_default hname h]
        exact ⟨rfl, fun _ _ => rfl⟩
      · rw [abort_active_of_named hname hnamed h]
        have haborted : SnapshotKept k (k.aborted name session) := ⟨rfl, fun _ _ => rfl⟩
        exact haborted.trans (set_active_snapshot defaultName false _)

theorem close_active_snapshot (shutdown quiet : Bool) :
    SnapshotKept k (closeActive shutdown quiet k).state := by
  cases hname : k.activeName with
  | none =>
      rw [close_active_of_none hname]
      exact .refl k
  | some name =>
      obtain ⟨session, h⟩ := exists_of_active_name hname
      by_cases hclosable : name ≠ defaultName ∨ shutdown = true
      · obtain ⟨console, -, -, hstate⟩ := close_active_eq quiet hname h hclosable
        have hdismissed : SnapshotKept k (k.dismissed name session console) :=
          ⟨rfl, fun _ _ => rfl⟩
        rw [hstate]
        cases shutdown with
        | true => exact hdismissed
        | false => exact hdismissed.trans (set_active_snapshot defaultName quiet _)
      · obtain ⟨rfl, rfl⟩ : name = defaultName ∧ shutdown = false := by simpa using hclosable
        rw [close_active_of_default hname]
        exact .refl k

theorem safe_close_snapshot (name : String) : SnapshotKept k (k.safeClose name) := by
  cases h : k.sessions.get? name with
  | none =>
      rw [safe_close_of_absent h]
      exact .refl k
  | some session =>
      rw [safe_close_eq h]
      exact .of_published rfl rfl

theorem destroy_snapshot (arrangement : Arrangement) :
    SnapshotKept k (k.destroyIn (arrangement.arrange k.namedSessions)) := by
  have horder := arrangement.perm k.namedSessions
  have hspec := closed_before_drain horder
  rw [destroy_in_eq horder]
  exact .of_insert hspec.options (hspec.published "")

omit [Session σ ω] in
theorem on_active_snapshot {α : Type} {act : EStateM SessionError σ α} :
    SnapshotKept k (onActive act k).state := by
  obtain ⟨-, hstate⟩ | ⟨name, session, -, -, hstate⟩ := on_active_state (k := k) act
  · rw [hstate]
    exact .refl k
  · rw [hstate]
    exact ⟨rfl, fun _ _ => rfl⟩

/-- No operation changes the options, or a variable other than the client id. -/
theorem step_snapshot (operation : Operation) : SnapshotKept k (k.step operation) := by
  cases operation with
  | connectDefault expired noAuth plain =>
      rw [step, perform, state_silently]
      exact connect_default_snapshot expired noAuth plain
  | create name user password schema noTls =>
      rw [step, perform, state_silently]
      exact create_snapshot name user password schema noTls
  | setActive name quiet =>
      rw [step, perform, state_silently]
      exact set_active_snapshot name quiet k
  | abortActive =>
      rw [step, perform, state_silently]
      exact abort_active_snapshot
  | closeActive shutdown quiet =>
      rw [step, perform, state_silently]
      exact close_active_snapshot shutdown quiet
  | safeClose name => exact safe_close_snapshot name
  | destroy arrangement => exact destroy_snapshot arrangement
  | send message =>
      rw [step, perform, state_silently]
      exact on_active_snapshot
  | receive =>
      rw [step_receive]
      exact on_active_snapshot
  | closeTransport =>
      rw [step, perform, state_silently]
      exact on_active_snapshot

/-- Nor does any run. -/
theorem run_snapshot (k : Keeper σ ω) (operations : List Operation) :
    SnapshotKept k (k.run operations) := by
  induction operations generalizing k with
  | nil => exact .refl k
  | cons operation operations ih => exact (step_snapshot operation).trans (ih (k.step operation))

omit [Session σ ω] in
/-- What is published at the beginning are the options, and none of their variables is the one of
the client id. -/
theorem publish_shown {o : Options} {entry : String × String} (h : entry ∈ shownOptions o) :
    (publish o).get? entry.1 = some entry.2 ∧ entry.1 ≠ Variables.activeClientId := by
  simp only [shownOptions, List.mem_cons, List.not_mem_nil, or_false] at h
  rcases h with rfl | rfl | rfl | rfl | rfl | rfl | rfl <;>
    simp [publish, Table.get?_insert, Variables.clientUser, Variables.clientPassword,
      Variables.clientHost, Variables.clientSocket, Variables.clientSchema, Variables.clientPort,
      Variables.tlsMode, Variables.activeClientId]

/-! ## What a new session is told -/

/-- The options of a named session: an empty argument stands for the option of the keeper, and the
password counts only if there is a user. -/
theorem named_options_eq (o : Options) (user password schema : String) (noTls : Bool) :
    namedOptions o user password schema noTls =
      { o with
        tls := if noTls then {} else o.tls
        user := if user = "" then o.user else user
        password := if user = "" then o.password else password
        schema := if schema = "" then o.schema else schema } := by
  simp only [namedOptions, String.isEmpty_iff]
  rfl

/-- The calls that a new session gets until it is connected. -/
def createCalls (mode : IpMode) (o : Options) (user : String) : List Call :=
  [.setIpMode mode, .setTls o.tls, .countMessages,
    .connect o (if user = noAuthUser then none else some .mysql41)]

/-- A recorded session connects as the session inside it does. -/
theorem connect_recorded (o : Options) (authenticate : Bool) (r : Recorded σ) (w : ω) :
    let result := Session.connect o authenticate (r.session, w)
    let noted := r.note (.connect o (if authenticate then some r.method else none))
    (Session.connect o authenticate (r, w)).outcome = result.outcome ∧
      (Session.connect o authenticate (r, w)).state =
        ({ noted with session := result.state.1 }, result.state.2) := by
  intro result noted
  cases hresult : Session.connect o authenticate (r.session, w) with
  | ok _ p => simp [Session.connect, result, noted, hresult]
  | error e p => simp [Session.connect, result, noted, hresult]

/-- A new session is connected as the session inside it is, and has written down how. -/
theorem attempt_recorded {k : Keeper (Recorded σ) ω} (user password schema : String)
    (noTls : Bool) :
    let o := namedOptions k.options user password schema noTls
    let made : σ × ω := Session.create k.world
    let result := Session.connect o (user != noAuthUser)
      (prepareNamed k.options.ipMode o made.2 made.1, made.2)
    (k.attempt user password schema noTls).outcome = result.outcome ∧
      (k.attempt user password schema noTls).state =
        (⟨result.state.1, .mysql41, createCalls k.options.ipMode o user⟩, result.state.2) := by
  intro o made result
  have hmethod : (if (user != noAuthUser) = true then some AuthMethod.mysql41 else none) =
      if user = noAuthUser then none else some .mysql41 := by
    by_cases h : user = noAuthUser <;> simp [h]
  rw [createCalls, ← hmethod]
  exact connect_recorded o (user != noAuthUser)
    ⟨prepareNamed k.options.ipMode o made.2 made.1, .mysql41,
      [.setIpMode k.options.ipMode, .setTls o.tls, .countMessages]⟩ made.2

/-- What creating a session under a new name leaves. -/
theorem create_of_new (user password schema : String) (noTls : Bool)
    (hname : k.sessions.get? name = none) :
    let attempt := k.attempt user password schema noTls
    let after := (create name user password schema noTls k).state
    after.world = attempt.state.2 ∧
      (∀ e, attempt.outcome = .error e → after.sessions = k.sessions ∧
        after.retired = Channel.close attempt.state.1 :: k.retired) ∧
      (attempt.outcome = .ok () → after.sessions = k.sessions.insert name attempt.state.1 ∧
        after.retired = k.retired) := by
  have habsent : k.sessions.contains name = false := Table.contains_eq_false_iff.mpr hname
  intro attempt after
  refine ⟨world_create habsent, fun e herror => ?_, fun hok => ?_⟩
  · obtain ⟨-, hsessions, hretired, -⟩ := create_keeps_books (create_error_iff.mpr ⟨hname, herror⟩)
    exact ⟨hsessions, hretired⟩
  · obtain ⟨hsessions, hretired, -⟩ := create_registers (create_ok_iff.mpr ⟨hname, hok⟩)
    exact ⟨hsessions, hretired⟩

/-- After every history a keeper has the options that it began with, and publishes them. A session
that it creates under a new name is told the mode of these options, and told about TLS and connected
with these options as the call alone changes them: without TLS if that is asked for, with the user
and the password of the call if it has a user, and with its schema if it has one. Nothing else is
asked of it before it connects, with its own method unless the user asks for none. Over the network
that method is the one that proves the password, and no capability is set. That the sessions write
down what they are told changes nothing else. -/
theorem create_follows_snapshot (options : Options) (console : Console) (world : ω)
    (operations : List Operation) :
    let k : Keeper (Recorded σ) ω := (new options console world).run operations
    k.map Recorded.session id = (new options console world).run operations ∧
    (k.options = options ∧
      ∀ entry ∈ shownOptions options, k.published.get? entry.1 = some entry.2) ∧
    (∀ name user password schema noTls, k.sessions.get? name = none →
      let o : Options :=
        { options with
          tls := if noTls then {} else options.tls
          user := if user = "" then options.user else user
          password := if user = "" then options.password else password
          schema := if schema = "" then options.schema else schema }
      let made : σ × ω := Session.create k.world
      let told := Session.countMessages
        (Session.setTls made.2 o (Session.setIpMode options.ipMode made.1))
      let result := Session.connect o (user != "-") (told, made.2)
      let left : Recorded σ :=
        ⟨result.state.1, .mysql41,
          [.setIpMode options.ipMode, .setTls o.tls, .countMessages,
            .connect o (if user = "-" then none else some .mysql41)]⟩
      let after := (create name user password schema noTls k).state
      (create name user password schema noTls k).outcome = result.outcome.mapError .session ∧
        after.world = result.state.2 ∧
        (∀ e, result.outcome = .error e → after.sessions = k.sessions ∧
          after.retired = Channel.close left :: k.retired) ∧
        (result.outcome = .ok () → after.sessions = k.sessions.insert name left ∧
          after.retired = k.retired)) ∧
    ∀ (host : Host) user password schema noTls,
      let k : Keeper NetworkSession Host := (new options console host).run operations
      let told := (k.prepared user password schema noTls).1
      told.ipMode = options.ipMode ∧ told.authMethod = .mysql41 ∧ told.capabilities = [] := by
  intro k
  have hkept : SnapshotKept (new options console world) k := run_snapshot _ operations
  have hoptions : k.options = options := hkept.options
  refine ⟨Recorded.transparent.run_new_map options console world operations,
    ⟨hoptions, fun entry hentry => ?_⟩, ?_, ?_⟩
  · obtain ⟨hpublished, hname⟩ := publish_shown hentry
    rw [hkept.published entry.1 hname]
    simpa only [new] using hpublished
  · intro name user password schema noTls hname o made told result left after
    have ho : namedOptions k.options user password schema noTls = o := by
      rw [hoptions, named_options_eq]
    obtain ⟨houtcome, hstate⟩ := attempt_recorded (k := k) user password schema noTls
    rw [ho, hoptions] at houtcome hstate
    obtain ⟨hworld, herror, hok⟩ := create_of_new user password schema noTls hname
    rw [houtcome, hstate] at herror hok
    rw [hstate] at hworld
    refine ⟨?_, hworld, herror, hok⟩
    rw [outcome_create hname, houtcome]
    rfl
  · intro host user password schema noTls k told
    have hkept : SnapshotKept (new options console host) k := run_snapshot _ operations
    exact ⟨congrArg Options.ipMode hkept.options, rfl, rfl⟩

/-- Neither a default connect with every flag nor a session created without TLS and with options of
its own shows in the session that is created next; its password is ignored for want of a user. -/
theorem created_after_overrides :
    let o : Options :=
      { user := "root", password := "secret", schema := "test",
        tls := { mode := "REQUIRED", ca := "ca.pem" } }
    let start : Keeper (Recorded Scripted) Scripts := new o (Console.new false) ⟨[], 0⟩
    let k := start.run [.connectDefault true true true, .create "a" "u" "p" "db" true]
    let after := (create "b" "" "ignored" "" false k).state
    k.sessions.get? "b" = none ∧ k.options = o ∧
      (after.sessions.get? "b").map Recorded.calls =
        some [.setIpMode .any, .setTls o.tls, .countMessages, .connect o (some .mysql41)] := by
  intro o start k after
  have hname : k.sessions.get? "b" = none := rfl
  obtain ⟨-, ⟨hoptions, -⟩, hcreate, -⟩ := create_follows_snapshot (σ := Scripted) o
    (Console.new false) ⟨[], 0⟩ [.connectDefault true true true, .create "a" "u" "p" "db" true]
  obtain ⟨-, -, -, hok⟩ := hcreate "b" "" "ignored" "" false hname
  obtain ⟨hsessions, -⟩ := hok rfl
  refine ⟨hname, hoptions, ?_⟩
  rw [show after.sessions = _ from hsessions, Table.get?_insert_self]
  rfl

end Keeper

end SessionKeeper
