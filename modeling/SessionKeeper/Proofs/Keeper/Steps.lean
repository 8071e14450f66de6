import SessionKeeper.Keeper.Close
import SessionKeeper.Keeper.Connect
import SessionKeeper.Proofs.Closing.Ending

/-!
# What the operations of a keeper do

Each operation has one equation for each way it can go, which says what it returns and what it
leaves behind. Closing is described through the ending of the farewell, so `close_active_eq` holds
for every behaviour of the session; `safe_close_eq` is the form that it takes at the end.
-/

namespace SessionKeeper.Keeper

open Closing (Ending ending departed)

variable {σ ω : Type} {k : Keeper σ ω} {name : String} {session : σ} {quiet shutdown : Bool}

/-! ## The active name -/

theorem active_name_eq_some_iff :
    k.activeName = some name ↔ k.active = some name ∧ k.sessions.contains name = true := by
  simp [activeName, Option.filter_eq_some_iff]

/-- The active name has a session. -/
theorem exists_of_active_name (h : k.activeName = some name) :
    ∃ session, k.sessions.get? name = some session :=
  Table.contains_iff_exists.mp (active_name_eq_some_iff.mp h).2

theorem print_unless_eq (text : String) :
    k.printUnless quiet text =
      { k with console := if quiet then k.console else k.console.print text } := by
  cases quiet <;> rfl

variable [Session σ ω]

/-! ## Switching -/

theorem set_active_of_absent (h : k.sessions.get? name = none) :
    setActive name quiet k = .error (k.noSuchSession name) k := by
  simp [setActive, h]

/-- The keeper after a switch to a session. -/
def switched (k : Keeper σ ω) (name : String) (session : σ) (quiet : Bool) : Keeper σ ω :=
  { k with
    active := some name
    published :=
      k.published.insert Variables.activeClientId (toString (Session.clientId session).toNat)
    console :=
      if quiet then k.console
      else k.console.print ("switched to session " ++ shownName name ++ "\n") }

theorem set_active_of_get? (h : k.sessions.get? name = some session) :
    setActive name quiet k = .ok () (k.switched name session quiet) := by
  simp [setActive, h, print_unless_eq, publishClientId, switched]

/-! ## Letting go -/

theorem retire_of_get? (h : k.sessions.get? name = some session) :
    k.retire name =
      { k with
        sessions := k.sessions.erase name
        retired := Channel.close session :: k.retired } := by
  simp [retire, h]

theorem release_of_get? (h : k.sessions.get? name = some session) :
    k.release name =
      { k with
        sessions := k.sessions.erase name
        ledger := k.ledger.countClosed
        retired := Channel.close session :: k.retired } := by
  simp [release, Table.contains, h, retire_of_get? h]

/-- The keeper after its active session was aborted: the default session is replaced, and any other
one gives way to it. -/
theorem abort_active_of_default (hname : k.activeName = some defaultName)
    (h : k.sessions.get? defaultName = some session) :
    let made : σ × ω := Session.create k.world
    abortActive k =
      .ok ()
        { k with
          sessions := (k.sessions.erase defaultName).insert defaultName made.1
          ledger := k.ledger.countAborted
          retired := Channel.close session :: k.retired
          world := made.2 } := by
  have hempty : String.isEmpty defaultName = true := rfl
  simp [abortActive, hname, retire_of_get? h, renewDefault, printUnless, hempty]

/-- The keeper after a named session was aborted, before the default session becomes active. -/
def aborted (k : Keeper σ ω) (name : String) (session : σ) : Keeper σ ω :=
  { k with
    console := k.console.print ("aborting session " ++ name ++ "\n")
    sessions := k.sessions.erase name
    active := none
    ledger := k.ledger.countAborted
    retired := Channel.close session :: k.retired }

theorem abort_active_of_named (hname : k.activeName = some name) (hnamed : name ≠ defaultName)
    (h : k.sessions.get? name = some session) :
    abortActive k = setActive defaultName false (k.aborted name session) := by
  have hempty : name.isEmpty = false := by simpa [defaultName] using hnamed
  have hretire := retire_of_get?
    (k := { k with console := k.console.print ("aborting session " ++ name ++ "\n") }) h
  simp only [abortActive, hname, print_unless_eq, hempty, if_neg hnamed, Bool.false_eq_true,
    if_false, hretire]
  rfl

/-! ## Closing -/

/-- The session under a name takes leave: what it is left as, what is counted and what is returned
follow from the ending. -/
theorem say_farewell_eq (quiet : Bool) (h : k.sessions.get? name = some session) :
    ∃ console, (quiet = true → console = k.console) ∧
      (sayFarewell name quiet k).outcome = (ending session).outcome ∧
      (sayFarewell name quiet k).state =
        { k with
          console
          sessions := k.sessions.insert name (departed (!k.options.skipWait) session)
          ledger :=
            { k.ledger with
              violations := k.ledger.violations + (ending session).violations } } := by
  obtain ⟨console, hconsole, houtcome, hstate⟩ :=
    Closing.run_eq (Closing.new session k.console (!k.options.skipWait) quiet)
  refine ⟨console, hconsole, ?_⟩
  simp only [sayFarewell, h]
  cases hrun : Closing.run (Closing.new session k.console (!k.options.skipWait) quiet) with
  | ok _ c =>
      rw [hrun] at houtcome hstate
      cases hstate
      exact ⟨houtcome, by simp [Closing.new]⟩
  | error e c =>
      rw [hrun] at houtcome hstate
      cases hstate
      exact ⟨houtcome, by simp [Closing.new]⟩

/-- What closing leaves of a session. -/
def parted (k : Keeper σ ω) (session : σ) : σ :=
  Channel.close (departed (!k.options.skipWait) session)

/-- The ledger after a session was closed. -/
def countParted (l : Ledger) (session : σ) : Ledger :=
  { l with
    closed := l.closed + 1
    violations := l.violations + (ending session).violations }

/-- The keeper after it closed a session, with nothing active. -/
def dismissed (k : Keeper σ ω) (name : String) (session : σ) (console : Console) : Keeper σ ω :=
  { k with
    console
    sessions := k.sessions.erase name
    active := none
    ledger := countParted k.ledger session
    retired := k.parted session :: k.retired }

/-- Closing the active session dismisses it on every path, and only then goes on to the default
session; an error of the farewell is the one that is returned. -/
theorem close_active_eq (quiet : Bool) (hname : k.activeName = some name)
    (h : k.sessions.get? name = some session) (hclosable : name ≠ defaultName ∨ shutdown = true) :
    ∃ console, (quiet = true → console = k.console) ∧
      (closeActive shutdown quiet k).outcome =
        (ending session).outcome.bind
          (fun _ => (restore shutdown quiet (k.dismissed name session console)).outcome) ∧
      (closeActive shutdown quiet k).state =
        (restore shutdown quiet (k.dismissed name session console)).state := by
  have hguard : (name.isEmpty && !shutdown) = false := by
    rcases hclosable with hnamed | hdown
    · simp [show name.isEmpty = false by simpa [defaultName] using hnamed]
    · simp [hdown]
  -- The announcement changes the console only.
  let said := { k with
    console :=
      if name.isEmpty || quiet then k.console
      else k.console.print ("closing session " ++ name ++ "\n") }
  obtain ⟨console, hconsole, houtcome, hstate⟩ :=
    say_farewell_eq quiet (show said.sessions.get? name = some session from h)
  have hreleased :
      { (sayFarewell name quiet said).state.release name with active := none } =
        k.dismissed name session console := by
    rw [hstate, release_of_get? (Table.get?_insert_self _ _ _), Table.erase_insert]
    rfl
  refine ⟨console, fun hquiet => (hconsole hquiet).trans (by simp [said, hquiet]), ?_⟩
  rw [← hreleased, ← houtcome]
  simp only [closeActive, hname, hguard, print_unless_eq, Bool.false_eq_true, if_false]
  cases sayFarewell name quiet said with
  | ok _ parted => exact ⟨rfl, rfl⟩
  | error e parted =>
      simp only [EStateM.Result.state_error]
      cases restore shutdown quiet { parted.release name with active := none } with
      | ok _ left => exact ⟨rfl, rfl⟩
      | error _ left => exact ⟨rfl, rfl⟩

/-- Without an active session there is nothing to close. -/
theorem close_active_of_none (hname : k.activeName = none) :
    (closeActive shutdown quiet k).state = k := by
  cases shutdown <;> simp [closeActive, hname]

/-- The default session is closed at the end only. -/
theorem close_active_of_default (hname : k.activeName = some defaultName) :
    closeActive false quiet k = .error (.misuse .closeDefault) k := by
  have hempty : String.isEmpty defaultName = true := rfl
  simp [closeActive, hname, hempty]

/-- At the end a name without a session changes nothing. -/
theorem safe_close_of_absent (h : k.sessions.get? name = none) : k.safeClose name = k := by
  simp [safeClose, set_active_of_absent h]

/-- At the end a session is dismissed whatever happens, and nothing is printed. -/
theorem safe_close_eq (h : k.sessions.get? name = some session) :
    k.safeClose name =
      { k.dismissed name session k.console with
        published :=
          k.published.insert Variables.activeClientId
            (toString (Session.clientId session).toNat) } := by
  let chosen := k.switched name session true
  have hname : chosen.activeName = some name :=
    active_name_eq_some_iff.mpr ⟨rfl, Table.contains_iff_exists.mpr ⟨session, h⟩⟩
  obtain ⟨console, hconsole, -, hstate⟩ :=
    close_active_eq true hname (show chosen.sessions.get? name = some session from h)
      (.inr rfl)
  have hclosed : k.safeClose name = (closeActive true true chosen).state := by
    simp only [safeClose, set_active_of_get? h, chosen]
    cases closeActive true true (k.switched name session true) <;> rfl
  rw [hclosed, hstate, hconsole rfl]
  rfl

/-! ## Acting on the active session -/

omit [Session σ ω] in
/-- An action on the active session replaces that session, if there is one. -/
theorem on_active_state {α : Type} (act : EStateM SessionError σ α) :
    (k.activeName = none ∧ (onActive act k).state = k) ∨
      ∃ name session, k.activeName = some name ∧ k.sessions.get? name = some session ∧
        (onActive act k).state =
          { k with sessions := k.sessions.insert name (act session).state } := by
  cases hname : k.activeName with
  | none => exact .inl ⟨rfl, by simp [onActive, hname]⟩
  | some name =>
      obtain ⟨session, h⟩ := exists_of_active_name hname
      refine .inr ⟨name, session, rfl, h, ?_⟩
      cases hact : act session <;> simp [onActive, hname, h, hact]

/-! ## Connecting -/

variable {expired noAuth plain noTls : Bool} {user password schema : String} {e : SessionError}
  {world : ω}

theorem connect_default_of_absent (h : k.sessions.get? defaultName = none) :
    connectDefault expired noAuth plain k =
      .error (k.noSuchSession defaultName) (k.printVerbose "Connecting...\n") := by
  simp [connectDefault, printVerbose, noSuchSession, names, h]

/-- A default connect that fails keeps the default session, open or not, and counts the failure. -/
theorem connect_default_of_error {left : σ} (h : k.sessions.get? defaultName = some session)
    (hconnect :
      Session.connect k.options (!noAuth)
        (prepareDefault k.options k.world expired plain session, k.world) =
          .error e (left, world)) :
    connectDefault expired noAuth plain k =
      .error (.session e)
        { k with
          console := k.console.printVerbose "Connecting...\n"
          sessions :=
            k.sessions.insert defaultName (if keepsTransport e noAuth then left else Channel.close left)
          ledger := k.ledger.countFailed
          world } := by
  simp [connectDefault, printVerbose, h, hconnect]

/-- A default connect that succeeds publishes the client id that was assigned. -/
theorem connect_default_of_ok {left : σ} (h : k.sessions.get? defaultName = some session)
    (hconnect :
      Session.connect k.options (!noAuth)
        (prepareDefault k.options k.world expired plain session, k.world) = .ok () (left, world)) :
    connectDefault expired noAuth plain k =
      .ok ()
        { k with
          published :=
            k.published.insert Variables.activeClientId (toString (Session.clientId left).toNat)
          console :=
            (k.console.printVerbose "Connecting...\n").printVerbose
              ("Connected client #" ++ toString (Session.clientId left).toNat ++ "\n")
          sessions := k.sessions.insert defaultName left
          ledger := k.ledger.countOpened
          world } := by
  simp [connectDefault, printVerbose, publishClientId, h, hconnect]

theorem create_of_present (h : k.sessions.contains name = true) :
    create name user password schema noTls k = .error (.misuse (.sessionExists name)) k := by
  simp [create, h]

/-- The new session as it is set up before `create` connects it, with the environment then. -/
def prepared (k : Keeper σ ω) (user password schema : String) (noTls : Bool) : σ × ω :=
  let made : σ × ω := Session.create k.world
  (prepareNamed k.options.ipMode (namedOptions k.options user password schema noTls) made.2 made.1,
    made.2)

/-- A session that could not be connected is let go, and nothing is registered. -/
theorem create_of_error {left : σ} (h : k.sessions.contains name = false)
    (hconnect :
      Session.connect (namedOptions k.options user password schema noTls) (user != noAuthUser)
        (k.prepared user password schema noTls) = .error e (left, world)) :
    create name user password schema noTls k =
      .error (.session e)
        { k with
          console := k.console.print "connecting...\n"
          ledger := k.ledger.countFailed
          retired := Channel.close left :: k.retired
          world } := by
  simp only [prepared] at hconnect
  simp [create, print, h, hconnect]

/-- A session that was connected is registered and becomes the active one. -/
theorem create_of_ok {left : σ} (h : k.sessions.contains name = false)
    (hconnect :
      Session.connect (namedOptions k.options user password schema noTls) (user != noAuthUser)
        (k.prepared user password schema noTls) = .ok () (left, world)) :
    create name user password schema noTls k =
      .ok ()
        { k with
          published :=
            k.published.insert Variables.activeClientId (toString (Session.clientId left).toNat)
          console :=
            ((k.console.print "connecting...\n").print
              ("active session is now '" ++ name ++ "'\n")).printVerbose
                ("Connected client #" ++ toString (Session.clientId left).toNat ++ "\n")
          sessions := k.sessions.insert name left
          active := some name
          ledger := k.ledger.countOpened
          world } := by
  simp only [prepared] at hconnect
  simp [create, print, printVerbose, publishClientId, h, hconnect]

/-- A default connect that succeeds has connected the default session. -/
theorem exists_of_connect_default_ok
    (hok : (connectDefault expired noAuth plain k).outcome = .ok ()) :
    ∃ session left world, k.sessions.get? defaultName = some session ∧
      Session.connect k.options (!noAuth)
        (prepareDefault k.options k.world expired plain session, k.world) = .ok () (left, world) ∧
      (connectDefault expired noAuth plain k).state.sessions.get? defaultName = some left := by
  cases h : k.sessions.get? defaultName with
  | none =>
      rw [connect_default_of_absent h] at hok
      cases hok
  | some session =>
      rcases hconnect : Session.connect k.options (!noAuth)
          (prepareDefault k.options k.world expired plain session, k.world) with
        ⟨_, left, world⟩ | ⟨e, left, world⟩
      · refine ⟨session, left, world, rfl, hconnect, ?_⟩
        rw [connect_default_of_ok h hconnect]
        simp [Table.get?_insert]
      · rw [connect_default_of_error h hconnect] at hok
        cases hok

/-- A default connect that fails with an error of its session keeps that session, open or not. -/
theorem exists_of_connect_default_error
    (hfail : (connectDefault expired noAuth plain k).outcome = .error (.session e)) :
    ∃ session left world, k.sessions.get? defaultName = some session ∧
      Session.connect k.options (!noAuth)
        (prepareDefault k.options k.world expired plain session, k.world) =
          .error e (left, world) ∧
      (connectDefault expired noAuth plain k).state.sessions.get? defaultName =
        some (if keepsTransport e noAuth then left else Channel.close left) := by
  cases h : k.sessions.get? defaultName with
  | none =>
      rw [connect_default_of_absent h] at hfail
      cases hfail
  | some session =>
      rcases hconnect : Session.connect k.options (!noAuth)
          (prepareDefault k.options k.world expired plain session, k.world) with
        ⟨_, left, world⟩ | ⟨cause, left, world⟩
      · rw [connect_default_of_ok h hconnect] at hfail
        cases hfail
      · rw [connect_default_of_error h hconnect] at hfail ⊢
        cases hfail
        exact ⟨session, left, world, rfl, hconnect, Table.get?_insert_self _ _ _⟩

/-- A session that was created was connected. -/
theorem exists_of_create_ok (hok : (create name user password schema noTls k).outcome = .ok ()) :
    ∃ left world,
      Session.connect (namedOptions k.options user password schema noTls) (user != noAuthUser)
        (k.prepared user password schema noTls) = .ok () (left, world) ∧
      (create name user password schema noTls k).state.sessions.get? name = some left := by
  cases h : k.sessions.contains name with
  | true =>
      rw [create_of_present h] at hok
      cases hok
  | false =>
      rcases hconnect : Session.connect (namedOptions k.options user password schema noTls)
          (user != noAuthUser) (k.prepared user password schema noTls) with
        ⟨_, left, world⟩ | ⟨e, left, world⟩
      · refine ⟨left, world, rfl, ?_⟩
        rw [create_of_ok h hconnect]
        simp [Table.get?_insert]
      · rw [create_of_error h hconnect] at hok
        cases hok

/-- Whatever comes of creating a session, the environment is the one that connecting leaves. -/
theorem world_create (h : k.sessions.contains name = false) :
    (create name user password schema noTls k).state.world =
      (Session.connect (namedOptions k.options user password schema noTls) (user != noAuthUser)
        (k.prepared user password schema noTls)).state.2 := by
  rcases hconnect : Session.connect (namedOptions k.options user password schema noTls)
      (user != noAuthUser) (k.prepared user password schema noTls) with
    ⟨_, left, world⟩ | ⟨e, left, world⟩
  · rw [create_of_ok h hconnect]
    rfl
  · rw [create_of_error h hconnect]
    rfl

end SessionKeeper.Keeper
