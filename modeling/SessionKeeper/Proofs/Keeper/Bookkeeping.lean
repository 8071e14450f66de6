import SessionKeeper.Proofs.Keeper.Publication
import SessionKeeper.Proofs.Keeper.Treatment

/-!
# The books of a keeper

Connecting a session may fail after it was set up and before it is registered. The main statement,
`connects_keep_books`, says that such a failure is counted and changes nothing else but the session
itself, and that a session that was created is the only new one.
-/

namespace SessionKeeper.Keeper

variable {σ ω : Type} {k : Keeper σ ω} {name user password schema : String}
  {expired noAuth plain noTls : Bool} {e : SessionError}

/-- What a failed connect leaves as it was, and the one counter that it moves. -/
structure BooksKept (k after : Keeper σ ω) : Prop where
  names : after.sessions.names = k.sessions.names
  active : after.active = k.active
  options : after.options = k.options
  published : after.published = k.published
  ledger : after.ledger = { k.ledger with failed := k.ledger.failed + 1 }

variable [Session σ ω]

/-! ## How creating a session ends -/

/-- Creating a session under a new name ends as connecting it does. -/
theorem outcome_create (h : k.sessions.get? name = none) :
    (create name user password schema noTls k).outcome =
      (k.attempt user password schema noTls).outcome.mapError .session := by
  have habsent : k.sessions.contains name = false := Table.contains_eq_false_iff.mpr h
  rcases hattempt : k.attempt user password schema noTls with
    ⟨_, left, world⟩ | ⟨cause, left, world⟩
  · rw [create_of_ok habsent hattempt]
    rfl
  · rw [create_of_error habsent hattempt]
    rfl

/-- Creating a session fails with an error of the session if the name is new and the session cannot
be connected. -/
theorem create_error_iff :
    (create name user password schema noTls k).outcome = .error (.session e) ↔
      k.sessions.get? name = none ∧
        (k.attempt user password schema noTls).outcome = .error e := by
  cases h : k.sessions.get? name with
  | none =>
      rw [outcome_create h]
      cases (k.attempt user password schema noTls).outcome <;> simp [Except.mapError]
  | some session =>
      have hthere : k.sessions.contains name = true :=
        Table.contains_iff_exists.mpr ⟨session, h⟩
      rw [create_of_present hthere]
      simp

/-- Creating a session succeeds if the name is new and the session can be connected. -/
theorem create_ok_iff :
    (create name user password schema noTls k).outcome = .ok () ↔
      k.sessions.get? name = none ∧
        (k.attempt user password schema noTls).outcome = .ok () := by
  cases h : k.sessions.get? name with
  | none =>
      rw [outcome_create h]
      cases (k.attempt user password schema noTls).outcome <;> simp [Except.mapError]
  | some session =>
      have hthere : k.sessions.contains name = true :=
        Table.contains_iff_exists.mpr ⟨session, h⟩
      rw [create_of_present hthere]
      simp

/-! ## What is left of the books -/

/-- A default connect that fails changes the default session only. -/
theorem connect_default_keeps_books
    (hfail : (connectDefault expired noAuth plain k).outcome = .error (.session e)) :
    let after := (connectDefault expired noAuth plain k).state
    BooksKept k after ∧ after.retired = k.retired ∧
      ∀ other, other ≠ defaultName → after.sessions.get? other = k.sessions.get? other := by
  obtain ⟨session, left, world, h, hconnect, -⟩ := exists_of_connect_default_error hfail
  rw [connect_default_of_error h hconnect]
  refine ⟨⟨Table.names_insert_of_present _ h, rfl, rfl, rfl, rfl⟩, rfl, fun other hother => ?_⟩
  exact (Table.get?_insert _ _ _ _).trans (if_neg hother)

/-- A session that could not be created is let go, and no session that is registered changes. -/
theorem create_keeps_books
    (hfail : (create name user password schema noTls k).outcome = .error (.session e)) :
    let after := (create name user password schema noTls k).state
    let left := Channel.close (k.attempt user password schema noTls).state.1
    BooksKept k after ∧ after.sessions = k.sessions ∧ after.retired = left :: k.retired ∧
      Channel.isOpen left = false := by
  obtain ⟨hname, houtcome⟩ := create_error_iff.mp hfail
  have habsent : k.sessions.contains name = false := Table.contains_eq_false_iff.mpr hname
  rcases hattempt : k.attempt user password schema noTls with
    ⟨_, left, world⟩ | ⟨cause, left, world⟩
  · rw [hattempt] at houtcome
    cases houtcome
  · rw [create_of_error habsent hattempt]
    exact ⟨⟨rfl, rfl, rfl, rfl, rfl⟩, rfl, rfl, Channel.isOpen_close left⟩

/-- A session that was created is registered as the active one, and no session is let go. -/
theorem create_registers (hok : (create name user password schema noTls k).outcome = .ok ()) :
    let after := (create name user password schema noTls k).state
    let session := (k.attempt user password schema noTls).state.1
    after.sessions = k.sessions.insert name session ∧ after.retired = k.retired ∧
      after.active = some name ∧ after.publishedId = some (shownId session) ∧
      after.ledger = { k.ledger with opened := k.ledger.opened + 1 } := by
  obtain ⟨hname, houtcome⟩ := create_ok_iff.mp hok
  have habsent : k.sessions.contains name = false := Table.contains_eq_false_iff.mpr hname
  rcases hattempt : k.attempt user password schema noTls with
    ⟨_, left, world⟩ | ⟨cause, left, world⟩
  · rw [create_of_ok habsent hattempt]
    exact ⟨rfl, rfl, rfl, Table.get?_insert_self _ _ _, rfl⟩
  · rw [hattempt] at houtcome
    cases houtcome

/-- Whatever happened before and however connecting a session fails, a failed connect is counted as
such and leaves the names, the active one, the options and all variables as they were. A default
connect that fails touches no session but the default one; a session that could not be created is
let go without a transport, and no session that is registered changes. If a session was created, it
is the one new entry of the registry and the active session, its client id is published, and it
counts as opened. -/
theorem connects_keep_books (k : Keeper σ ω) :
    (∀ expired noAuth plain e,
      (connectDefault expired noAuth plain k).outcome = .error (.session e) →
        let after := (connectDefault expired noAuth plain k).state
        BooksKept k after ∧ after.retired = k.retired ∧
          ∀ other, other ≠ defaultName → after.sessions.get? other = k.sessions.get? other) ∧
    (∀ name user password schema noTls e,
      (create name user password schema noTls k).outcome = .error (.session e) →
        let after := (create name user password schema noTls k).state
        let left := Channel.close (k.attempt user password schema noTls).state.1
        BooksKept k after ∧ after.sessions = k.sessions ∧ after.retired = left :: k.retired ∧
          Channel.isOpen left = false) ∧
    ∀ name user password schema noTls,
      (create name user password schema noTls k).outcome = .ok () →
        let after := (create name user password schema noTls k).state
        let session := (k.attempt user password schema noTls).state.1
        after.sessions.entries = k.sessions.entries ++ [(name, session)] ∧
          after.active = some name ∧ after.publishedId = some (shownId session) ∧
          after.ledger = { k.ledger with opened := k.ledger.opened + 1 } := by
  refine ⟨fun _ _ _ _ => connect_default_keeps_books, fun _ _ _ _ _ _ => create_keeps_books, ?_⟩
  intro name user password schema noTls hok after session
  obtain ⟨hname, -⟩ := create_ok_iff.mp hok
  obtain ⟨hsessions, -, hactive, hid, hledger⟩ := create_registers hok
  refine ⟨?_, hactive, hid, hledger⟩
  rw [show after.sessions = k.sessions.insert name session from hsessions,
    Table.entries_insert_of_absent session hname]

/-- Both the default session and the first session under a name are refused; the second one under
that name is connected. -/
theorem refused_then_connected :
    let refused : SessionError := ⟨Code.connectionError, "refused"⟩
    let script (number : Nat) := { Script.standard number with connects := [some refused] }
    let start : Keeper Scripted Scripts :=
      new {} (Console.new false) ⟨[(1, script 1), (2, script 2)], 0⟩
    let k := (connectDefault false false false start).state
    let tried := (create "a" "" "" "" false k).state
    let done := (create "a" "" "" "" false tried).state
    ((connectDefault false false false start).outcome = .error (.session refused) ∧
        BooksKept start k) ∧
      ((create "a" "" "" "" false k).outcome = .error (.session refused) ∧ BooksKept k tried ∧
        tried.sessions = k.sessions) ∧
      (create "a" "" "" "" false tried).outcome = .ok () ∧ done.active = some "a" ∧
        done.ledger = { tried.ledger with opened := tried.ledger.opened + 1 } := by
  intro refused script start k tried done
  have hdefault : (connectDefault false false false start).outcome = .error (.session refused) :=
    rfl
  have hfirst : (create "a" "" "" "" false k).outcome = .error (.session refused) := rfl
  have hsecond : (create "a" "" "" "" false tried).outcome = .ok () := rfl
  obtain ⟨hkept, -, -⟩ := (connects_keep_books start).1 false false false refused hdefault
  obtain ⟨hkeptToo, hsame, -, -⟩ :=
    (connects_keep_books k).2.1 "a" "" "" "" false refused hfirst
  obtain ⟨-, hactive, -, hledger⟩ := (connects_keep_books tried).2.2 "a" "" "" "" false hsecond
  exact ⟨⟨hdefault, hkept⟩, ⟨hfirst, hkeptToo, hsame⟩, hsecond, hactive, hledger⟩

end SessionKeeper.Keeper
