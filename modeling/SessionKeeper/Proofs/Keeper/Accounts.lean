import Mathlib.Data.List.Induction
import SessionKeeper.Proofs.Keeper.Cleanup
import SessionKeeper.Proofs.Keeper.Operation
import SessionKeeper.Proofs.Keeper.Teardown
import SessionKeeper.Session.Scripted

/-!
# The ledger as an account of what happened

A run is a row of deeds: operations, each with the keeper that it meets. `handshakes` lists the
closing handshakes of an operation, those included whose error is dropped. `step_booked` says what
one deed adds to the ledger and to the registry, and the main statement,
`ledger_tells_what_happened`, takes the sum: every counter is the number of deeds or handshakes of
its kind, and no session is registered, closed or aborted that was not created.
-/

namespace SessionKeeper

/-- Whether the operation creates a session. -/
def Operation.creates : Operation → Bool
  | create .. => true
  | connectDefault .. | setActive .. | abortActive | closeActive .. | safeClose _ | destroy _
  | send _ | receive | closeTransport => false

/-- Whether the operation aborts a session. -/
def Operation.isAbort : Operation → Bool
  | abortActive => true
  | connectDefault .. | create .. | setActive .. | closeActive .. | safeClose _ | destroy _
  | send _ | receive | closeTransport => false

/-- Whether a session failed. -/
def KeeperError.isSession : KeeperError → Bool
  | .session _ => true
  | .violation _ | .misuse _ => false

/-- Whether a server did not answer a farewell as it should. -/
def KeeperError.isViolation : KeeperError → Bool
  | .violation _ => true
  | .session _ | .misuse _ => false

end SessionKeeper

namespace Except

variable {ε α : Type}

/-- Whether it is an error of a kind. -/
def isErrorOf (kind : ε → Bool) : Except ε α → Bool
  | .ok _ => false
  | .error e => kind e

end Except

namespace SessionKeeper

namespace Ledger

/-- A ledger to which numbers of sessions were added. -/
def book (l : Ledger) (opened closed aborted failed violations : Nat) : Ledger where
  opened := l.opened + UInt64.ofNat opened
  closed := l.closed + UInt64.ofNat closed
  aborted := l.aborted + UInt64.ofNat aborted
  failed := l.failed + UInt64.ofNat failed
  violations := l.violations + UInt64.ofNat violations

theorem book_zero (l : Ledger) : l.book 0 0 0 0 0 = l := by
  simp [book]

theorem book_opened (l : Ledger) : l.book 1 0 0 0 0 = l.countOpened := by
  simp [book, countOpened]

theorem book_aborted (l : Ledger) : l.book 0 0 1 0 0 = l.countAborted := by
  simp [book, countAborted]

theorem book_failed (l : Ledger) : l.book 0 0 0 1 0 = l.countFailed := by
  simp [book, countFailed]

theorem book_book (l : Ledger) (a b c d e p q r s t : Nat) :
    (l.book a b c d e).book p q r s t = l.book (a + p) (b + q) (c + r) (d + s) (e + t) := by
  simp [book, UInt64.ofNat_add, UInt64.add_assoc]

end Ledger

namespace Keeper

open Closing (ending)

variable {σ ω : Type} [Session σ ω] {k : Keeper σ ω} {name : String} {session : σ}

/-! ## Closing handshakes -/

/-- The handshake on the session under a name. -/
def farewell (name : String) (quiet : Bool) (k : Keeper σ ω) : List (Except KeeperError Unit) :=
  match k.sessions.get? name with
  | none => []
  | some session =>
      [(Closing.run (.new session k.console (!k.options.skipWait) quiet)).outcome]

/-- The handshake when the active session is closed. -/
def activeFarewell (shutdown quiet : Bool) (k : Keeper σ ω) : List (Except KeeperError Unit) :=
  match k.activeName with
  | none => []
  | some name =>
      if name.isEmpty && !shutdown then []
      else
        farewell name quiet
          (k.printUnless (name.isEmpty || quiet) ("closing session " ++ name ++ "\n"))

/-- The handshake when a session is closed at the end. -/
def safeFarewell (name : String) (k : Keeper σ ω) : List (Except KeeperError Unit) :=
  match setActive name true k with
  | .error _ _ => []
  | .ok () k => activeFarewell true true k

/-- The handshakes when sessions are closed at the end, in the given order. -/
def eachFarewell : List String → Keeper σ ω → List (Except KeeperError Unit)
  | [], _ => []
  | name :: order, k => safeFarewell name k ++ eachFarewell order (k.safeClose name)

/-- The handshake when the default session is closed at the end. -/
def defaultFarewell (k : Keeper σ ω) : List (Except KeeperError Unit) :=
  if k.sessions.contains defaultName then safeFarewell defaultName k else []

/-- How the closing handshakes of an operation end, one after the other. -/
def handshakes (k : Keeper σ ω) : Operation → List (Except KeeperError Unit)
  | .closeActive shutdown quiet => activeFarewell shutdown quiet k
  | .safeClose name => safeFarewell name k
  | .destroy arrangement =>
      let order := arrangement.arrange k.namedSessions
      eachFarewell order k ++ defaultFarewell (k.closeEach order)
  | .connectDefault .. | .create .. | .setActive .. | .abortActive | .send _ | .receive
  | .closeTransport => []

theorem active_farewell_eq {shutdown : Bool} (quiet : Bool) (hname : k.activeName = some name)
    (h : k.sessions.get? name = some session) (hclosable : name ≠ defaultName ∨ shutdown = true) :
    activeFarewell shutdown quiet k = [(ending session).outcome] := by
  have hguard : (name.isEmpty && !shutdown) = false := by
    rcases hclosable with hnamed | hdown
    · simp [show name.isEmpty = false by simpa [defaultName] using hnamed]
    · simp [hdown]
  simp only [activeFarewell, hname, hguard, print_unless_eq, farewell, h, Closing.run_outcome,
    Bool.false_eq_true, if_false]
  rfl

theorem safe_farewell_of_absent (h : k.sessions.get? name = none) : safeFarewell name k = [] := by
  simp [safeFarewell, set_active_of_absent h]

theorem safe_farewell_eq (h : k.sessions.get? name = some session) :
    safeFarewell name k = [(ending session).outcome] := by
  have hname : (k.switched name session true).activeName = some name :=
    active_name_eq_some_iff.mpr ⟨rfl, Table.contains_iff_exists.mpr ⟨session, h⟩⟩
  simp only [safeFarewell, set_active_of_get? h]
  exact active_farewell_eq true hname h (.inr rfl)

theorem default_farewell_eq (k : Keeper σ ω) : defaultFarewell k = safeFarewell defaultName k := by
  unfold defaultFarewell
  split
  · rfl
  · next habsent =>
      rw [safe_farewell_of_absent]
      simpa [Table.contains] using habsent

/-! ## Deeds -/

/-- An operation and the keeper that it meets. -/
structure Deed (σ ω : Type) where
  keeper : Keeper σ ω
  operation : Operation

/-- The deeds of a run. -/
def deeds (k : Keeper σ ω) : List Operation → List (Deed σ ω)
  | [] => []
  | operation :: operations => ⟨k, operation⟩ :: deeds (k.step operation) operations

namespace Deed

/-- What the operation returns. -/
def outcome (c : Deed σ ω) : Except KeeperError (Option ServerMessage) :=
  (perform c.operation c.keeper).outcome

/-- Whether a session was connected, a new one or the default session. -/
def opens (c : Deed σ ω) : Bool :=
  c.operation.connects && c.outcome.isOk

/-- Whether a session could not be connected. -/
def fails (c : Deed σ ω) : Bool :=
  c.operation.connects && c.outcome.isErrorOf KeeperError.isSession

/-- Whether a session was created. -/
def creates (c : Deed σ ω) : Bool :=
  c.operation.creates && c.outcome.isOk

omit [Session σ ω] in
/-- Whether a session was aborted. -/
def aborts (c : Deed σ ω) : Bool :=
  c.operation.isAbort && c.keeper.activeName.isSome

omit [Session σ ω] in
/-- Whether a session was aborted that is not replaced. -/
def abandons (c : Deed σ ω) : Bool :=
  c.operation.isAbort && c.keeper.activeName.any (· != defaultName)

/-- How its closing handshakes end. -/
def handshakes (c : Deed σ ω) : List (Except KeeperError Unit) :=
  c.keeper.handshakes c.operation

/-- The number of closing handshakes that the server did not take part in as it should. -/
def violations (c : Deed σ ω) : Nat :=
  c.handshakes.countP (Except.isErrorOf KeeperError.isViolation)

end Deed

/-- What a deed adds to the ledger, and what it takes from the registry and brings to it. -/
structure Booked (c : Deed σ ω) (next : Keeper σ ω) : Prop where
  ledger : next.ledger =
    c.keeper.ledger.book c.opens.toNat c.handshakes.length c.aborts.toNat c.fails.toNat c.violations
  size : next.sessions.size + c.handshakes.length + c.abandons.toNat =
    c.keeper.sessions.size + c.creates.toNat

/-! ## What one deed adds -/

/-- A connect is entered by what it returns. -/
theorem booked_of_connects {operation : Operation} (hconnects : operation.connects = true)
    (hledger : (k.step operation).ledger =
      k.ledger.book (perform operation k).outcome.isOk.toNat 0 0
        ((perform operation k).outcome.isErrorOf KeeperError.isSession).toNat 0)
    (hsize : (k.step operation).sessions.size =
      k.sessions.size + (operation.creates && (perform operation k).outcome.isOk).toNat) :
    Booked ⟨k, operation⟩ (k.step operation) := by
  have haborts : operation.isAbort = false := by
    cases operation with
    | abortActive => cases hconnects
    | _ => rfl
  have hhandshakes : k.handshakes operation = [] := by
    cases operation with
    | closeActive | safeClose | destroy => cases hconnects
    | _ => rfl
  constructor
  · simp [Deed.opens, Deed.fails, Deed.aborts, Deed.handshakes, Deed.violations, Deed.outcome,
      hconnects, haborts, hhandshakes, hledger]
  · simp [Deed.creates, Deed.abandons, Deed.handshakes, Deed.outcome, haborts, hhandshakes, hsize]

/-- Anything else is entered by its closing handshakes, and by what it aborts. -/
theorem booked_of_not_connects {operation : Operation} {next : Keeper σ ω}
    (hconnects : operation.connects = false)
    (hledger : next.ledger = k.ledger.book 0 (k.handshakes operation).length
      (Deed.aborts ⟨k, operation⟩).toNat 0
      ((k.handshakes operation).countP (Except.isErrorOf KeeperError.isViolation)))
    (hsize : next.sessions.size + (k.handshakes operation).length +
      (Deed.abandons ⟨k, operation⟩).toNat = k.sessions.size) :
    Booked ⟨k, operation⟩ next := by
  have hcreates : operation.creates = false := by
    cases operation with
    | create => cases hconnects
    | _ => rfl
  constructor
  · simp [Deed.opens, Deed.fails, Deed.handshakes, Deed.violations, hconnects, hledger]
  · simp [Deed.creates, Deed.handshakes, hcreates, hsize]

theorem connect_default_booked (expired noAuth plain : Bool) :
    Booked ⟨k, .connectDefault expired noAuth plain⟩
      (k.step (.connectDefault expired noAuth plain)) := by
  cases h : k.sessions.get? defaultName with
  | none =>
      refine booked_of_connects rfl ?_ ?_ <;>
        simp only [step, perform, silently, connect_default_of_absent h]
      · exact (Ledger.book_zero _).symm
      · rfl
  | some session =>
      rcases hconnect : Session.connect k.options (!noAuth)
          (prepareDefault k.options k.world expired plain session, k.world) with
        ⟨_, left, world⟩ | ⟨e, left, world⟩
      · refine booked_of_connects rfl ?_ ?_ <;>
          simp only [step, perform, silently, connect_default_of_ok h hconnect]
        · exact (Ledger.book_opened _).symm
        · exact Table.size_insert_of_present left h
      · refine booked_of_connects rfl ?_ ?_ <;>
          simp only [step, perform, silently, connect_default_of_error h hconnect]
        · exact (Ledger.book_failed _).symm
        · exact Table.size_insert_of_present _ h

theorem create_booked (name user password schema : String) (noTls : Bool) :
    Booked ⟨k, .create name user password schema noTls⟩
      (k.step (.create name user password schema noTls)) := by
  cases hname : k.sessions.contains name with
  | true =>
      refine booked_of_connects rfl ?_ ?_ <;>
        simp only [step, perform, silently, create_of_present hname]
      · exact (Ledger.book_zero _).symm
      · rfl
  | false =>
      rcases hconnect : Session.connect (namedOptions k.options user password schema noTls)
          (user != noAuthUser) (k.prepared user password schema noTls) with
        ⟨_, left, world⟩ | ⟨e, left, world⟩
      · refine booked_of_connects rfl ?_ ?_ <;>
          simp only [step, perform, silently, create_of_ok hname hconnect]
        · exact (Ledger.book_opened _).symm
        · exact Table.size_insert_of_absent left (Table.contains_eq_false_iff.mp hname)
      · refine booked_of_connects rfl ?_ ?_ <;>
          simp only [step, perform, silently, create_of_error hname hconnect]
        · exact (Ledger.book_failed _).symm
        · rfl

/-- A switch is not entered. -/
theorem set_active_keeps (name : String) (quiet : Bool) (k : Keeper σ ω) :
    (setActive name quiet k).state.ledger = k.ledger ∧
      (setActive name quiet k).state.sessions = k.sessions := by
  cases h : k.sessions.get? name with
  | none =>
      rw [set_active_of_absent h]
      exact ⟨rfl, rfl⟩
  | some session =>
      rw [set_active_of_get? h]
      exact ⟨rfl, rfl⟩

/-- A session that is aborted is gone, but for the default session, which is replaced. -/
theorem abort_active_counts (hname : k.activeName = some name) :
    (abortActive k).state.ledger = k.ledger.countAborted ∧
      (abortActive k).state.sessions.size + (name != defaultName).toNat = k.sessions.size := by
  obtain ⟨session, h⟩ := exists_of_active_name hname
  have herased := Table.size_erase_of_present h
  by_cases hnamed : name = defaultName
  · subst hnamed
    have hgone : (k.sessions.erase defaultName).get? defaultName = none := by
      rw [Table.get?_erase, if_pos rfl]
    rw [abort_active_of_default hname h]
    exact ⟨rfl, (Table.size_insert_of_absent _ hgone).trans herased⟩
  · obtain ⟨hledger, hsessions⟩ := set_active_keeps defaultName false (k.aborted name session)
    rw [abort_active_of_named hname hnamed h, hledger, hsessions, bne_iff_ne.mpr hnamed]
    exact ⟨rfl, herased⟩

theorem abort_active_booked : Booked ⟨k, .abortActive⟩ (k.step .abortActive) := by
  rw [step, perform, state_silently]
  cases hname : k.activeName with
  | none =>
      have hstate : (abortActive k).state = k := by simp [abortActive, hname]
      rw [hstate]
      refine booked_of_not_connects rfl ?_ ?_
      · rw [show Deed.aborts ⟨k, .abortActive⟩ = k.activeName.isSome from rfl, hname]
        exact (Ledger.book_zero _).symm
      · rw [show Deed.abandons ⟨k, .abortActive⟩ = k.activeName.any (· != defaultName) from rfl,
          hname]
        rfl
  | some name =>
      obtain ⟨hledger, hsize⟩ := abort_active_counts hname
      refine booked_of_not_connects rfl ?_ ?_
      · rw [hledger, show Deed.aborts ⟨k, .abortActive⟩ = k.activeName.isSome from rfl, hname]
        exact (Ledger.book_aborted _).symm
      · rw [show Deed.abandons ⟨k, .abortActive⟩ = k.activeName.any (· != defaultName) from rfl,
          hname]
        exact hsize

/-! ## What closing adds -/

/-- As many sessions were closed as handshakes were gone through. -/
structure Dismisses (k : Keeper σ ω) (handshakes : List (Except KeeperError Unit))
    (next : Keeper σ ω) : Prop where
  ledger : next.ledger =
    k.ledger.book 0 handshakes.length 0 0
      (handshakes.countP (Except.isErrorOf KeeperError.isViolation))
  size : next.sessions.size + handshakes.length = k.sessions.size

namespace Dismisses

variable {next last : Keeper σ ω} {first second : List (Except KeeperError Unit)}

omit [Session σ ω] in
theorem of_same (hledger : next.ledger = k.ledger)
    (hsize : next.sessions.size = k.sessions.size) : Dismisses k [] next :=
  ⟨hledger.trans (Ledger.book_zero _).symm, hsize⟩

omit [Session σ ω] in
theorem trans (h : Dismisses k first next) (hlater : Dismisses next second last) :
    Dismisses k (first ++ second) last := by
  constructor
  · rw [hlater.ledger, h.ledger, Ledger.book_book, List.length_append, List.countP_append]
  · have hsize := h.size
    have hlast := hlater.size
    rw [List.length_append]
    omega

/-- A session that was closed has gone through one handshake. -/
theorem of_dismissed (h : k.sessions.get? name = some session)
    (hledger : next.ledger = countParted k.ledger session)
    (hsessions : next.sessions = k.sessions.erase name) :
    Dismisses k [(ending session).outcome] next := by
  constructor
  · rw [hledger]
    cases hending : ending session <;>
      simp [countParted, Ledger.book, hending, Except.isErrorOf, KeeperError.isViolation]
  · rw [hsessions]
    exact Table.size_erase_of_present h

end Dismisses

theorem close_active_dismisses (shutdown quiet : Bool) (k : Keeper σ ω) :
    Dismisses k (activeFarewell shutdown quiet k) (closeActive shutdown quiet k).state := by
  cases hname : k.activeName with
  | none =>
      rw [close_active_of_none hname, activeFarewell, hname]
      exact .of_same rfl rfl
  | some name =>
      obtain ⟨session, h⟩ := exists_of_active_name hname
      by_cases hclosable : name ≠ defaultName ∨ shutdown = true
      · obtain ⟨console, -, -, hstate⟩ := close_active_eq quiet hname h hclosable
        obtain ⟨hsessions, -, -, hledger, -, -⟩ :=
          restore_frame shutdown quiet (k.dismissed name session console)
        rw [active_farewell_eq quiet hname h hclosable, hstate]
        exact .of_dismissed h hledger hsessions
      · obtain ⟨rfl, rfl⟩ : name = defaultName ∧ shutdown = false := by simpa using hclosable
        rw [close_active_of_default hname, activeFarewell, hname]
        exact .of_same rfl rfl

theorem safe_close_dismisses (name : String) (k : Keeper σ ω) :
    Dismisses k (safeFarewell name k) (k.safeClose name) := by
  cases h : k.sessions.get? name with
  | none =>
      rw [safe_close_of_absent h, safe_farewell_of_absent h]
      exact .of_same rfl rfl
  | some session =>
      rw [safe_close_eq h, safe_farewell_eq h]
      exact .of_dismissed h rfl rfl

theorem close_each_dismisses (order : List String) (k : Keeper σ ω) :
    Dismisses k (eachFarewell order k) (k.closeEach order) := by
  induction order generalizing k with
  | nil => exact .of_same rfl rfl
  | cons name order ih => exact (safe_close_dismisses name k).trans (ih (k.safeClose name))

theorem destroy_dismisses (arrangement : Arrangement) (k : Keeper σ ω) :
    Dismisses k (k.handshakes (.destroy arrangement)) (k.step (.destroy arrangement)) := by
  have horder := arrangement.perm k.namedSessions
  have heach := close_each_dismisses (arrangement.arrange k.namedSessions) k
  have hlast := safe_close_dismisses defaultName (k.closeEach (arrangement.arrange k.namedSessions))
  rw [← close_default_eq, ← default_farewell_eq] at hlast
  have hall := heach.trans hlast
  constructor
  · rw [step, perform, EStateM.Result.state_ok, destroy_in_eq horder]
    exact hall.ledger
  · -- Nothing is left to be let go without a handshake.
    have hempty : (k.step (.destroy arrangement)).sessions.size = 0 := by
      rw [step, perform, EStateM.Result.state_ok, destroy_in_eq horder]
      rfl
    have hsize := hall.size
    rw [Table.size, entries_before_drain horder] at hsize
    rw [hempty]
    exact hsize

/-- Closing is entered by its handshakes. -/
theorem Dismisses.booked {operation : Operation} {next : Keeper σ ω}
    (h : Dismisses k (k.handshakes operation) next) (hconnects : operation.connects = false)
    (haborts : operation.isAbort = false) : Booked ⟨k, operation⟩ next := by
  refine booked_of_not_connects hconnects ?_ ?_
  · simpa [Deed.aborts, haborts] using h.ledger
  · simpa [Deed.abandons, haborts] using h.size

omit [Session σ ω] in
/-- Whatever acts on the active session closes none. -/
theorem on_active_dismisses {α : Type} (act : EStateM SessionError σ α) (k : Keeper σ ω) :
    Dismisses k [] (onActive act k).state := by
  obtain ⟨-, hstate⟩ | ⟨name, session, -, h, hstate⟩ := on_active_state (k := k) act
  · rw [hstate]
    exact .of_same rfl rfl
  · rw [hstate]
    exact .of_same rfl (Table.size_insert_of_present _ h)

/-- What every operation adds to the ledger and to the registry. -/
theorem step_booked (k : Keeper σ ω) (operation : Operation) :
    Booked ⟨k, operation⟩ (k.step operation) := by
  cases operation with
  | connectDefault expired noAuth plain => exact connect_default_booked expired noAuth plain
  | create name user password schema noTls => exact create_booked name user password schema noTls
  | abortActive => exact abort_active_booked
  | setActive name quiet =>
      obtain ⟨hledger, hsessions⟩ := set_active_keeps name quiet k
      rw [step, perform, state_silently]
      exact (Dismisses.of_same hledger (congrArg Table.size hsessions)).booked rfl rfl
  | closeActive shutdown quiet =>
      rw [step, perform, state_silently]
      exact (close_active_dismisses shutdown quiet k).booked rfl rfl
  | safeClose name => exact (safe_close_dismisses name k).booked rfl rfl
  | destroy arrangement => exact (destroy_dismisses arrangement k).booked rfl rfl
  | send message =>
      rw [step, perform, state_silently]
      exact (on_active_dismisses (Channel.send message) k).booked rfl rfl
  | receive =>
      rw [step_receive]
      exact (on_active_dismisses Channel.receive k).booked rfl rfl
  | closeTransport =>
      rw [step, perform, state_silently]
      exact (on_active_dismisses _ k).booked rfl rfl

/-! ## What a run adds -/

theorem deeds_concat (k : Keeper σ ω) (operations : List Operation) (operation : Operation) :
    k.deeds (operations ++ [operation]) =
      k.deeds operations ++ [⟨k.run operations, operation⟩] := by
  induction operations generalizing k with
  | nil => rfl
  | cons first operations ih =>
      show _ :: (k.step first).deeds (operations ++ [operation]) = _
      rw [ih]
      rfl

omit [Session σ ω] in
theorem count_concat (kind : Deed σ ω → Bool) (deeds : List (Deed σ ω)) (c : Deed σ ω) :
    (deeds ++ [c]).countP kind = deeds.countP kind + (kind c).toNat := by
  rw [List.countP_append, List.countP_singleton]
  cases kind c <;> rfl

/-- The ledger after a run has every deed of the run. -/
theorem ledger_run (k : Keeper σ ω) (operations : List Operation) :
    (k.run operations).ledger =
      k.ledger.book ((k.deeds operations).countP Deed.opens)
        ((k.deeds operations).flatMap Deed.handshakes).length
        ((k.deeds operations).countP Deed.aborts) ((k.deeds operations).countP Deed.fails)
        (((k.deeds operations).flatMap Deed.handshakes).countP
          (Except.isErrorOf KeeperError.isViolation)) := by
  induction operations using List.reverseRecOn with
  | nil => exact (Ledger.book_zero _).symm
  | append_singleton operations last ih =>
      rw [run_concat, (step_booked (k.run operations) last).ledger, ih, Ledger.book_book,
        deeds_concat, count_concat, count_concat, count_concat, List.flatMap_append,
        List.flatMap_singleton, List.length_append, List.countP_append]
      rfl

/-- No session is lost along a run. -/
theorem size_run (k : Keeper σ ω) (operations : List Operation) :
    (k.run operations).sessions.size +
        ((k.deeds operations).flatMap Deed.handshakes).length +
        (k.deeds operations).countP Deed.abandons =
      k.sessions.size + (k.deeds operations).countP Deed.creates := by
  induction operations using List.reverseRecOn with
  | nil => rfl
  | append_singleton operations last ih =>
      have hstep := (step_booked (k.run operations) last).size
      rw [run_concat, deeds_concat, count_concat, count_concat, List.flatMap_append,
        List.flatMap_singleton, List.length_append]
      dsimp only at hstep
      omega

/-- After every run, whatever the sessions do, each counter of the ledger tells, modulo 2⁶⁴, how
often the thing that it counts has happened since the keeper was made: connects of a new session or
the default session that succeeded, connects that failed with an error of the session, sessions that
were aborted, and closing handshakes that ended in a violation, those included whose error was
dropped. A session that was created, the first default session included, is in the registry, or was
closed, or was aborted without being replaced. -/
theorem ledger_tells_what_happened (options : Options) (console : Console) (world : ω)
    (operations : List Operation) :
    let start : Keeper σ ω := new options console world
    let k := start.run operations
    let deeds := start.deeds operations
    k.ledger.opened = UInt64.ofNat (deeds.countP Deed.opens) ∧
      k.ledger.failed = UInt64.ofNat (deeds.countP Deed.fails) ∧
      k.ledger.aborted = UInt64.ofNat (deeds.countP Deed.aborts) ∧
      k.ledger.violations =
        UInt64.ofNat ((deeds.flatMap Deed.handshakes).countP
          (Except.isErrorOf KeeperError.isViolation)) ∧
      UInt64.ofNat k.sessions.size + k.ledger.closed +
          UInt64.ofNat (deeds.countP Deed.abandons) =
        1 + UInt64.ofNat (deeds.countP Deed.creates) := by
  intro start k deeds
  have hledger := ledger_run start operations
  have hsize := size_run start operations
  have hzero : start.ledger = .zero := rfl
  rw [show start.sessions.size = 1 from rfl] at hsize
  rw [show start.run operations = k from rfl] at hledger hsize
  simp only [hledger, hzero, Ledger.book, Ledger.zero, UInt64.zero_add, true_and, deeds]
  rw [← UInt64.ofNat_add, ← UInt64.ofNat_add, hsize, UInt64.ofNat_add]
  rfl

/-- Of three sessions that were to be created one is refused, one is aborted, and one is closed at
the end without the farewell of its server; the default session is aborted in between, and
replaced. -/
theorem ledger_of_refused_session :
    let refused : Script :=
      { Script.standard 2 with connects := [some ⟨Code.connectionError, "refused"⟩] }
    let rude : Script := { Script.standard 3 with replies := [.ok .capabilities] }
    let start : Keeper Scripted Scripts :=
      new {} (Console.new false) ⟨[(2, refused), (3, rude)], 0⟩
    let create (name : String) : Operation := .create name "" "" "" false
    let operations : List Operation :=
      [.connectDefault false false false, create "a", create "a", .setActive "" true, .abortActive,
        create "b", .abortActive, .destroy ⟨id, fun _ => .refl _⟩]
    let deeds := start.deeds operations
    (start.run operations).ledger = ⟨3, 2, 2, 1, 1⟩ ∧
      UInt64.ofNat (deeds.countP Deed.opens) = 3 ∧ UInt64.ofNat (deeds.countP Deed.fails) = 1 ∧
      UInt64.ofNat (deeds.countP Deed.aborts) = 2 ∧
      UInt64.ofNat ((deeds.flatMap Deed.handshakes).countP
        (Except.isErrorOf KeeperError.isViolation)) = 1 := by
  intro refused rude start create operations deeds
  have hledger : (start.run operations).ledger = ⟨3, 2, 2, 1, 1⟩ := by decide
  obtain ⟨hopened, hfailed, haborted, hviolations, -⟩ :=
    ledger_tells_what_happened (σ := Scripted) {} (Console.new false)
      ⟨[(2, refused), (3, rude)], 0⟩ operations
  rw [show (new {} (Console.new false) ⟨[(2, refused), (3, rude)], 0⟩ : Keeper Scripted Scripts) =
    start from rfl, hledger] at hopened hfailed haborted hviolations
  exact ⟨hledger, hopened.symm, hfailed.symm, haborted.symm, hviolations.symm⟩

end Keeper

end SessionKeeper
