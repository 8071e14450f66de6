import SessionKeeper.Proofs.Keeper.Operation
import SessionKeeper.Proofs.Keeper.Steps
import SessionKeeper.Session.Scripted

/-!
# The published client id

A switch publishes the client id of the session that becomes active, and a connect the one of the
session that was connected. `published_id_after` says what that comes to: after an operation that
succeeds the published id is the one of the active session, but for two cases. A default connect
publishes the id of the default session though another one is active, and aborting the default
session publishes nothing.
-/

namespace SessionKeeper

/-- Whether the operation is one of those with which a caller keeps sessions: it neither passes a
single message or close on to the active session, nor belongs to the end of a keeper. -/
def Operation.keepsSessions : Operation → Bool
  | connectDefault .. | create .. | setActive .. | abortActive | closeActive .. => true
  | safeClose _ | destroy _ | send _ | receive | closeTransport => false

namespace Keeper

variable {σ ω : Type} {k : Keeper σ ω} {name : String} {session : σ}

/-- The client id that is published. -/
def publishedId (k : Keeper σ ω) : Option String :=
  k.published.get? Variables.activeClientId

variable [Session σ ω]

/-- The client id of a session in decimal digits. -/
def shownId (session : σ) : String :=
  toString (Session.clientId session).toNat

/-- There is a session under the name, and its client id is published. -/
def Announces (k : Keeper σ ω) (name : String) : Prop :=
  ∃ session, k.sessions.get? name = some session ∧ k.publishedId = some (shownId session)

theorem Announces.published_id_eq (h : k.Announces name)
    (hsession : k.sessions.get? name = some session) :
    k.publishedId = some (shownId session) := by
  obtain ⟨found, hfound, hid⟩ := h
  rwa [Option.some.inj (hsession.symm.trans hfound)]

/-- If the session that was made active is announced, then the active session is. -/
theorem Announces.of_active {other : String} (h : k.Announces other)
    (hactive : k.active = some other) (hname : k.activeName = some name)
    (hsession : k.sessions.get? name = some session) :
    k.publishedId = some (shownId session) := by
  obtain rfl : other = name :=
    Option.some.inj (hactive.symm.trans (active_name_eq_some_iff.mp hname).1)
  exact h.published_id_eq hsession

/-! ## What is published by the operations -/

variable {quiet shutdown expired noAuth plain noTls : Bool} {user password schema : String}

/-- A switch that succeeds publishes the id of the session that it makes active. -/
theorem set_active_announces (hok : (setActive name quiet k).outcome = .ok ()) :
    (setActive name quiet k).state.active = some name ∧
      (setActive name quiet k).state.Announces name := by
  cases h : k.sessions.get? name with
  | none =>
      rw [set_active_of_absent h] at hok
      cases hok
  | some session =>
      rw [set_active_of_get? h]
      exact ⟨rfl, session, h, Table.get?_insert_self _ _ _⟩

/-- So does creating a session. -/
theorem create_announces (hok : (create name user password schema noTls k).outcome = .ok ()) :
    (create name user password schema noTls k).state.active = some name ∧
      (create name user password schema noTls k).state.Announces name := by
  cases h : k.sessions.contains name with
  | true =>
      rw [create_of_present h] at hok
      cases hok
  | false =>
      obtain ⟨left, world, hconnect, -⟩ := exists_of_create_ok hok
      rw [create_of_ok h hconnect]
      exact ⟨rfl, left, Table.get?_insert_self _ _ _, Table.get?_insert_self _ _ _⟩

/-- A default connect publishes the id of the default session, whichever session is active. -/
theorem connect_default_announces (hok : (connectDefault expired noAuth plain k).outcome = .ok ()) :
    (connectDefault expired noAuth plain k).state.active = k.active ∧
      (connectDefault expired noAuth plain k).state.Announces defaultName := by
  obtain ⟨session, left, world, h, hconnect, -⟩ := exists_of_connect_default_ok hok
  rw [connect_default_of_ok h hconnect]
  exact ⟨rfl, left, Table.get?_insert_self _ _ _, Table.get?_insert_self _ _ _⟩

/-- Closing the active session publishes the id of the default session, which becomes active, unless
everything is shut down. -/
theorem close_active_announces (hok : (closeActive shutdown quiet k).outcome = .ok ()) :
    (closeActive shutdown quiet k).state.activeName = none ∨
      (closeActive shutdown quiet k).state.active = some defaultName ∧
        (closeActive shutdown quiet k).state.Announces defaultName := by
  cases hname : k.activeName with
  | none =>
      rw [close_active_of_none hname]
      exact .inl hname
  | some name =>
      obtain ⟨session, h⟩ := exists_of_active_name hname
      by_cases hclosable : name ≠ defaultName ∨ shutdown = true
      · obtain ⟨console, -, houtcome, hstate⟩ := close_active_eq quiet hname h hclosable
        rw [hstate]
        cases shutdown with
        | true => exact .inl rfl
        | false =>
            -- The farewell went well, so what is returned is the result of going back.
            rw [hok] at houtcome
            obtain ⟨-, -, hback⟩ := Except.bind_eq_ok_iff.mp houtcome.symm
            exact .inr (set_active_announces hback)
      · obtain ⟨rfl, rfl⟩ : name = defaultName ∧ shutdown = false := by simpa using hclosable
        rw [close_active_of_default hname] at hok
        cases hok

/-- Aborting a named session publishes the id of the default session, which becomes active; aborting
the default session publishes nothing about the new one. -/
theorem abort_active_announces (hok : (abortActive k).outcome = .ok ()) :
    k.activeName = some defaultName ∧ (abortActive k).state.active = some defaultName ∧
        (abortActive k).state.sessions.get? defaultName =
          some (Session.create k.world : σ × ω).1 ∧
        (abortActive k).state.publishedId = k.publishedId ∨
      (abortActive k).state.active = some defaultName ∧
        (abortActive k).state.Announces defaultName := by
  cases hname : k.activeName with
  | none =>
      simp only [abortActive, hname] at hok
      cases hok
  | some name =>
      obtain ⟨session, h⟩ := exists_of_active_name hname
      by_cases hnamed : name = defaultName
      · subst hnamed
        rw [abort_active_of_default hname h]
        exact .inl ⟨rfl, (active_name_eq_some_iff.mp hname).1, Table.get?_insert_self _ _ _, rfl⟩
      · rw [abort_active_of_named hname hnamed h] at hok ⊢
        exact .inr (set_active_announces hok)

/-- Whatever happened before, after an operation that succeeds and leaves a session active the
published client id is the one of that session, with two exceptions: a default connect while another
session is active publishes the id of the default session, and where the default session is
aborted, the published id stays what it was though a new session is active. -/
theorem published_id_after {operation : Operation} (hkeeps : operation.keepsSessions = true)
    (hok : (perform operation k).outcome = .ok none)
    (hname : (k.step operation).activeName = some name)
    (hsession : (k.step operation).sessions.get? name = some session) :
    (k.step operation).publishedId = some (shownId session) ∨
      (∃ expired noAuth plain, operation = .connectDefault expired noAuth plain) ∧
          name ≠ defaultName ∧ (k.step operation).Announces defaultName ∨
      operation = .abortActive ∧ k.activeName = some defaultName ∧ name = defaultName ∧
          session = (Session.create k.world : σ × ω).1 ∧
          (k.step operation).publishedId = k.publishedId := by
  cases operation with
  | connectDefault expired noAuth plain =>
      rw [perform, silently_eq_ok_iff] at hok
      rw [step, perform, state_silently] at hname hsession ⊢
      obtain ⟨-, hannounces⟩ := connect_default_announces hok
      by_cases hnamed : name = defaultName
      · subst hnamed
        exact .inl (hannounces.published_id_eq hsession)
      · exact .inr (.inl ⟨⟨expired, noAuth, plain, rfl⟩, hnamed, hannounces⟩)
  | create other user password schema noTls =>
      rw [perform, silently_eq_ok_iff] at hok
      rw [step, perform, state_silently] at hname hsession ⊢
      obtain ⟨hactive, hannounces⟩ := create_announces hok
      exact .inl (hannounces.of_active hactive hname hsession)
  | setActive other quiet =>
      rw [perform, silently_eq_ok_iff] at hok
      rw [step, perform, state_silently] at hname hsession ⊢
      obtain ⟨hactive, hannounces⟩ := set_active_announces hok
      exact .inl (hannounces.of_active hactive hname hsession)
  | abortActive =>
      rw [perform, silently_eq_ok_iff] at hok
      rw [step, perform, state_silently] at hname hsession ⊢
      obtain ⟨hdefault, hactive, hnew, hsame⟩ | ⟨hactive, hannounces⟩ := abort_active_announces hok
      · obtain rfl : defaultName = name :=
          Option.some.inj (hactive.symm.trans (active_name_eq_some_iff.mp hname).1)
        exact .inr (.inr ⟨rfl, hdefault, rfl, Option.some.inj (hsession.symm.trans hnew), hsame⟩)
      · exact .inl (hannounces.of_active hactive hname hsession)
  | closeActive shutdown quiet =>
      rw [perform, silently_eq_ok_iff] at hok
      rw [step, perform, state_silently] at hname hsession ⊢
      obtain hnone | ⟨hactive, hannounces⟩ := close_active_announces hok
      · cases hnone.symm.trans hname
      · exact .inl (hannounces.of_active hactive hname hsession)
  | safeClose | destroy | send | receive | closeTransport => cases hkeeps

/-- After a session was created and closed again, the id of the default session is published. -/
theorem published_id_after_close :
    let start : Keeper Scripted Scripts := new {} (Console.new false) ⟨[], 0⟩
    let k := start.run [.create "a" "" "" "" false]
    let closed : Operation := .closeActive false true
    (perform closed k).outcome = .ok none ∧ (k.step closed).activeName = some defaultName ∧
      ∃ session, (k.step closed).sessions.get? defaultName = some session ∧
        (k.step closed).publishedId = some (shownId session) := by
  intro start k closed
  have hok : (perform closed k).outcome = .ok none := rfl
  have hname : (k.step closed).activeName = some defaultName := by decide
  obtain ⟨session, hsession⟩ := exists_of_active_name hname
  obtain hid | ⟨-, hnamed, -⟩ | ⟨hoperation, -⟩ := published_id_after rfl hok hname hsession
  · exact ⟨hok, hname, session, hsession, hid⟩
  · exact absurd rfl hnamed
  · exact nomatch (show Operation.closeActive false true = .abortActive from hoperation)

/-- The published id may be the one of another session: a default connect replaces the id of the
named session that is active, and after the default session was aborted the id of the session that
is gone is still published. -/
theorem published_id_of_another :
    let start : Keeper Scripted Scripts := new {} (Console.new false) ⟨[], 0⟩
    let named := start.run [.create "a" "" "" "" false, .connectDefault false false false]
    let aborted := start.run [.connectDefault false false false, .abortActive]
    (named.activeName = some "a" ∧ (named.sessions.get? "a").map shownId = some "2" ∧
        named.publishedId = some "1") ∧
      aborted.activeName = some defaultName ∧
        (aborted.sessions.get? defaultName).map shownId = some "2" ∧
        aborted.publishedId = some "1" := by
  decide

end Keeper

end SessionKeeper
