import SessionKeeper.Proofs.Keeper.Steps
import SessionKeeper.Session.Scripted

/-!
# Closing the active session cleans up

The main statement, `close_active_cleans_up`, says what is left when the active session was closed,
however its farewell went: the session is gone and its transport closed, nothing else has changed,
and the caller gets the result of the farewell itself.
-/

namespace SessionKeeper.Keeper

open Closing (ending departed)

variable {σ ω : Type} [Session σ ω] {k : Keeper σ ω} {name : String} {shutdown quiet : Bool}

/-- Going back to the default session touches the active name, its client id and the console. -/
theorem restore_frame (shutdown quiet : Bool) (left : Keeper σ ω) :
    let after := (restore shutdown quiet left).state
    after.sessions = left.sessions ∧ after.options = left.options ∧ after.world = left.world ∧
      after.ledger = left.ledger ∧ after.retired = left.retired ∧
      ∀ key, key ≠ Variables.activeClientId →
        after.published.get? key = left.published.get? key := by
  cases shutdown with
  | true => exact ⟨rfl, rfl, rfl, rfl, rfl, fun _ _ => rfl⟩
  | false =>
      simp only [restore, Bool.false_eq_true, if_false]
      cases h : left.sessions.get? defaultName with
      | none =>
          rw [set_active_of_absent h]
          exact ⟨rfl, rfl, rfl, rfl, rfl, fun _ _ => rfl⟩
      | some main =>
          rw [set_active_of_get? h]
          refine ⟨rfl, rfl, rfl, rfl, rfl, fun key hkey => ?_⟩
          simp only [EStateM.Result.state_ok, switched, Table.get?_insert, if_neg hkey]

/-- Going back succeeds if the default session is there, and makes it the active one. -/
theorem restore_active (quiet : Bool) {left : Keeper σ ω} (hactive : left.active = none)
    (h : shutdown = true ∨ left.sessions.contains defaultName = true) :
    let done := restore shutdown quiet left
    done.outcome = .ok () ∧
      if shutdown then done.state.active = none
      else done.state.active = some defaultName ∧
        ∃ main, done.state.sessions.get? defaultName = some main ∧
          done.state.published.get? Variables.activeClientId =
            some (toString (Session.clientId main).toNat) := by
  cases shutdown with
  | true => exact ⟨rfl, hactive⟩
  | false =>
      obtain ⟨main, hmain⟩ := Table.contains_iff_exists.mp (h.resolve_left nofun)
      simp only [restore, Bool.false_eq_true, if_false, set_active_of_get? hmain]
      refine ⟨rfl, rfl, main, hmain, ?_⟩
      simp only [EStateM.Result.state_ok, switched, Table.get?_insert, if_pos]

/-- However the farewell goes, the closed session is gone with its transport closed, no other
session, option or option variable is touched, one more session counts as closed, and the default
session is active unless everything is shut down. The result is that of the farewell. -/
theorem close_active_cleans_up (shutdown quiet : Bool) (hname : k.activeName = some name)
    (hdefault : k.sessions.contains defaultName = true)
    (hclosable : name ≠ defaultName ∨ shutdown = true) :
    let done := closeActive shutdown quiet k
    let after := done.state
    ∃ session, k.sessions.get? name = some session ∧
      after.sessions.contains name = false ∧
      (∃ left, after.retired = left :: k.retired ∧ Channel.isOpen left = false ∧
        left = Channel.close (departed (!k.options.skipWait) session)) ∧
      (∀ other, other ≠ name → after.sessions.get? other = k.sessions.get? other) ∧
      after.options = k.options ∧ after.world = k.world ∧
      (∀ key, key ≠ Variables.activeClientId →
        after.published.get? key = k.published.get? key) ∧
      after.ledger.closed = k.ledger.closed + 1 ∧
      (if shutdown then after.active = none
        else after.active = some defaultName ∧
          ∃ main, after.sessions.get? defaultName = some main ∧
            after.published.get? Variables.activeClientId =
              some (toString (Session.clientId main).toNat)) ∧
      done.outcome =
        (Closing.run (.new session k.console (!k.options.skipWait) quiet)).outcome ∧
      done.outcome = (ending session).outcome ∧
      (done.outcome = .ok () ↔
        Channel.isOpen session = false ∨
          ∃ q reply r, Channel.send .close session = .ok () q ∧
            Channel.receive q = .ok reply r ∧ (reply = .ok "bye!" ∨ reply = .ok "tchau!")) := by
  intro done after
  obtain ⟨session, h⟩ := exists_of_active_name hname
  obtain ⟨console, -, houtcome, hstate⟩ := close_active_eq quiet hname h hclosable
  have hthere : shutdown = true ∨
      (k.dismissed name session console).sessions.contains defaultName = true := by
    rcases hclosable with hnamed | hdown
    · right
      simp only [dismissed, Table.contains_erase, hdefault]
      simp [Ne.symm hnamed]
    · exact .inl hdown
  obtain ⟨hsessions, hoptions, hworld, hledger, hretired, hpublished⟩ :=
    restore_frame shutdown quiet (k.dismissed name session console)
  obtain ⟨hrestored, hactive⟩ := restore_active quiet rfl hthere
  rw [← hstate] at hsessions hoptions hworld hledger hretired hpublished hactive
  have hresult : done.outcome = (ending session).outcome := by
    rw [houtcome, hrestored]
    cases (ending session).outcome <;> rfl
  refine ⟨session, h, ?_, ⟨_, hretired, Channel.isOpen_close _, rfl⟩, ?_, hoptions, hworld,
    hpublished, ?_, hactive, ?_, hresult, ?_⟩
  · rw [hsessions]
    simp [dismissed, Table.contains_erase]
  · intro other hother
    rw [hsessions]
    simp only [dismissed, Table.get?_erase, if_neg hother]
  · rw [hledger]
    rfl
  · rw [hresult, Closing.run_outcome]
    rfl
  · rw [hresult, Closing.Ending.outcome_eq_ok_iff, Closing.ending_is_clean_iff]

/-- A session that was created and whose server refuses the farewell is gone all the same. -/
theorem close_active_cleans_up_refused :
    let script : Script := { Script.standard 2 with replies := [.ok .capabilities] }
    let k : Keeper Scripted Scripts :=
      (create "a" "" "" "" false (new {} (Console.new false) ⟨[(2, script)], 0⟩)).state
    let done := closeActive false true k
    k.activeName = some "a" ∧ k.sessions.contains defaultName = true ∧
      done.state.sessions.contains "a" = false ∧
      done.state.ledger.closed = k.ledger.closed + 1 ∧ done.outcome ≠ .ok () := by
  intro script k done
  have hname : k.activeName = some "a" := by decide
  have hdefault : k.sessions.contains defaultName = true := by decide
  obtain ⟨session, hsession, hgone, -, -, -, -, -, hclosed, -, -, houtcome, -⟩ :=
    close_active_cleans_up false true hname hdefault (.inl (by decide))
  refine ⟨hname, hdefault, hgone, hclosed, ?_⟩
  obtain rfl := Option.some.inj (hsession.symm.trans
    (show k.sessions.get? "a" =
      some ⟨2, script, [], [.ok .capabilities], true, some []⟩ from rfl))
  rw [houtcome]
  exact nofun

end SessionKeeper.Keeper
