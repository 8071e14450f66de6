import SessionKeeper.Closing
import SessionKeeper.Proofs.Outcome

/-!
# How a farewell ends

`ending` says what comes of a farewell on a channel, by what sending it and receiving the reply
yield, and `departed` what channel is left. The main statement is `run_eq`: the run that closes a
session agrees with both, whatever it prints.
-/

namespace SessionKeeper

/-- Exactly two messages answer a farewell. -/
theorem ServerMessage.is_farewell_iff {m : ServerMessage} :
    m.isFarewell = true ↔ m = .ok "bye!" ∨ m = .ok "tchau!" := by
  cases m <;> simp [isFarewell, farewells]

namespace Closing

/-- How a farewell ends. -/
inductive Ending where
  /-- The transport was closed already, and nothing was said. -/
  | skipped
  | unsent (cause : SessionError)
  | unanswered (cause : SessionError)
  /-- The reply was no farewell. -/
  | refused (reply : ServerMessage)
  | answered
  deriving DecidableEq, Repr

namespace Ending

/-- What the caller is told. -/
@[simp]
def outcome : Ending → Except KeeperError Unit
  | skipped | answered => .ok ()
  | unsent cause | unanswered cause => .error (.session cause)
  | refused reply => .error (.violation reply.summary)

/-- Whether the session was closed as it should be. -/
@[simp]
def isClean : Ending → Bool
  | skipped | answered => true
  | unsent _ | unanswered _ | refused _ => false

/-- The number of replies that were no farewell. -/
@[simp]
def violations : Ending → UInt64
  | refused _ => 1
  | skipped | unsent _ | unanswered _ | answered => 0

/-- The number of times that a message is waited for. -/
@[simp]
def receives (wait : Bool) : Ending → Nat
  | skipped | unsent _ => 0
  | unanswered _ | refused _ => 1
  | answered => if wait then 2 else 1

/-- The endings without an error are the clean ones. -/
theorem outcome_eq_ok_iff {ending : Ending} : ending.outcome = .ok () ↔ ending.isClean = true := by
  cases ending <;> simp

end Ending

variable {π : Type} [Channel π]

/-- How a farewell on a channel ends. -/
def ending (p : π) : Ending :=
  if Channel.isOpen p then
    match Channel.send .close p with
    | .error cause _ => .unsent cause
    | .ok () q =>
        match Channel.receive q with
        | .error cause _ => .unanswered cause
        | .ok reply _ => if reply.isFarewell then .answered else .refused reply
  else .skipped

/-- The channel that closing leaves behind: closed after the last message was waited for, whatever
that brought. -/
def departed (wait : Bool) (p : π) : π :=
  if Channel.isOpen p then
    match Channel.send .close p with
    | .error _ q => Channel.close q
    | .ok () q =>
        match Channel.receive q with
        | .error _ r => Channel.close r
        | .ok reply r =>
            Channel.close (if reply.isFarewell && wait then (Channel.receive r).state else r)
  else p

@[simp]
theorem is_open_departed (wait : Bool) (p : π) : Channel.isOpen (departed wait p) = false := by
  unfold departed
  split
  · split
    · exact Channel.isOpen_close _
    · split <;> exact Channel.isOpen_close _
  · next h => simpa using h

/-- A farewell goes well on a closed channel, and on one over which it is sent and answered. -/
theorem ending_is_clean_iff {p : π} :
    (ending p).isClean = true ↔
      Channel.isOpen p = false ∨
        ∃ q reply r, Channel.send .close p = .ok () q ∧ Channel.receive q = .ok reply r ∧
          (reply = .ok "bye!" ∨ reply = .ok "tchau!") := by
  simp only [← ServerMessage.is_farewell_iff]
  cases hopen : Channel.isOpen p with
  | false => simp [ending, hopen]
  | true =>
      cases hsend : Channel.send .close p with
      | error e q => simp [ending, hopen, hsend]
      | ok _ q =>
          cases hreply : Channel.receive q with
          | error e r => simp [ending, hopen, hsend, hreply]
          | ok reply r =>
              cases hbye : reply.isFarewell <;>
                simp [ending, hopen, hsend, hreply, hbye]

/-! ## The run that closes a session -/

variable (c : Closing π)

/-- Waiting for the server to disconnect takes one message at most; a quiet wait prints nothing. -/
theorem await_disconnect_eq :
    ∃ console, (c.quiet = true → console = c.console) ∧
      c.awaitDisconnect = { c with channel := (Channel.receive c.channel).state, console } := by
  cases hextra : Channel.receive c.channel with
  | error e r => exact ⟨c.console, fun _ => rfl, by simp [awaitDisconnect, hextra]⟩
  | ok extra r =>
      cases hquiet : c.quiet with
      | true => exact ⟨c.console, fun _ => rfl, by simp [awaitDisconnect, hextra, hquiet]⟩
      | false => exact ⟨_, nofun, by simp [awaitDisconnect, hextra, hquiet]; rfl⟩

/-- A closed transport is left alone. -/
theorem run_of_not_open (hopen : Channel.isOpen c.channel = false) :
    run c = .ok () { c with phase := .closed true } := by
  simp [run, hopen]

/-- A run ends as its farewell does, and says on the console at most what it received. -/
theorem run_eq :
    ∃ console, (c.quiet = true → console = c.console) ∧
      (run c).outcome = (ending c.channel).outcome ∧
      (run c).state =
        { c with
          channel := departed c.wait c.channel
          console
          phase := .closed (ending c.channel).isClean
          violations := c.violations + (ending c.channel).violations } := by
  -- One case for each way an exchange can end. Only the last two print, and only the very last
  -- waits for a second message.
  cases hopen : Channel.isOpen c.channel with
  | false =>
      refine ⟨c.console, fun _ => rfl, ?_⟩
      simp [run_of_not_open c hopen, ending, departed, hopen]
  | true =>
      cases hsend : Channel.send .close c.channel with
      | error e q =>
          refine ⟨c.console, fun _ => rfl, ?_⟩
          simp [run, exchange, finish, ending, departed, hopen, hsend]
      | ok _ q =>
          cases hreply : Channel.receive q with
          | error e r =>
              refine ⟨c.console, fun _ => rfl, ?_⟩
              simp [run, exchange, receiveReply, finish, ending, departed, hopen, hsend, hreply]
          | ok reply r =>
              let shown := if c.quiet then c.console else c.console.print reply.display
              have hquiet : c.quiet = true → shown = c.console := fun h => if_pos h
              cases hbye : reply.isFarewell with
              | false =>
                  refine ⟨shown, hquiet, ?_⟩
                  simp [run, exchange, receiveReply, finish, ending, departed, hopen, hsend,
                    hreply, hbye, shown]
              | true =>
                  cases hwait : c.wait with
                  | false =>
                      refine ⟨shown, hquiet, ?_⟩
                      simp [run, exchange, receiveReply, finish, ending, departed, hopen, hsend,
                        hreply, hbye, hwait, shown]
                  | true =>
                      obtain ⟨console, hsame, hawait⟩ := await_disconnect_eq
                        { c with channel := r, console := shown, phase := .closing }
                      refine ⟨console, fun h => (hsame h).trans (hquiet h), ?_⟩
                      simp only [shown, hwait] at hawait
                      simp [run, exchange, receiveReply, finish, ending, departed, hopen, hsend,
                        hreply, hbye, hwait, hawait]

/-- The result of a run is that of the farewell. -/
theorem run_outcome : (run c).outcome = (ending c.channel).outcome := by
  obtain ⟨_, _, h, _⟩ := run_eq c
  exact h

/-- The channel that a run leaves depends on the channel and on `wait` alone. -/
theorem run_channel : (run c).state.channel = departed c.wait c.channel := by
  obtain ⟨_, _, _, h⟩ := run_eq c
  rw [h]

/-- A run counts the reply that was no farewell. -/
theorem run_violations :
    (run c).state.violations = c.violations + (ending c.channel).violations := by
  obtain ⟨_, _, _, h⟩ := run_eq c
  rw [h]

/-- A run ends in the closed phase. -/
theorem run_phase : (run c).state.phase = .closed (ending c.channel).isClean := by
  obtain ⟨_, _, _, h⟩ := run_eq c
  rw [h]

end Closing

end SessionKeeper
