import SessionKeeper.Proofs.Closing.Exchange

/-!
# Closing a session more than once

Every run leaves the transport closed, so a later run finds nothing to do: it makes no call, and all
that it sets is the phase. But it sets the phase to a clean one, whatever the first run came to. The
main statement, `phases_along_repeated_runs`, says what the phases are along any number of runs, and
that all runs together make the calls of the first; `closed_phase_not_final` shows a failed exchange
that the second run calls clean.
-/

namespace SessionKeeper

/-- How far a phase is along the way from connected over closing to closed. -/
def ClosePhase.stage : ClosePhase → Nat
  | connected => 0
  | closing => 1
  | closed _ => 2

/-- No phase is further than the closed one. -/
theorem ClosePhase.stage_le (phase : ClosePhase) : phase.stage ≤ 2 := by
  cases phase <;> simp [stage]

namespace Closing

variable {π : Type} [Channel π]

/-- What is left after a number of runs, whatever they return. -/
def afterRuns : Nat → Closing π → Closing π
  | 0, c => c
  | n + 1, c => (run (afterRuns n c)).state

variable (c : Closing π)

/-! ## The phase during a run -/

/-- The phase does not change while messages are exchanged. -/
theorem phase_exchange : (exchange c).state.phase = c.phase := by
  cases hsend : Channel.send .close c.channel with
  | error e q => simp [exchange, hsend]
  | ok _ q =>
      cases hreply : Channel.receive q with
      | error e r => simp [exchange, receiveReply, hsend, hreply]
      | ok reply r =>
          cases hbye : reply.isFarewell with
          | false => simp [exchange, receiveReply, hsend, hreply, hbye]
          | true =>
              cases hwait : c.wait with
              | false => simp [exchange, receiveReply, hsend, hreply, hbye, hwait]
              | true =>
                  obtain ⟨console, -, hawait⟩ := await_disconnect_eq
                    { c with
                      channel := r
                      console := if c.quiet then c.console else c.console.print reply.display }
                  simp only [hwait] at hawait
                  simp [exchange, receiveReply, hsend, hreply, hbye, hwait, hawait]

/-- Over an open transport a run is closing until it is closed. -/
theorem run_of_open (hopen : Channel.isOpen c.channel = true) :
    let exchanged := exchange { c with phase := .closing }
    exchanged.state.phase = .closing ∧
      (run c).outcome = exchanged.outcome ∧
      (run c).state = exchanged.state.finish exchanged.outcome.isOk := by
  intro exchanged
  refine ⟨phase_exchange _, ?_⟩
  simp only [run, hopen, if_true, exchanged]
  cases exchange { c with phase := .closing } with
  | ok _ d => exact ⟨rfl, rfl⟩
  | error e d => exact ⟨rfl, rfl⟩

/-! ## Later runs -/

/-- The transport is closed after every run. -/
theorem is_open_run : Channel.isOpen (run c).state.channel = false := by
  rw [run_channel]
  exact is_open_departed c.wait c.channel

/-- After the first run all others do nothing but set the phase to a clean one. -/
theorem run_after_runs (n : Nat) :
    run (c.afterRuns (n + 1)) = .ok () { c.afterRuns 1 with phase := .closed true } := by
  induction n with
  | zero => exact run_of_not_open _ (is_open_run c)
  | succ n ih =>
      have hstate : c.afterRuns (n + 2) = { c.afterRuns 1 with phase := .closed true } := by
        rw [afterRuns, ih, EStateM.Result.state_ok]
      rw [hstate]
      exact run_of_not_open _ (is_open_run c)

/-- What is left after two runs is what is left after any more. -/
theorem after_runs_add_two (n : Nat) :
    c.afterRuns (n + 2) = { c.afterRuns 1 with phase := .closed true } := by
  rw [afterRuns, run_after_runs, EStateM.Result.state_ok]

theorem phase_after_runs (n : Nat) :
    (c.afterRuns (n + 1)).phase = .closed (n != 0 || (ending c.channel).isClean) := by
  cases n with
  | zero => exact run_phase c
  | succ n => simp [after_runs_add_two]

/-! ## All runs together -/

/-- At most two messages are received, and the second one only to wait for the disconnect. -/
theorem Ending.receives_le (wait : Bool) (ending : Ending) : ending.receives wait ≤ 2 := by
  cases ending <;> cases wait <;> simp

/-- All runs together leave the channel as the first one does. -/
theorem channel_after_runs (n : Nat) :
    (c.afterRuns (n + 1)).channel = departed c.wait c.channel := by
  cases n with
  | zero => exact run_channel c
  | succ n =>
      rw [after_runs_add_two]
      exact run_channel c

/-- The calls that any number of runs make. -/
theorem calls_after_runs (c : Closing (Recorded π)) (n : Nat) :
    ∃ made, (c.afterRuns n).channel.calls = c.channel.calls ++ made ∧
      made.count (.send .close) ≤ 1 ∧ (∀ message, .send message ∈ made → message = .close) ∧
      made.count .receive ≤ 2 := by
  cases n with
  | zero => exact ⟨[], (List.append_nil _).symm, by simp⟩
  | succ n =>
      rw [channel_after_runs]
      cases hopen : Channel.isOpen c.channel.session with
      | false => exact ⟨[], by simp [departed, hopen], by simp⟩
      | true =>
          obtain ⟨-, -, hcalls⟩ := departed_recorded c.wait c.channel
          obtain ⟨wasOpen, hcalls⟩ := hcalls hopen
          refine ⟨_, hcalls, ?_, ?_, ?_⟩
          · simp [Ending.calls, List.count_replicate]
          · simp [Ending.calls]
          · simpa [Ending.calls] using (ending c.channel.session).receives_le c.wait

/-- Whatever the channel does and however often the session is closed, the phase goes from connected
over closing to closed and never back. The first run that finds an open transport is closing until
it is closed, and the phase then tells whether its exchange went well. Every run after the first
succeeds without a call to the channel and leaves all as it is, but for the phase: a clean phase is
final, and a phase that is not clean is there after the first run only. All runs together say one
farewell at most, send nothing else and receive two messages at most. -/
theorem phases_along_repeated_runs (p : Recorded π) (console : Console) (wait quiet : Bool) :
    let start := new p console wait quiet
    let after (n : Nat) : Closing (Recorded π) := start.afterRuns n
    (after 0).phase = .connected ∧
      (Channel.isOpen p = true →
        let exchanged := exchange { start with phase := .closing }
        exchanged.state.phase = .closing ∧
          after 1 = exchanged.state.finish exchanged.outcome.isOk) ∧
      (∀ n, (after (n + 1)).phase = .closed (n != 0 || (ending p).isClean)) ∧
      (∀ m n, m ≤ n → (after m).phase.stage ≤ (after n).phase.stage) ∧
      (∀ m n, m ≤ n → (after m).phase = .closed true → (after n).phase = .closed true) ∧
      (∀ n, (after n).phase = .closed false ↔ n = 1 ∧ (ending p).isClean = false) ∧
      (∀ n, run (after (n + 1)) = .ok () { after 1 with phase := .closed true }) ∧
      ∀ n, ∃ made, (after n).channel.calls = p.calls ++ made ∧
        made.count (.send .close) ≤ 1 ∧ (∀ message, .send message ∈ made → message = .close) ∧
        made.count .receive ≤ 2 := by
  intro start after
  have hphase : ∀ n, (after (n + 1)).phase = .closed (n != 0 || (ending p).isClean) :=
    phase_after_runs start
  refine ⟨rfl, fun hopen => ?_, hphase, ?_, ?_, ?_, run_after_runs start, calls_after_runs start⟩
  · obtain ⟨hclosing, -, hstate⟩ := run_of_open start hopen
    exact ⟨hclosing, hstate⟩
  · intro m n hle
    cases n with
    | zero =>
        obtain rfl := Nat.le_zero.mp hle
        exact Nat.le_refl _
    | succ n =>
        rw [hphase n]
        exact ClosePhase.stage_le _
  · intro m n hle hclean
    cases m with
    | zero => cases hclean
    | succ m =>
        cases n with
        | zero => omega
        | succ n =>
            rw [hphase] at hclean ⊢
            obtain rfl | hn := Nat.eq_zero_or_pos n
            · obtain rfl := Nat.le_zero.mp (Nat.le_of_succ_le_succ hle)
              exact hclean
            · simp [Nat.pos_iff_ne_zero.mp hn]
  · intro n
    cases n with
    | zero => simp [after, afterRuns, start, new]
    | succ n => simp [hphase]

/-- The server refuses the farewell, which the phase tells after the first run. The second run finds
the transport closed and tells that the session was closed as it should be. -/
theorem closed_phase_not_final :
    let refused : Scripted := ⟨1, .standard 1, [], [.ok (.ok "no")], true, none⟩
    let c := new refused (Console.new false) true true
    (run c).outcome ≠ .ok () ∧ (c.afterRuns 1).phase = .closed false ∧
      (c.afterRuns 2).phase = .closed true := by
  intro refused c
  exact ⟨nofun, rfl, rfl⟩

end Closing

end SessionKeeper
