import SessionKeeper.Proofs.Closing.Ending
import SessionKeeper.Session.Scripted
import SessionKeeper.Session.Recorded

/-!
# What is said when a session is closed

Recording the calls to a channel shows what is said on it, and changes nothing else. The main
statement, `close_exchange_exact`, gives every call that closing makes, with the result, the
counter and the phase that go with it: a closed transport gets no call at all, and any other one
a single farewell, as many receives as the ending asks for, and then its close.
-/

namespace SessionKeeper.Closing

variable {π : Type} [Channel π]

/-- The calls that closing makes on an open transport. -/
def Ending.calls (ending : Ending) (wait wasOpen : Bool) : List Call :=
  .send .close :: (List.replicate (ending.receives wait) .receive ++ [.close wasOpen])

variable {r : Recorded π} {q : π} {e : SessionError}

theorem send_recorded_ok {m : ClientMessage} (h : Channel.send m r.session = .ok () q) :
    Channel.send m r = .ok () (r.next (.send m) q) :=
  Recorded.pass_ok h

theorem send_recorded_error {m : ClientMessage} (h : Channel.send m r.session = .error e q) :
    Channel.send m r = .error e (r.next (.send m) q) :=
  Recorded.pass_error h

theorem receive_recorded_ok {m : ServerMessage} (h : Channel.receive r.session = .ok m q) :
    Channel.receive r = .ok m (r.next .receive q) :=
  Recorded.pass_ok h

theorem receive_recorded_error (h : Channel.receive r.session = .error e q) :
    Channel.receive r = .error e (r.next .receive q) :=
  Recorded.pass_error h

theorem state_receive_recorded (r : Recorded π) :
    (Channel.receive r).state = r.next .receive (Channel.receive r.session).state := by
  cases h : Channel.receive r.session with
  | ok m s => rw [receive_recorded_ok h]; rfl
  | error e s => rw [receive_recorded_error h]; rfl

/-- A recorded channel is closed like the channel inside, and records the calls. -/
theorem departed_recorded (wait : Bool) (r : Recorded π) :
    ending r = ending r.session ∧ (departed wait r).session = departed wait r.session ∧
      (Channel.isOpen r.session = true →
        ∃ wasOpen, (departed wait r).calls =
          r.calls ++ (ending r.session).calls wait wasOpen) := by
  -- The cases are those of the channel inside; each of its calls has its recorded counterpart, and
  -- what the transport is when it is closed is told by the last of them.
  cases hopen : Channel.isOpen r.session with
  | false => simp [ending, departed, hopen]
  | true =>
      cases hsend : Channel.send .close r.session with
      | error e q =>
          refine ⟨?_, ?_, fun _ => ⟨Channel.isOpen q, ?_⟩⟩ <;>
            simp [ending, departed, hopen, hsend, send_recorded_error hsend, Ending.calls]
      | ok _ q =>
          have hsend' := send_recorded_ok hsend
          cases hreply : Channel.receive q with
          | error e s =>
              have hreply' := receive_recorded_error (r := r.next (.send .close) q) hreply
              refine ⟨?_, ?_, fun _ => ⟨Channel.isOpen s, ?_⟩⟩ <;>
                simp [ending, departed, hopen, hsend, hsend', hreply, hreply', Ending.calls]
          | ok reply s =>
              have hreply' := receive_recorded_ok (r := r.next (.send .close) q) hreply
              cases hbye : reply.isFarewell with
              | false =>
                  refine ⟨?_, ?_, fun _ => ⟨Channel.isOpen s, ?_⟩⟩ <;>
                    simp [ending, departed, hopen, hsend, hsend', hreply, hreply', hbye,
                      Ending.calls]
              | true =>
                  cases wait with
                  | false =>
                      refine ⟨?_, ?_, fun _ => ⟨Channel.isOpen s, ?_⟩⟩ <;>
                        simp [ending, departed, hopen, hsend, hsend', hreply, hreply', hbye,
                          Ending.calls]
                  | true =>
                      refine ⟨?_, ?_, fun _ => ⟨Channel.isOpen (Channel.receive s).state, ?_⟩⟩ <;>
                        simp [ending, departed, hopen, hsend, hsend', hreply, hreply', hbye,
                          state_receive_recorded, Ending.calls]

/-- The session that is closed, without the record of its channel. -/
def unrecorded (c : Closing (Recorded π)) : Closing π :=
  { c with channel := c.channel.session }

/-- A closed transport is left alone. Over an open one the farewell is sent once and nothing after
it, then messages are received as the ending asks for, and last the transport is closed. The run
succeeds exactly on a closed transport or an answered farewell, whatever comes after the answer;
the counter and the phase agree with the result, and the record does not influence the run. -/
theorem close_exchange_exact (c : Closing (Recorded π)) :
    let p := c.channel.session
    let done := run c
    (Channel.isOpen p = false → done = .ok () { c with phase := .closed true }) ∧
      (Channel.isOpen p = true →
        ∃ wasOpen, done.state.channel.calls =
          c.channel.calls ++ .send .close ::
            (List.replicate ((ending p).receives c.wait) .receive ++ [.close wasOpen])) ∧
      Channel.isOpen done.state.channel = false ∧
      (done.outcome = .ok () ↔
        Channel.isOpen p = false ∨
          ∃ q reply r, Channel.send .close p = .ok () q ∧ Channel.receive q = .ok reply r ∧
            (reply = .ok "bye!" ∨ reply = .ok "tchau!")) ∧
      done.outcome = (ending p).outcome ∧
      done.state.violations = c.violations + (ending p).violations ∧
      done.state.phase = .closed done.outcome.isOk ∧
      (run c.unrecorded).outcome = done.outcome ∧
      (run c.unrecorded).state.channel = done.state.channel.session := by
  intro p done
  obtain ⟨hending, hsession, hcalls⟩ := departed_recorded c.wait c.channel
  have houtcome : done.outcome = (ending p).outcome := (run_outcome c).trans (by rw [hending])
  refine ⟨run_of_not_open c, ?_, ?_, ?_, houtcome, ?_, ?_, ?_, ?_⟩
  · intro hopen
    obtain ⟨wasOpen, hcalls⟩ := hcalls hopen
    exact ⟨wasOpen, (congrArg Recorded.calls (run_channel c)).trans hcalls⟩
  · rw [run_channel c]
    exact is_open_departed c.wait c.channel
  · rw [houtcome, Ending.outcome_eq_ok_iff, ending_is_clean_iff]
  · rw [run_violations c, hending]
  · rw [run_phase c, houtcome, hending]
    cases ending p <;> rfl
  · rw [run_outcome, houtcome]
    rfl
  · rw [run_channel, run_channel c, hsession]
    rfl

/-- After the answer to the farewell one more message is waited for, and its text does not
matter. -/
theorem close_exchange_with_late_message :
    let late : List (Except SessionError ServerMessage) := [.ok (.ok "tchau!"), .ok (.ok "late")]
    let c := new (Recorded.new (⟨1, .standard 1, [], late, true, none⟩ : Scripted))
      (Console.new false) true false
    Channel.isOpen c.channel = true ∧
      ∃ wasOpen, (run c).state.channel.calls =
        [.send .close, .receive, .receive, .close wasOpen] := by
  intro late c
  exact ⟨rfl, (close_exchange_exact c).2.1 rfl⟩

end SessionKeeper.Closing
