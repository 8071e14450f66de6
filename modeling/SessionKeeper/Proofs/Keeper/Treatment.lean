import SessionKeeper.Proofs.Keeper.Operation
import SessionKeeper.Proofs.Keeper.Teardown

/-!
# How operations treat sessions

An operation targets sessions by their names, and treats a session that it targets in a way that
depends on the session, the options and the environment alone. `step_turnover` says what comes of
that for all sessions of a keeper. What holds of all sessions follows from it, one way at a time.
-/

namespace SessionKeeper

/-- Whether the operation lets go of the sessions that it targets. -/
def Operation.dismisses : Operation → Bool
  | abortActive | closeActive .. | safeClose _ | destroy _ => true
  | connectDefault .. | create .. | setActive .. | send _ | receive | closeTransport => false

namespace Keeper

open Closing (departed)

variable {σ ω : Type} {k : Keeper σ ω}

/-- The names of the sessions that an operation targets. To close the default session is refused
unless everything is shut down, and targets nothing then; to create a session targets none of those
that are there. -/
def targets (k : Keeper σ ω) : Operation → List String
  | .connectDefault .. => [defaultName]
  | .create .. | .setActive .. => []
  | .abortActive | .send _ | .receive | .closeTransport => k.activeName.toList
  | .closeActive shutdown _ =>
      k.activeName.toList.filter fun name => shutdown || name != defaultName
  | .safeClose name => [name]
  | .destroy _ => k.sessions.names

variable [Session σ ω]

/-- What an operation makes of a session that it targets, and of the environment. -/
def treat (o : Options) (operation : Operation) (p : σ × ω) : σ × ω :=
  match operation with
  | .connectDefault expired noAuth plain =>
      match Session.connect o (!noAuth) (prepareDefault o p.2 expired plain p.1, p.2) with
      | .ok () left => left
      | .error e left =>
          (if keepsTransport e noAuth then left.1 else Channel.close left.1, left.2)
  | .send message => ((Channel.send message p.1).state, p.2)
  | .receive => ((Channel.receive p.1).state, p.2)
  | .closeTransport | .abortActive => (Channel.close p.1, p.2)
  | .closeActive .. | .safeClose _ | .destroy _ =>
      (Channel.close (departed (!o.skipWait) p.1), p.2)
  | .create .. | .setActive .. => p

/-- Whoever is let go has no transport any more. -/
theorem is_open_treat {o : Options} {operation : Operation} (h : operation.dismisses = true)
    (p : σ × ω) : Channel.isOpen (treat o operation p).1 = false := by
  cases operation with
  | abortActive | closeActive | safeClose | destroy => exact Channel.isOpen_close _
  | connectDefault | create | setActive | send | receive | closeTransport => cases h

/-- Only a default connect has to do with the environment. -/
theorem world_treat_of_dismisses {o : Options} {operation : Operation}
    (h : operation.dismisses = true) (p : σ × ω) : (treat o operation p).2 = p.2 := by
  cases operation with
  | abortActive | closeActive | safeClose | destroy => rfl
  | connectDefault | create | setActive | send | receive | closeTransport => cases h

/-- How connecting the session that `create` makes ends, and what it leaves. -/
def attempt (k : Keeper σ ω) (user password schema : String) (noTls : Bool) :
    EStateM.Result SessionError (σ × ω) Unit :=
  Session.connect (namedOptions k.options user password schema noTls) (user != noAuthUser)
    (k.prepared user password schema noTls)

/-- What an operation does to all sessions: those under names, and those that were let go. -/
inductive Turnover (k : Keeper σ ω) (operation : Operation) (next : Keeper σ ω) : Prop where
  /-- Nothing is targeted that is there. -/
  | idle (hnone : ∀ name ∈ k.targets operation, k.sessions.get? name = none)
      (hsessions : next.sessions = k.sessions) (hretired : next.retired = k.retired)
      (hworld : next.world = k.world)
  /-- A session is used and stays. -/
  | used (name : String) (session : σ) (htargets : k.targets operation = [name])
      (hkeeps : operation.dismisses = false) (h : k.sessions.get? name = some session)
      (hsessions : next.sessions =
        k.sessions.insert name (treat k.options operation (session, k.world)).1)
      (hretired : next.retired = k.retired)
      (hworld : next.world = (treat k.options operation (session, k.world)).2)
  /-- A session is let go. -/
  | dismissed (name : String) (session : σ) (htargets : k.targets operation = [name])
      (hdismisses : operation.dismisses = true) (h : k.sessions.get? name = some session)
      (hsessions : next.sessions = k.sessions.erase name)
      (hretired : next.retired =
        (treat k.options operation (session, k.world)).1 :: k.retired)
      (hworld : next.world = k.world)
  /-- The default session is let go, and a new one takes its place. -/
  | renewed (session : σ) (htargets : k.targets operation = [defaultName])
      (hdismisses : operation.dismisses = true) (h : k.sessions.get? defaultName = some session)
      (hsessions : next.sessions =
        (k.sessions.erase defaultName).insert defaultName (Session.create k.world : σ × ω).1)
      (hretired : next.retired =
        (treat k.options operation (session, k.world)).1 :: k.retired)
      (hworld : next.world = (Session.create k.world : σ × ω).2)
  /-- A new session is registered. -/
  | entered (name user password schema : String) (noTls : Bool)
      (hoperation : operation = .create name user password schema noTls)
      (hnew : k.sessions.get? name = none)
      (hsessions : next.sessions =
        k.sessions.insert name (k.attempt user password schema noTls).state.1)
      (hretired : next.retired = k.retired)
      (hworld : next.world = (k.attempt user password schema noTls).state.2)
  /-- A new session could not be connected, and is let go. -/
  | missed (name user password schema : String) (noTls : Bool)
      (hoperation : operation = .create name user password schema noTls)
      (hsessions : next.sessions = k.sessions)
      (hretired : next.retired =
        Channel.close (k.attempt user password schema noTls).state.1 :: k.retired)
      (hworld : next.world = (k.attempt user password schema noTls).state.2)
  /-- Every session is let go. -/
  | ended (arrangement : Arrangement) (hoperation : operation = .destroy arrangement)
      (hsessions : next.sessions = .empty)
      (hretired : next.retired.Perm
        ((k.sessions.entries.map Prod.snd).map
          (fun session => (treat k.options operation (session, k.world)).1) ++ k.retired))
      (hworld : next.world = k.world)

/-! ## The operations -/

variable {operation : Operation} {name : String}

theorem connect_default_turnover (expired noAuth plain : Bool) :
    Turnover k (.connectDefault expired noAuth plain)
      (connectDefault expired noAuth plain k).state := by
  cases h : k.sessions.get? defaultName with
  | none =>
      rw [connect_default_of_absent h]
      refine .idle (fun name hname => ?_) rfl rfl rfl
      rw [List.mem_singleton.mp hname, h]
  | some session =>
      rcases hconnect : Session.connect k.options (!noAuth)
          (prepareDefault k.options k.world expired plain session, k.world) with
        ⟨_, left, world⟩ | ⟨e, left, world⟩
      · have htreat : treat k.options (.connectDefault expired noAuth plain) (session, k.world) =
            (left, world) := by simp only [treat, hconnect]
        rw [connect_default_of_ok h hconnect]
        exact .used defaultName session rfl rfl h (by rw [htreat]; rfl) rfl (by rw [htreat]; rfl)
      · have htreat : treat k.options (.connectDefault expired noAuth plain) (session, k.world) =
            (if keepsTransport e noAuth then left else Channel.close left, world) := by
          simp only [treat, hconnect]
        rw [connect_default_of_error h hconnect]
        exact .used defaultName session rfl rfl h (by rw [htreat]; rfl) rfl (by rw [htreat]; rfl)

theorem create_turnover (name user password schema : String) (noTls : Bool) :
    Turnover k (.create name user password schema noTls)
      (create name user password schema noTls k).state := by
  cases hname : k.sessions.contains name with
  | true =>
      rw [create_of_present hname]
      exact .idle (List.forall_mem_nil _) rfl rfl rfl
  | false =>
      rcases hconnect : Session.connect (namedOptions k.options user password schema noTls)
          (user != noAuthUser) (k.prepared user password schema noTls) with
        ⟨_, left, world⟩ | ⟨e, left, world⟩
      · have hleft : (k.attempt user password schema noTls).state = (left, world) := by
          rw [attempt, hconnect, EStateM.Result.state_ok]
        rw [create_of_ok hname hconnect]
        refine .entered name user password schema noTls rfl (Table.contains_eq_false_iff.mp hname)
          (by rw [hleft]; rfl) rfl (by rw [hleft]; rfl)
      · have hleft : (k.attempt user password schema noTls).state = (left, world) := by
          rw [attempt, hconnect, EStateM.Result.state_error]
        rw [create_of_error hname hconnect]
        exact .missed name user password schema noTls rfl rfl (by rw [hleft]; rfl)
          (by rw [hleft]; rfl)

/-- A switch leaves the sessions alone. -/
theorem set_active_frame (name : String) (quiet : Bool) (k : Keeper σ ω) :
    let after := (setActive name quiet k).state
    after.sessions = k.sessions ∧ after.retired = k.retired ∧ after.world = k.world := by
  cases h : k.sessions.get? name with
  | none =>
      rw [set_active_of_absent h]
      exact ⟨rfl, rfl, rfl⟩
  | some session =>
      rw [set_active_of_get? h]
      exact ⟨rfl, rfl, rfl⟩

theorem abort_active_turnover : Turnover k .abortActive (abortActive k).state := by
  cases hname : k.activeName with
  | none =>
      simp only [abortActive, hname]
      exact .idle (by simp [targets, hname]) rfl rfl rfl
  | some name =>
      obtain ⟨session, h⟩ := exists_of_active_name hname
      by_cases hnamed : name = defaultName
      · subst hnamed
        rw [abort_active_of_default hname h]
        exact .renewed session (by simp [targets, hname]) rfl h rfl rfl rfl
      · rw [abort_active_of_named hname hnamed h]
        obtain ⟨hsessions, hretired, hworld⟩ :=
          set_active_frame defaultName false (k.aborted name session)
        exact .dismissed name session (by simp [targets, hname]) rfl h hsessions hretired hworld

theorem close_active_turnover (shutdown quiet : Bool) :
    Turnover k (.closeActive shutdown quiet) (closeActive shutdown quiet k).state := by
  cases hname : k.activeName with
  | none =>
      rw [close_active_of_none hname]
      exact .idle (by simp [targets, hname]) rfl rfl rfl
  | some name =>
      obtain ⟨session, h⟩ := exists_of_active_name hname
      by_cases hclosable : name ≠ defaultName ∨ shutdown = true
      · obtain ⟨console, -, -, hstate⟩ := close_active_eq quiet hname h hclosable
        have htargets : k.targets (.closeActive shutdown quiet) = [name] := by
          have hmeant : (shutdown || name != defaultName) = true := by
            rcases hclosable with hnamed | hdown <;> simp [*]
          simp [targets, hname, hmeant]
        rw [hstate]
        cases shutdown with
        | true => exact .dismissed name session htargets rfl h rfl rfl rfl
        | false =>
            obtain ⟨hsessions, hretired, hworld⟩ :=
              set_active_frame defaultName quiet (k.dismissed name session console)
            exact .dismissed name session htargets rfl h hsessions hretired hworld
      · obtain ⟨rfl, rfl⟩ : name = defaultName ∧ shutdown = false := by simpa using hclosable
        rw [close_active_of_default hname]
        exact .idle (by simp [targets, hname]) rfl rfl rfl

theorem safe_close_turnover (name : String) : Turnover k (.safeClose name) (k.safeClose name) := by
  cases h : k.sessions.get? name with
  | none =>
      rw [safe_close_of_absent h]
      refine .idle (fun other hother => ?_) rfl rfl rfl
      rw [List.mem_singleton.mp hother, h]
  | some session =>
      rw [safe_close_eq h]
      exact .dismissed name session rfl rfl h rfl rfl rfl

theorem destroy_turnover (arrangement : Arrangement) :
    Turnover k (.destroy arrangement) (k.destroyIn (arrangement.arrange k.namedSessions)) := by
  have horder := arrangement.perm k.namedSessions
  refine .ended arrangement rfl rfl (retired_destroy_in horder) ?_
  rw [destroy_in_eq horder]
  exact (closed_before_drain horder).world

/-- Whatever acts on the active session uses it. -/
theorem on_active_turnover {α : Type} {act : EStateM SessionError σ α}
    (htargets : k.targets operation = k.activeName.toList) (hkeeps : operation.dismisses = false)
    (htreat : ∀ session, treat k.options operation (session, k.world) =
      ((act session).state, k.world)) :
    Turnover k operation (onActive act k).state := by
  obtain ⟨hname, hstate⟩ | ⟨name, session, hname, h, hstate⟩ := on_active_state (k := k) act
  · rw [hstate]
    exact .idle (by simp [htargets, hname]) rfl rfl rfl
  · rw [hstate]
    exact .used name session (by rw [htargets, hname]; rfl) hkeeps h (by rw [htreat]) rfl
      (by rw [htreat])

/-- What every operation does to the sessions of a keeper. -/
theorem step_turnover (operation : Operation) : Turnover k operation (k.step operation) := by
  cases operation with
  | connectDefault expired noAuth plain =>
      rw [step, perform, state_silently]
      exact connect_default_turnover expired noAuth plain
  | create name user password schema noTls =>
      rw [step, perform, state_silently]
      exact create_turnover name user password schema noTls
  | setActive name quiet =>
      rw [step, perform, state_silently]
      obtain ⟨hsessions, hretired, hworld⟩ := set_active_frame name quiet k
      exact .idle (List.forall_mem_nil _) hsessions hretired hworld
  | abortActive =>
      rw [step, perform, state_silently]
      exact abort_active_turnover
  | closeActive shutdown quiet =>
      rw [step, perform, state_silently]
      exact close_active_turnover shutdown quiet
  | safeClose name => exact safe_close_turnover name
  | destroy arrangement => exact destroy_turnover arrangement
  | send message =>
      rw [step, perform, state_silently]
      exact on_active_turnover rfl rfl fun _ => rfl
  | receive =>
      rw [step_receive]
      exact on_active_turnover rfl rfl fun _ => rfl
  | closeTransport =>
      rw [step, perform, state_silently]
      exact on_active_turnover rfl rfl fun _ => rfl

end Keeper

end SessionKeeper
