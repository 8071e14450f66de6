import SessionKeeper.Cli.Run
import SessionKeeper.Proofs.Keeper.Leakage
import SessionKeeper.Proofs.Keeper.Publication
import SessionKeeper.Proofs.Keeper.Quietness
import SessionKeeper.Proofs.Keeper.Registry
import SessionKeeper.Session.Scripted

/-!
# A driven run ends, and leaves nothing open

An invocation makes the calls of its command one after the other, up to the first that fails, and
what is printed between them does not count. `Makes` relates an action to its calls, and is closed
under going on after a success. `Rounds` counts how often the active session is closed on the way
back to the default session. `invocation_ends_clean` puts this together with what destroying the
keeper leaves behind.
-/

namespace SessionKeeper

namespace Keeper.Same

variable {σ ω : Type} {k l m : Keeper σ ω}

/-- Of keepers that differ in their consoles nothing else matters. -/
theorem any_iff : Same (fun _ _ => True) k l ↔ l = { k with console := l.console } :=
  ⟨fun h => h.eq, fun h => h ▸ .mk k l.console trivial⟩

theorem any_trans (h : Same (fun _ _ => True) k l) (hlater : Same (fun _ _ => True) l m) :
    Same (fun _ _ => True) k m := by
  obtain ⟨console, -⟩ := h
  obtain ⟨console, -⟩ := hlater
  exact .mk k console trivial

/-- Nor does what is printed. -/
theorem any_printed (h : Same (fun _ _ => True) k l) (console : Console) :
    Same (fun _ _ => True) k { l with console } :=
  h.any_trans (.mk l console trivial)

end Keeper.Same

namespace Cli

open Keeper (perform)

variable {σ ω : Type} [Session σ ω]

/-! ## Back to the default session -/

/-- The way back to the default session: how often the active session is closed, and how that
ends. -/
inductive Rounds (quiet : Bool) :
    Keeper σ ω → Nat → EStateM.Result Failure (Keeper σ ω) Unit → Prop where
  | there {k : Keeper σ ω} (hdefault : k.isDefaultActive = true) : Rounds quiet k 0 (.ok () k)
  | failed {k left : Keeper σ ω} {e : KeeperError} (hother : k.isDefaultActive = false)
      (hclose : Keeper.closeActive false quiet k = .error e left) :
      Rounds quiet k 1 (.error ⟨e.display, []⟩ left)
  | again {k next : Keeper σ ω} {rounds : Nat} {r : EStateM.Result Failure (Keeper σ ω) Unit}
      (hother : k.isDefaultActive = false)
      (hclose : Keeper.closeActive false quiet k = .ok () next)
      (hlater : Rounds quiet next rounds r) : Rounds quiet k (rounds + 1) r

variable {k l : Keeper σ ω} {quiet : Bool}

theorem close_to_default_of_default (h : k.isDefaultActive = true) :
    Invocation.closeToDefault quiet k = .ok () k := by
  unfold Invocation.closeToDefault
  rw [if_pos h]

theorem close_to_default_of_error {e : KeeperError} {left : Keeper σ ω}
    (h : k.isDefaultActive = false) (hclose : Keeper.closeActive false quiet k = .error e left) :
    Invocation.closeToDefault quiet k = .error ⟨e.display, []⟩ left := by
  unfold Invocation.closeToDefault
  rw [if_neg (Bool.eq_false_iff.mp h)]
  split
  · next h' =>
      cases h'.symm.trans hclose
      rfl
  · next h' => cases h'.symm.trans hclose

/-- Closing that succeeds has led back to the default session, so it is not repeated. -/
theorem close_to_default_of_ok {next : Keeper σ ω} (h : k.isDefaultActive = false)
    (hclose : Keeper.closeActive false quiet k = .ok () next) :
    Invocation.closeToDefault quiet k = .ok () next := by
  unfold Invocation.closeToDefault
  rw [if_neg (Bool.eq_false_iff.mp h)]
  split
  · next h' => cases h'.symm.trans hclose
  · next h' =>
      cases h'.symm.trans hclose
      exact close_to_default_of_default (Keeper.default_active_of_close_active hclose)

/-- From every state there is one way back to the default session, and on it at most one session is
closed. -/
theorem rounds_iff {rounds : Nat} {r : EStateM.Result Failure (Keeper σ ω) Unit} :
    Rounds quiet k rounds r ↔
      r = Invocation.closeToDefault quiet k ∧ rounds = if k.isDefaultActive then 0 else 1 := by
  constructor
  · intro h
    induction h with
    | there hdefault =>
        rw [close_to_default_of_default hdefault, if_pos hdefault]
        exact ⟨rfl, rfl⟩
    | failed hother hclose =>
        rw [close_to_default_of_error hother hclose, hother]
        exact ⟨rfl, rfl⟩
    | again hother hclose _ ih =>
        -- Behind the first round the default session is active, so there is no second one.
        obtain ⟨rfl, rfl⟩ := ih
        have hdefault := Keeper.default_active_of_close_active hclose
        rw [close_to_default_of_ok hother hclose, close_to_default_of_default hdefault, hother,
          hdefault]
        exact ⟨rfl, rfl⟩
  · rintro ⟨rfl, rfl⟩
    cases hactive : k.isDefaultActive with
    | true =>
        rw [close_to_default_of_default hactive]
        exact .there hactive
    | false =>
        cases hclose : Keeper.closeActive false quiet k with
        | ok _ next =>
            rw [close_to_default_of_ok hactive hclose]
            exact .again hactive hclose (.there (Keeper.default_active_of_close_active hclose))
        | error e left =>
            rw [close_to_default_of_error hactive hclose]
            exact .failed hactive hclose

/-! ## The calls of an invocation -/

/-- The call that opens a session as it was asked for. -/
def openingCall (text : String) : Operation :=
  let r := SessionRequest.parse text
  .create r.name r.user r.password r.schema false

/-- The calls of a command. -/
def commandCalls (quiet : Bool) : Command → List Operation
  | .ping | .open [] => []
  | .open (first :: rest) => (first :: rest).map openingCall ++ [.closeActive false quiet]

/-- The calls that an invocation makes of a keeper, if each of them succeeds. -/
def Invocation.calls (i : Invocation) : List Operation :=
  .connectDefault i.given.expiredPassword i.given.noAuth i.given.plainAuth ::
    commandCalls i.given.quiet i.command

/-- The failure that the error of a call comes to. -/
def callFailure : Operation → KeeperError → Failure
  | .connectDefault .., e => .ofKeeper "Failed to connect default session" e
  | .create name .., e => .ofKeeper ("Failed to open session " ++ name) e
  | _, e => ⟨e.display, []⟩

/-- Calls are tried one after the other, up to the first that fails. -/
inductive UpToFailure : Keeper σ ω → List Operation → List Operation → Option Failure → Prop where
  | nil (k : Keeper σ ω) : UpToFailure k [] [] none
  | failed {k : Keeper σ ω} {call : Operation} {e : KeeperError} (later : List Operation)
      (h : (perform call k).outcome = .error e) :
      UpToFailure k (call :: later) [call] (some (callFailure call e))
  | went {k : Keeper σ ω} {call : Operation} {message : Option ServerMessage}
      {later tried : List Operation} {failure : Option Failure}
      (h : (perform call k).outcome = .ok message)
      (hlater : UpToFailure (k.step call) later tried failure) :
      UpToFailure k (call :: later) (call :: tried) failure

namespace UpToFailure

variable {calls later tried others : List Operation} {failure : Option Failure} {first : Failure}

/-- Without a failure every call was tried. -/
theorem tried_eq (h : UpToFailure k calls tried none) : tried = calls := by
  generalize hnone : (none : Option Failure) = failure at h
  induction h with
  | nil => rfl
  | failed => cases hnone
  | went _ _ ih => rw [ih hnone]

/-- Calls behind a failure are not tried. -/
theorem stop (h : UpToFailure k calls tried (some first)) (later : List Operation) :
    UpToFailure k (calls ++ later) tried (some first) := by
  generalize hsome : some first = failure at h ⊢
  induction h with
  | nil => cases hsome
  | failed rest h => exact .failed (rest ++ later) h
  | went h _ ih => exact .went h (ih hsome)

/-- Calls behind others that all succeeded are tried in their turn. -/
theorem append (h : UpToFailure k calls tried none)
    (hlater : UpToFailure (k.run tried) later others failure) :
    UpToFailure k (calls ++ later) (tried ++ others) failure := by
  generalize hnone : (none : Option Failure) = passed at h
  induction h with
  | nil => exact hlater
  | failed => cases hnone
  | went h _ ih => exact .went h (ih hlater hnone)

end UpToFailure

/-! ## What an action does -/

/-- The failure in which an action ends, if there is one. -/
def failure? : EStateM.Result Failure (Keeper σ ω) Unit → Option Failure
  | .ok .. => none
  | .error failure _ => some failure

/-- What an action came to is what a keeper comes to by calls, but for the console. -/
def Makes (k : Keeper σ ω) (calls : List Operation)
    (r : EStateM.Result Failure (Keeper σ ω) Unit) : Prop :=
  ∃ tried, UpToFailure k calls tried (failure? r) ∧
    Keeper.Same (fun _ _ => True) (k.run tried) r.state

namespace Makes

variable {calls later : List Operation} {r : EStateM.Result Failure (Keeper σ ω) Unit}

theorem nothing (h : Keeper.Same (fun _ _ => True) k l) : Makes k [] (.ok () l) :=
  ⟨[], .nil k, h⟩

/-- One call, whose error becomes a failure. -/
theorem single {call : Operation} {act : EStateM KeeperError (Keeper σ ω) Unit}
    (hcall : perform call = Keeper.silently act)
    (h : Keeper.Same (fun _ _ => True) k l)
    (hok : ∀ {left}, act l = .ok () left → r = .ok () left)
    (herror : ∀ {e left}, act l = .error e left → r = .error (callFailure call e) left) :
    Makes k [call] r := by
  have hpaired := Keeper.Same.perform Hushing.any (.refl call) h
  have hstate : Keeper.Same (fun _ _ => True) (k.run [call]) (act l).state := by
    rw [← Keeper.state_silently, ← hcall]
    exact hpaired.state
  have houtcome := hpaired.outcome_eq
  cases hact : act l with
  | ok _ left =>
      rw [hok hact]
      rw [hact] at hstate
      have hdone : (perform call l).outcome = .ok none := by
        rw [hcall, Keeper.silently_eq_ok_iff, hact]
        rfl
      exact ⟨[call], .went (houtcome.trans hdone) (.nil _), hstate⟩
  | error e left =>
      rw [herror hact]
      rw [hact] at hstate
      have hfailed : (perform call l).outcome = .error e := by
        rw [hcall, Keeper.silently_eq_error_iff, hact]
        rfl
      exact ⟨[call], .failed [] (houtcome.trans hfailed), hstate⟩

/-- A success leaves the keeper of all the calls, but for the console. -/
theorem same (h : Makes k calls (.ok () l)) : Keeper.Same (fun _ _ => True) (k.run calls) l := by
  obtain ⟨tried, htried, hsame⟩ := h
  obtain rfl := htried.tried_eq
  exact hsame

/-- After a failure nothing else is done. -/
theorem stop {failure : Failure} (h : Makes k calls (.error failure l)) (later : List Operation) :
    Makes k (calls ++ later) (.error failure l) := by
  obtain ⟨tried, htried, hsame⟩ := h
  exact ⟨tried, htried.stop later, hsame⟩

/-- After a success more calls are made. -/
theorem go (h : Makes k calls (.ok () l)) (hlater : Makes (k.run calls) later r) :
    Makes k (calls ++ later) r := by
  obtain ⟨tried, htried, -⟩ := h
  obtain rfl := htried.tried_eq
  obtain ⟨others, hothers, hsame⟩ := hlater
  refine ⟨tried ++ others, htried.append hothers, ?_⟩
  rw [Keeper.run, List.foldl_append]
  exact hsame

end Makes

/-! ## Carrying out an invocation -/

namespace Invocation

omit [Session σ ω] in
theorem attempt_of_ok {name : String} {act : EStateM KeeperError (Keeper σ ω) Unit}
    (h : act k = .ok () l) : attempt name act k = .ok () l := by
  simp only [attempt, h]

omit [Session σ ω] in
theorem attempt_of_error {name : String} {act : EStateM KeeperError (Keeper σ ω) Unit}
    {e : KeeperError} (h : act k = .error e l) :
    attempt name act k = .error (.ofKeeper name e) l := by
  simp only [attempt, h]

omit [Session σ ω] in
theorem eq_ok_of_attempt {name : String} {act : EStateM KeeperError (Keeper σ ω) Unit}
    (h : attempt name act k = .ok () l) : act k = .ok () l := by
  unfold attempt at h
  cases hact : act k with
  | ok _ left =>
      rw [hact] at h
      cases h
      rfl
  | error e left =>
      rw [hact] at h
      cases h

/-- A session that was created is the active one, and the default session is still there under its
own name. -/
theorem create_keeps_default {name user password schema : String} {noTls : Bool}
    (hdefault : k.sessions.contains Keeper.defaultName = true)
    (h : Keeper.create name user password schema noTls k = .ok () l) :
    l.sessions.contains Keeper.defaultName = true ∧ l.isDefaultActive = false := by
  have hnamed : name ≠ Keeper.defaultName := by
    rintro rfl
    cases (Keeper.create_of_present hdefault).symm.trans h
  have hkept := (Keeper.create_shift name user password schema noTls).default_kept hdefault
  obtain ⟨hactive, -⟩ := Keeper.create_announces (congrArg EStateM.Result.outcome h)
  rw [h] at hkept hactive
  refine ⟨hkept, Bool.eq_false_iff.mpr fun hagain => hnamed ?_⟩
  have hname := (Keeper.active_name_eq_some_iff.mp (eq_of_beq hagain)).1
  exact Option.some.inj (hactive.symm.trans hname)

/-- Connecting the default session leaves it active if it was. -/
theorem default_active_of_connect_default {expired noAuth plain : Bool}
    (hdefault : k.isDefaultActive = true)
    (h : Keeper.connectDefault expired noAuth plain k = .ok () l) : l.isDefaultActive = true := by
  have hname := (Keeper.active_name_eq_some_iff.mp (eq_of_beq hdefault)).1
  obtain ⟨hactive, session, hsession, -⟩ :=
    Keeper.connect_default_announces (congrArg EStateM.Result.outcome h)
  rw [h] at hactive hsession
  have hagain : l.activeName = some Keeper.defaultName := Keeper.active_name_eq_some_iff.mpr
    ⟨hactive.trans hname, Table.contains_iff_exists.mpr ⟨session, hsession⟩⟩
  simp [Keeper.isDefaultActive, hagain]

/-- Sessions are opened in the order in which they were asked for. -/
theorem open_all_makes (sessions : List String) (h : Keeper.Same (fun _ _ => True) k l) :
    Makes k (sessions.map openingCall) (openAll sessions l) := by
  induction sessions generalizing k l with
  | nil => exact .nothing h
  | cons text rest ih =>
      have hfirst : Makes k [openingCall text] (attempt
          ("Failed to open session " ++ (SessionRequest.parse text).name)
          (Keeper.create (SessionRequest.parse text).name (SessionRequest.parse text).user
            (SessionRequest.parse text).password (SessionRequest.parse text).schema false) l) :=
        .single rfl h attempt_of_ok attempt_of_error
      simp only [openAll]
      split
      · next hattempt =>
          rw [hattempt] at hfirst
          exact hfirst.stop _
      · next hattempt =>
          rw [hattempt] at hfirst
          exact hfirst.go (ih hfirst.same)

/-- A session that was opened is active, and it is another one than the default session, whose name
was taken. -/
theorem default_not_active_of_open_all {sessions : List String}
    (hdefault : k.sessions.contains Keeper.defaultName = true) (hsome : sessions ≠ [])
    (h : openAll sessions k = .ok () l) : l.isDefaultActive = false := by
  induction sessions generalizing k with
  | nil => exact absurd rfl hsome
  | cons text rest ih =>
      simp only [openAll] at h
      split at h
      · cases h
      · next next hattempt =>
          obtain ⟨hregistered, hother⟩ := create_keeps_default hdefault (eq_ok_of_attempt hattempt)
          cases rest with
          | nil =>
              cases h
              exact hother
          | cons => exact ih hregistered (List.cons_ne_nil _ _) h

/-- With the default session active its client id can be shown. -/
theorem show_client_id_of_default (hdefault : k.isDefaultActive = true) :
    ∃ text, showClientId k = .ok () (k.print text) := by
  have hname : k.activeName = some Keeper.defaultName := eq_of_beq hdefault
  obtain ⟨session, hsession⟩ := Keeper.exists_of_active_name hname
  refine ⟨"client id " ++ toString (Session.clientId session).toNat ++ "\n", ?_⟩
  simp only [showClientId, Keeper.activeSession, hname, Option.bind_some, hsession]

/-- A keeper whose default session is active carries out a command by its calls. -/
theorem carry_out_makes (quiet : Bool) (command : Command)
    (h : Keeper.Same (fun _ _ => True) k l) (hdefault : l.isDefaultActive = true) :
    Makes k (commandCalls quiet command) (carryOut quiet command l) := by
  cases command with
  | ping =>
      obtain ⟨text, hshown⟩ := show_client_id_of_default hdefault
      simp only [carryOut, hshown]
      exact .nothing (h.any_printed _)
  | «open» sessions =>
      have hopened := open_all_makes sessions h
      cases sessions with
      | nil =>
          have hback : closeToDefault quiet (showNames l) = .ok () (showNames l) :=
            close_to_default_of_default hdefault
          simp only [carryOut, openAll, hback]
          exact .nothing (h.any_printed _)
      | cons text rest =>
          have hregistered := (Keeper.active_name_eq_some_iff.mp (eq_of_beq hdefault)).2
          simp only [carryOut]
          split
          · next hfailed =>
              rw [hfailed] at hopened
              exact hopened.stop _
          · next left hdone =>
              rw [hdone] at hopened
              have hother : left.isDefaultActive = false :=
                default_not_active_of_open_all hregistered (List.cons_ne_nil _ _) hdone
              exact hopened.go (.single rfl (hopened.same.any_printed _)
                (close_to_default_of_ok hother) (close_to_default_of_error hother))

/-- An invocation is carried out by its calls. -/
theorem drive_makes (i : Invocation) (o : Options) (console : Console) (world : ω) :
    let start : Keeper σ ω := .new o console world
    Makes start i.calls (i.drive start) := by
  intro start
  have hconnected : Makes start
      [.connectDefault i.given.expiredPassword i.given.noAuth i.given.plainAuth]
      (attempt "Failed to connect default session"
        (Keeper.connectDefault i.given.expiredPassword i.given.noAuth i.given.plainAuth) start) :=
    .single rfl (.mk start console trivial) attempt_of_ok attempt_of_error
  simp only [drive]
  split
  · next hfailed =>
      rw [hfailed] at hconnected
      exact hconnected.stop _
  · next left hdone =>
      rw [hdone] at hconnected
      refine hconnected.go (carry_out_makes _ _ hconnected.same ?_)
      exact default_active_of_connect_default rfl (eq_ok_of_attempt hdone)

/-- What a run leaves is what its calls and the destruction of the keeper leave, but for the
console. -/
theorem conclude_same (h : Keeper.Same (fun _ _ => True) k l) :
    Keeper.Same (fun _ _ => True) (k.step (.destroy ⟨id, List.Perm.refl⟩)) (conclude l) := by
  have hdestroyed : Keeper.Same (fun _ _ => True) (k.step (.destroy ⟨id, List.Perm.refl⟩))
      l.destroy :=
    (Keeper.Same.perform Hushing.any (.refl (.destroy ⟨id, List.Perm.refl⟩)) h).state
  exact hdestroyed.any_printed _

theorem run_keeper_eq (i : Invocation) (o : Options) (world : ω) :
    let r := i.drive (Keeper.new o (Console.new i.given.verbose) world : Keeper σ ω)
    i.runKeeper o world = (conclude r.state, failure? r) := by
  intro r
  unfold runKeeper
  cases hr : i.drive (Keeper.new o (Console.new i.given.verbose) world : Keeper σ ω) <;>
    simp only [r, hr] <;> rfl

end Invocation

/-! ## How a run ends -/

/-- After the keeper was destroyed, whatever it did before, nothing is registered, and every session
that it ever had is closed. -/
theorem destroyed_closed (o : Options) (console : Console) (world : ω)
    (operations : List Operation) (arrangement : Arrangement) :
    let k : Keeper σ ω := (Keeper.new o console world).run (operations ++ [.destroy arrangement])
    k.sessions = .empty ∧ k.active = none ∧
      ∀ session ∈ k.everySession, Channel.isOpen session = false := by
  intro k
  have hdone : k = ((Keeper.new o console world).run operations).step (.destroy arrangement) :=
    Keeper.run_concat _ _ _
  have hclosed : ∀ session ∈ k.retired, Channel.isOpen session = false :=
    Keeper.run_retired_closed o console world _
  have hempty : k.sessions = .empty := by
    rw [hdone]
    rfl
  refine ⟨hempty, ?_, fun session hsession => hclosed session ?_⟩
  · rw [hdone]
    rfl
  · rwa [Keeper.everySession, hempty] at hsession

/-- Whatever the sessions do, an invocation ends: its calls are made in their order up to the first
that fails, it is that failure which is returned, and then the keeper is destroyed, so that nothing
is registered and every session there ever was is closed. That holds in every order in which the
named sessions are met at the end, and the sessions are accounted for one by one by their numbers.
The way back to the default session is one from every state, and closes one session at most. -/
theorem invocation_ends_clean (i : Invocation) (o : Options) (world : Counted ω) :
    let start : Keeper σ ω := .new o (Console.new i.given.verbose) world.world
    let ended := (i.runKeeper o world.world : Keeper σ ω × Option Failure).1
    let failure := (i.runKeeper o world.world : Keeper σ ω × Option Failure).2
    (∃ tried, UpToFailure start i.calls tried failure ∧
      ended =
        { start.run (tried ++ [.destroy ⟨id, List.Perm.refl⟩]) with console := ended.console } ∧
      ∀ arrangement,
        let counted : Keeper (Numbered σ) (Counted ω) :=
          (Keeper.new o (Console.new i.given.verbose) world).run (tried ++ [.destroy arrangement])
        counted.map Numbered.session Counted.world =
            start.run (tried ++ [.destroy arrangement]) ∧
          counted.sessions = .empty ∧ counted.active = none ∧
          (counted.everySession.map Numbered.number ++ List.range world.made).Perm
            (List.range counted.world.made) ∧
          ∀ session ∈ counted.everySession, Channel.isOpen session = false) ∧
      ended.sessions = .empty ∧ ended.active = none ∧
      (∀ session ∈ ended.everySession, Channel.isOpen session = false) ∧
      ∀ (k : Keeper σ ω) (quiet : Bool) (rounds : Nat)
          (r : EStateM.Result Failure (Keeper σ ω) Unit),
        Rounds quiet k rounds r ↔
          r = Invocation.closeToDefault quiet k ∧ rounds = if k.isDefaultActive then 0 else 1 := by
  intro start ended failure
  obtain ⟨tried, htried, hsame⟩ :=
    Invocation.drive_makes (σ := σ) i o (Console.new i.given.verbose) world.world
  have hended : Keeper.Same (fun _ _ => True)
      (start.run (tried ++ [.destroy ⟨id, List.Perm.refl⟩])) ended := by
    rw [Keeper.run_concat]
    simp only [ended, Invocation.run_keeper_eq]
    exact Invocation.conclude_same hsame
  have heq := Keeper.Same.any_iff.mp hended
  obtain ⟨hsessions, hactive, hclosed⟩ := destroyed_closed (σ := σ) o
    (Console.new i.given.verbose) world.world tried ⟨id, List.Perm.refl⟩
  refine ⟨⟨tried, ?_, heq, fun arrangement => ?_⟩, ?_, ?_, ?_, fun k quiet rounds r => rounds_iff⟩
  · simp only [failure, Invocation.run_keeper_eq]
    exact htried
  · intro counted
    obtain ⟨hempty, hnone, hall⟩ :=
      destroyed_closed (σ := Numbered σ) o (Console.new i.given.verbose) world tried arrangement
    obtain ⟨hperm, -⟩ := Keeper.sessions_accounted (σ := σ) o (Console.new i.given.verbose) world
      (tried ++ [.destroy arrangement])
    exact ⟨Numbered.transparent.run_new_map o _ world _, hempty, hnone, hperm, hall⟩
  · rw [heq]
    exact hsessions
  · rw [heq]
    exact hactive
  · rw [heq]
    exact hclosed

/-- Of three sessions the second one is refused, so the third one is not opened, and then the first
one refuses the farewell. The failure is that of the second one, and all three sessions that there
were are closed. -/
theorem refused_session_ends_clean :
    let refused : SessionError := ⟨Code.connectionError, "refused"⟩
    let rude : Script := { Script.standard 2 with replies := [.ok .capabilities] }
    let world : Counted Scripts :=
      ⟨⟨[(2, rude), (3, { Script.standard 3 with connects := [some refused] })], 0⟩, 0⟩
    let i : Invocation := ⟨{}, .open ["a", "b:root", "c"]⟩
    let ended := (i.runKeeper {} world.world : Keeper Scripted Scripts × Option Failure).1
    let failure := (i.runKeeper {} world.world : Keeper Scripted Scripts × Option Failure).2
    failure = some ⟨"Failed to open session b", [(KeeperError.session refused).display]⟩ ∧
      ended.ledger.violations = 1 ∧ ended.world.created = 3 ∧ ended.everySession.length = 3 ∧
      ∀ session ∈ ended.everySession, Channel.isOpen session = false := by
  intro refused rude world i ended failure
  obtain ⟨-, -, -, hclosed, -⟩ := invocation_ends_clean (σ := Scripted) i {} world
  exact ⟨by decide +kernel, by decide +kernel, by decide +kernel, by decide +kernel, hclosed⟩

end Cli

end SessionKeeper
