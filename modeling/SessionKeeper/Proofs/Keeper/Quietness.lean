import Mathlib.Data.List.Forall2
import SessionKeeper.Proofs.Keeper.Operation
import SessionKeeper.Proofs.Keeper.Steps
import SessionKeeper.Proofs.Keeper.Teardown
import SessionKeeper.Session.Scripted

/-!
# What being quiet is about

Two runs of a keeper are compared that differ in whether their console is verbose and in which of
their calls are asked to be quiet. `Hushing` says what a relation between consoles needs for it to
hold as long as both runs print at the same places; the keepers then stay the same but for their
consoles, and every call returns the same. The main statement, `quietness_shows_on_console_only`,
takes this for any two consoles, and then for a console that shows a part of what the other one
does.
-/

namespace EStateM.Result

variable {ε σ α : Type}

/-- Two results end alike, in states that are related. -/
inductive Paired (R : σ → σ → Prop) : EStateM.Result ε σ α → EStateM.Result ε σ α → Prop where
  | ok {a : α} {s t : σ} (h : R s t) : Paired R (.ok a s) (.ok a t)
  | error {e : ε} {s t : σ} (h : R s t) : Paired R (.error e s) (.error e t)

namespace Paired

variable {R : σ → σ → Prop} {r s : EStateM.Result ε σ α}

theorem outcome_eq (h : Paired R r s) : r.outcome = s.outcome := by
  cases h <;> rfl

theorem state (h : Paired R r s) : R r.state s.state := by
  cases h <;> assumption

end Paired

end EStateM.Result

namespace SessionKeeper

open EStateM.Result (Paired)

/-- The same call, up to whether it is asked to be quiet. -/
inductive Operation.Same (Q : Bool → Bool → Prop) : Operation → Operation → Prop where
  | refl (operation : Operation) : Same Q operation operation
  | setActive (name : String) {quiet other : Bool} (h : Q quiet other) :
      Same Q (.setActive name quiet) (.setActive name other)
  | closeActive (shutdown : Bool) {quiet other : Bool} (h : Q quiet other) :
      Same Q (.closeActive shutdown quiet) (.closeActive shutdown other)

/-- A console is verbose only if another one is, and shows a part of what that one shows. -/
structure Console.Quieter (c d : Console) : Prop where
  verbose : c.verbose = true → d.verbose = true
  printed : c.printed.Sublist d.printed

/-- Related consoles stay related when both are told the same, or one of them less than the other
because of a request to be quiet. -/
structure Hushing (R : Console → Console → Prop) (Q : Bool → Bool → Prop) : Prop where
  asked : ∀ quiet, Q quiet quiet
  written : ∀ {c d quiet other} stream bytes, Q quiet other → R c d →
    R (if quiet then c else c.write stream bytes) (if other then d else d.write stream bytes)
  verbosely : ∀ {c d} text, R c d → R (c.printVerbose text) (d.printVerbose text)

namespace Hushing

/-- Nothing needs to be known of the consoles. -/
theorem any : Hushing (fun _ _ => True) fun _ _ => True where
  asked _ := trivial
  written _ _ _ _ := trivial
  verbosely _ _ := trivial

/-- Whoever is asked to be quiet wherever the other one is says no more. -/
theorem quieter : Hushing Console.Quieter fun quiet other => other = true → quiet = true where
  asked _ := id
  written {c d quiet other} stream bytes hquiet h := by
    cases quiet with
    | false =>
        obtain rfl : other = false := by simpa using hquiet
        exact ⟨h.verbose, h.printed.append_right _⟩
    | true =>
        cases other with
        | true => exact h
        | false => exact ⟨h.verbose, h.printed.trans (List.sublist_append_left _ _)⟩
  verbosely {c d} text h := by
    unfold Console.printVerbose
    cases hverbose : c.verbose with
    | true =>
        rw [if_pos rfl, if_pos (h.verbose hverbose)]
        exact ⟨h.verbose, h.printed.append_right _⟩
    | false =>
        rw [if_neg Bool.false_ne_true]
        split
        · exact ⟨fun hfalse => absurd (hverbose.symm.trans hfalse) Bool.false_ne_true,
            h.printed.trans (List.sublist_append_left _ _)⟩
        · exact h

variable {R : Console → Console → Prop} {Q : Bool → Bool → Prop} (h : Hushing R Q)
include h

theorem print {c d : Console} (text : String) (hconsole : R c d) :
    R (c.print text) (d.print text) :=
  h.written .out (Text.utf8 text) (h.asked false) hconsole

end Hushing

/-! ## Closing -/

namespace Closing

variable {π : Type} [Channel π] {R : Console → Console → Prop} {Q : Bool → Bool → Prop}

omit [Channel π] in
/-- The same session is being closed, on related consoles. -/
inductive Same (R : Console → Console → Prop) (Q : Bool → Bool → Prop) :
    Closing π → Closing π → Prop where
  | mk (c : Closing π) (console : Console) (quiet : Bool) (hconsole : R c.console console)
      (hquiet : Q c.quiet quiet) : Same R Q c { c with console, quiet }

namespace Same

variable (h : Hushing R Q) {c d : Closing π}
include h

theorem await_disconnect (hsame : Same R Q c d) : Same R Q c.awaitDisconnect d.awaitDisconnect := by
  obtain ⟨console, quiet, hconsole, hquiet⟩ := hsame
  unfold awaitDisconnect
  dsimp only
  cases Channel.receive c.channel with
  | error e left => exact .mk { c with channel := left } console quiet hconsole hquiet
  | ok extra left =>
      have hwritten := h.written .err
        (Text.utf8 ("Was expecting closure but got message:" ++ extra.display)) hquiet hconsole
      obtain ⟨_, shown, wait, asked, phase, violations⟩ := c
      cases asked <;> cases quiet <;>
        exact .mk ⟨left, _, wait, _, phase, violations⟩ _ _ hwritten hquiet

theorem receive_reply (hsame : Same R Q c d) :
    Paired (Same R Q) (receiveReply c) (receiveReply d) := by
  obtain ⟨console, quiet, hconsole, hquiet⟩ := hsame
  unfold receiveReply
  dsimp only
  cases Channel.receive c.channel with
  | error e left => exact .error (.mk { c with channel := left } console quiet hconsole hquiet)
  | ok reply left =>
      have hwritten := h.written .out (Text.utf8 reply.display) hquiet hconsole
      exact .ok (.mk { c with channel := left, console := _ } _ quiet hwritten hquiet)

/-- Both farewells take the same course. -/
theorem exchange (hsame : Same R Q c d) :
    Paired (Same R Q) (Closing.exchange c) (Closing.exchange d) := by
  obtain ⟨console, quiet, hconsole, hquiet⟩ := hsame
  unfold Closing.exchange
  dsimp only
  cases Channel.send .close c.channel with
  | error e left => exact .error (.mk { c with channel := left } console quiet hconsole hquiet)
  | ok _ left =>
      have hreply := receive_reply h (.mk { c with channel := left } console quiet hconsole hquiet)
      dsimp only at hreply ⊢
      generalize receiveReply { c with channel := left } = r,
        receiveReply { c with channel := left, console, quiet } = s at hreply ⊢
      cases hreply with
      | error hreply => exact .error hreply
      | @ok reply c d hreply =>
          dsimp only
          cases reply.isFarewell with
          | false =>
              obtain ⟨console, quiet, hconsole, hquiet⟩ := hreply
              exact .error (.mk { c with violations := c.violations + 1 } console quiet hconsole
                hquiet)
          | true =>
              have hwait : d.wait = c.wait := by
                cases hreply
                rfl
              rw [if_pos rfl, if_pos rfl, hwait]
              cases c.wait with
              | false => exact .ok hreply
              | true => exact .ok (await_disconnect h hreply)

theorem run (hsame : Same R Q c d) : Paired (Same R Q) (Closing.run c) (Closing.run d) := by
  obtain ⟨console, quiet, hconsole, hquiet⟩ := hsame
  unfold Closing.run
  dsimp only
  cases Channel.isOpen c.channel with
  | false => exact .ok (.mk { c with phase := .closed true } console quiet hconsole hquiet)
  | true =>
      have hexchange := exchange h (.mk { c with phase := .closing } console quiet hconsole hquiet)
      dsimp only at hexchange
      rw [if_pos rfl, if_pos rfl]
      generalize Closing.exchange { c with phase := .closing } = r,
        Closing.exchange { c with phase := .closing, console, quiet } = s at hexchange ⊢
      cases hexchange with
      | @ok _ c d hsame =>
          obtain ⟨console, quiet, hconsole, hquiet⟩ := hsame
          exact .ok (.mk (c.finish true) console quiet hconsole hquiet)
      | @error _ c d hsame =>
          obtain ⟨console, quiet, hconsole, hquiet⟩ := hsame
          exact .error (.mk (c.finish false) console quiet hconsole hquiet)

end Same

end Closing

namespace Keeper

variable {σ ω : Type} {R : Console → Console → Prop} {Q : Bool → Bool → Prop}

/-- Two keepers that differ in their consoles only, which are related. -/
inductive Same (R : Console → Console → Prop) : Keeper σ ω → Keeper σ ω → Prop where
  | mk (k : Keeper σ ω) (console : Console) (hconsole : R k.console console) :
      Same R k { k with console }

namespace Same

variable {k l : Keeper σ ω}

theorem console (h : Same R k l) : R k.console l.console := by
  cases h
  assumption

theorem eq (h : Same R k l) : l = { k with console := l.console } := by
  cases h
  rfl

end Same

variable [Session σ ω] {k l : Keeper σ ω} {quiet other : Bool}

/-- What each operation returned and left along a run. -/
def history (k : Keeper σ ω) : List Operation →
    List (EStateM.Result KeeperError (Keeper σ ω) (Option ServerMessage))
  | [] => []
  | operation :: operations => perform operation k :: history (k.step operation) operations

namespace Same

variable (h : Hushing R Q)
include h

/-! ## Switching and closing -/

theorem set_active (name : String) (hquiet : Q quiet other) (hsame : Same R k l) :
    Paired (Same R) (setActive name quiet k) (setActive name other l) := by
  obtain ⟨console, hconsole⟩ := hsame
  cases hsession : k.sessions.get? name with
  | none =>
      rw [set_active_of_absent hsession, set_active_of_absent (k := { k with console }) hsession]
      exact .error (.mk k console hconsole)
  | some session =>
      rw [set_active_of_get? hsession, set_active_of_get? (k := { k with console }) hsession]
      exact .ok (.mk (k.switched name session quiet) _ (h.written .out _ hquiet hconsole))

omit h in
/-- Letting a session go says nothing. -/
theorem dismiss (name : String) (hsame : Same R k l) :
    Same R { k.release name with active := none } { l.release name with active := none } := by
  obtain ⟨console, hconsole⟩ := hsame
  cases hsession : k.sessions.get? name with
  | none =>
      have habsent : k.sessions.contains name = false := Table.contains_eq_false_iff.mpr hsession
      unfold Keeper.release
      rw [habsent]
      exact .mk { k with active := none } console hconsole
  | some session =>
      rw [release_of_get? hsession, release_of_get? (k := { k with console }) hsession]
      exact .mk { k with sessions := _, active := none, ledger := _, retired := _ } console hconsole

theorem abort_active (hsame : Same R k l) : Paired (Same R) (abortActive k) (abortActive l) := by
  obtain ⟨console, hconsole⟩ := hsame
  cases hname : k.activeName with
  | none =>
      unfold abortActive
      rw [hname, show Keeper.activeName { k with console } = none from hname]
      exact .error (.mk k console hconsole)
  | some name =>
      obtain ⟨session, hsession⟩ := exists_of_active_name hname
      by_cases hdefault : name = defaultName
      · subst hdefault
        rw [abort_active_of_default hname hsession,
          abort_active_of_default (k := { k with console }) hname hsession]
        exact .ok (.mk { k with sessions := _, ledger := _, retired := _, world := _ } console
          hconsole)
      · rw [abort_active_of_named hname hdefault hsession,
          abort_active_of_named (k := { k with console }) hname hdefault hsession]
        exact set_active h defaultName (h.asked false)
          (.mk (k.aborted name session) _ (h.print _ hconsole))

theorem say_farewell (name : String) (hquiet : Q quiet other) (hsame : Same R k l) :
    Paired (Same R) (sayFarewell name quiet k) (sayFarewell name other l) := by
  obtain ⟨console, hconsole⟩ := hsame
  unfold sayFarewell
  dsimp only
  cases k.sessions.get? name with
  | none => exact .ok (.mk k console hconsole)
  | some session =>
      have hrun := Closing.Same.run h
        (.mk (Closing.new session k.console (!k.options.skipWait) quiet) console other hconsole
          hquiet)
      dsimp only
      rw [show Closing.new session console (!k.options.skipWait) other =
        { Closing.new session k.console (!k.options.skipWait) quiet with console, quiet := other }
        from rfl]
      generalize Closing.run (Closing.new session k.console (!k.options.skipWait) quiet) = r,
        Closing.run { Closing.new session k.console (!k.options.skipWait) quiet with
          console, quiet := other } = s at hrun ⊢
      cases hrun with
      | @ok _ c d hsame =>
          obtain ⟨shown, asked, hshown, -⟩ := hsame
          exact .ok (.mk { k with console := c.console, sessions := _, ledger := _ } shown hshown)
      | @error _ c d hsame =>
          obtain ⟨shown, asked, hshown, -⟩ := hsame
          exact .error (.mk { k with console := c.console, sessions := _, ledger := _ } shown
            hshown)

theorem restore (shutdown : Bool) (hquiet : Q quiet other) (hsame : Same R k l) :
    Paired (Same R) (restore shutdown quiet k) (restore shutdown other l) := by
  cases shutdown with
  | true => exact .ok hsame
  | false => exact set_active h defaultName hquiet hsame

theorem close_active (shutdown : Bool) (hquiet : Q quiet other) (hsame : Same R k l) :
    Paired (Same R) (closeActive shutdown quiet k) (closeActive shutdown other l) := by
  obtain ⟨console, hconsole⟩ := hsame
  unfold closeActive
  rw [show Keeper.activeName { k with console } = k.activeName from rfl]
  cases k.activeName with
  | none =>
      cases shutdown with
      | true => exact .ok (.mk k console hconsole)
      | false => exact .error (.mk k console hconsole)
  | some name =>
      dsimp only
      cases name.isEmpty && !shutdown with
      | true => exact .error (.mk k console hconsole)
      | false =>
          -- Whether the session is the default one is no question of being quiet.
          have hasked : Q (name.isEmpty || quiet) (name.isEmpty || other) := by
            cases name.isEmpty with
            | true => exact h.asked true
            | false => exact hquiet
          have hprinted : Same R
              (k.printUnless (name.isEmpty || quiet) ("closing session " ++ name ++ "\n"))
              (Keeper.printUnless { k with console } (name.isEmpty || other)
                ("closing session " ++ name ++ "\n")) := by
            rw [print_unless_eq, print_unless_eq]
            exact .mk { k with console := _ } _ (h.written .out _ hasked hconsole)
          rw [if_neg Bool.false_ne_true, if_neg Bool.false_ne_true]
          generalize k.printUnless _ _ = said, Keeper.printUnless { k with console } _ _ = heard
            at hprinted ⊢
          have hfarewell := say_farewell h name hquiet hprinted
          generalize sayFarewell name quiet said = r, sayFarewell name other heard = s
            at hfarewell ⊢
          cases hfarewell with
          | ok hsame => exact restore h shutdown hquiet (dismiss name hsame)
          | @error e left remains hsame =>
              have hrestored := restore h shutdown hquiet (dismiss name hsame)
              dsimp only
              generalize
                Keeper.restore shutdown quiet { left.release name with active := none } = r,
                Keeper.restore shutdown other { remains.release name with active := none } = s
                at hrestored ⊢
              cases hrestored with
              | ok hsame => exact .error hsame
              | error hsame => exact .error hsame

theorem safe_close (name : String) (hsame : Same R k l) :
    Same R (k.safeClose name) (l.safeClose name) := by
  have hactive := set_active h name (h.asked true) hsame
  unfold safeClose
  generalize setActive name true k = r, setActive name true l = s at hactive ⊢
  cases hactive with
  | error hsame => exact hsame
  | @ok _ k l hsame =>
      have hclosed := close_active h true (h.asked true) hsame
      dsimp only
      generalize closeActive true true k = r, closeActive true true l = s at hclosed ⊢
      cases hclosed with
      | ok hsame => exact hsame
      | error hsame => exact hsame

theorem close_each (order : List String) (hsame : Same R k l) :
    Same R (k.closeEach order) (l.closeEach order) := by
  induction order generalizing k l with
  | nil => exact hsame
  | cons name order ih => exact ih (safe_close h name hsame)

theorem destroy_in (order : List String) (hsame : Same R k l) :
    Same R (k.destroyIn order) (l.destroyIn order) := by
  have hclosed := safe_close h defaultName (close_each h order hsame)
  rw [← close_default_eq, ← close_default_eq] at hclosed
  unfold destroyIn
  generalize (k.closeEach order).closeDefault = k, (l.closeEach order).closeDefault = l
    at hclosed ⊢
  obtain ⟨console, hconsole⟩ := hclosed
  exact .mk k.abandon console hconsole

/-! ## Connecting and acting -/

theorem connect_default (expired noAuth plain : Bool) (hsame : Same R k l) :
    Paired (Same R) (connectDefault expired noAuth plain k)
      (connectDefault expired noAuth plain l) := by
  obtain ⟨console, hconsole⟩ := hsame
  have hconnecting := h.verbosely "Connecting...\n" hconsole
  cases hsession : k.sessions.get? defaultName with
  | none =>
      rw [connect_default_of_absent hsession,
        connect_default_of_absent (k := { k with console }) hsession]
      exact .error (.mk (k.printVerbose "Connecting...\n") _ hconnecting)
  | some session =>
      rcases hconnect : Session.connect k.options (!noAuth)
          (prepareDefault k.options k.world expired plain session, k.world) with
        ⟨_, left, world⟩ | ⟨e, left, world⟩
      · rw [connect_default_of_ok hsession hconnect,
          connect_default_of_ok (k := { k with console }) hsession hconnect]
        exact .ok (.mk { k with
          published := _, console := _, sessions := _, ledger := _, world } _
          (h.verbosely _ hconnecting))
      · rw [connect_default_of_error hsession hconnect,
          connect_default_of_error (k := { k with console }) hsession hconnect]
        exact .error (.mk { k with console := _, sessions := _, ledger := _, world } _ hconnecting)

theorem create (name user password schema : String) (noTls : Bool) (hsame : Same R k l) :
    Paired (Same R) (Keeper.create name user password schema noTls k)
      (Keeper.create name user password schema noTls l) := by
  obtain ⟨console, hconsole⟩ := hsame
  have hconnecting := h.print "connecting...\n" hconsole
  cases hname : k.sessions.contains name with
  | true =>
      rw [create_of_present hname, create_of_present (k := { k with console }) hname]
      exact .error (.mk k console hconsole)
  | false =>
      rcases hconnect : Session.connect (namedOptions k.options user password schema noTls)
          (user != noAuthUser) (k.prepared user password schema noTls) with
        ⟨_, left, world⟩ | ⟨e, left, world⟩
      · rw [create_of_ok hname hconnect, create_of_ok (k := { k with console }) hname hconnect]
        exact .ok (.mk { k with
          published := _, console := _, sessions := _, active := _, ledger := _, world } _
          (h.verbosely _ (h.print _ hconnecting)))
      · rw [create_of_error hname hconnect,
          create_of_error (k := { k with console }) hname hconnect]
        exact .error (.mk { k with console := _, ledger := _, retired := _, world } _ hconnecting)

omit h [Session σ ω] in
theorem on_active {α : Type} (act : EStateM SessionError σ α) (hsame : Same R k l) :
    Paired (Same R) (onActive act k) (onActive act l) := by
  obtain ⟨console, hconsole⟩ := hsame
  unfold onActive
  rw [show Keeper.activeName { k with console } = k.activeName from rfl]
  cases k.activeName with
  | none => exact .error (.mk k console hconsole)
  | some name =>
      dsimp only
      cases k.sessions.get? name with
      | none => exact .error (.mk k console hconsole)
      | some session =>
          dsimp only
          cases act session with
          | ok a left => exact .ok (.mk { k with sessions := _ } console hconsole)
          | error e left => exact .error (.mk { k with sessions := _ } console hconsole)

/-! ## Runs -/

omit h [Session σ ω] in
theorem silently {act seen : EStateM KeeperError (Keeper σ ω) Unit}
    (hact : Paired (Same R) (act k) (seen l)) :
    Paired (Same R) (Keeper.silently act k) (Keeper.silently seen l) := by
  unfold Keeper.silently
  generalize act k = r, seen l = s at hact ⊢
  cases hact with
  | ok hsame => exact .ok hsame
  | error hsame => exact .error hsame

/-- The same call to keepers that differ in their consoles returns the same, and leaves keepers that
differ in their consoles. -/
theorem perform {operation call : Operation} (hcall : operation.Same Q call)
    (hsame : Same R k l) : Paired (Same R) (perform operation k) (perform call l) := by
  cases hcall with
  | setActive name hquiet => exact silently (set_active h name hquiet hsame)
  | closeActive shutdown hquiet => exact silently (close_active h shutdown hquiet hsame)
  | refl =>
      cases operation with
      | connectDefault expired noAuth plain =>
          exact silently (connect_default h expired noAuth plain hsame)
      | create name user password schema noTls =>
          exact silently (create h name user password schema noTls hsame)
      | setActive name quiet => exact silently (set_active h name (h.asked quiet) hsame)
      | abortActive => exact silently (abort_active h hsame)
      | closeActive shutdown quiet =>
          exact silently (close_active h shutdown (h.asked quiet) hsame)
      | safeClose name => exact .ok (safe_close h name hsame)
      | destroy arrangement =>
          have hnamed : l.namedSessions = k.namedSessions := by
            rw [hsame.eq]
            rfl
          simp only [Keeper.perform, hnamed]
          exact .ok (destroy_in h _ hsame)
      | send message => exact silently (on_active (Channel.send message) hsame)
      | receive =>
          have hreceive : Paired (Same R) (receive k) (receive l) :=
            on_active Channel.receive hsame
          simp only [Keeper.perform]
          generalize receive k = r, receive l = s at hreceive ⊢
          cases hreceive with
          | ok hsame => exact .ok hsame
          | error hsame => exact .error hsame
      | closeTransport =>
          exact silently (on_active (fun session => .ok () (Channel.close session)) hsame)

/-- Runs of the same calls agree at every call. -/
theorem history {operations calls : List Operation}
    (hcalls : List.Forall₂ (Operation.Same Q) operations calls) (hsame : Same R k l) :
    List.Forall₂ (Paired (Same R)) (k.history operations) (l.history calls) := by
  induction hcalls generalizing k l with
  | nil => exact .nil
  | cons hcall _ ih =>
      have hstep := perform h hcall hsame
      exact .cons hstep (ih hstep.state)

end Same

/-- Making a keeper says nothing. -/
theorem same_new (options : Options) (world : ω) {console shown : Console}
    (hconsole : R console shown) :
    Same R (new options console world : Keeper σ ω) (new options shown world) := by
  have hsame : new options shown world =
      { (new options console world : Keeper σ ω) with console := shown } := by simp only [new]
  rw [hsame]
  exact .mk (new options console world) shown hconsole

/-- Two runs of the same calls, on consoles that differ in whether they are verbose, and with any of
the calls that switch and close asked to be quiet or not: every call returns the same in both and
leaves the same keeper, with the same sessions in the same states, but for what is on the console.
If the first console is verbose only if the second one is, and the first run is asked to be quiet
wherever the second one is, then what the first run has printed is at every point a part of what the
second run has. -/
theorem quietness_shows_on_console_only (options : Options) (console : Console) (world : ω)
    (verbose other : Bool) {operations calls : List Operation}
    (hcalls : List.Forall₂ (Operation.Same fun _ _ => True) operations calls) :
    let start : Keeper σ ω := new options { console with verbose } world
    let begun : Keeper σ ω := new options { console with verbose := other } world
    List.Forall₂
        (fun r s => r.outcome = s.outcome ∧ s.state = { r.state with console := s.state.console })
        (start.history operations) (begun.history calls) ∧
      ((verbose = true → other = true) →
        List.Forall₂ (Operation.Same fun quiet asked => asked = true → quiet = true) operations
          calls →
        List.Forall₂ (fun r s => r.state.console.printed.Sublist s.state.console.printed)
          (start.history operations) (begun.history calls)) := by
  intro start begun
  constructor
  · have hstart : Same (fun _ _ => True) start begun := same_new options world trivial
    exact (Same.history Hushing.any hcalls hstart).imp fun r s h => ⟨h.outcome_eq, h.state.eq⟩
  · intro hverbose hquieter
    have hstart : Same Console.Quieter start begun :=
      same_new options world ⟨hverbose, List.Sublist.refl _⟩
    exact (Same.history Hushing.quieter hquieter hstart).imp fun r s h => h.state.console.printed

/-- A session whose server refuses the farewell is left and closed, in a quiet run and in a verbose
one. The quiet run prints three things, and the verbose one eight. -/
theorem quiet_run_of_refused_farewell :
    let script : Script := { Script.standard 2 with replies := [.ok .capabilities] }
    let start : Keeper Scripted Scripts := new {} ⟨false, []⟩ ⟨[(2, script)], 0⟩
    let begun : Keeper Scripted Scripts := new {} ⟨true, []⟩ ⟨[(2, script)], 0⟩
    let first : Operation := .create "a" "" "" "" false
    let operations : List Operation :=
      [first, .setActive "" true, .setActive "a" false, .closeActive false true]
    let calls : List Operation :=
      [first, .setActive "" false, .setActive "a" false, .closeActive false false]
    List.Forall₂ (Operation.Same fun _ _ => True) operations calls ∧
      List.Forall₂ (Operation.Same fun quiet asked => asked = true → quiet = true) operations
        calls ∧
      List.Forall₂
        (fun r s => r.outcome = s.outcome ∧ s.state = { r.state with console := s.state.console })
        (start.history operations) (begun.history calls) ∧
      List.Forall₂ (fun r s => r.state.console.printed.Sublist s.state.console.printed)
        (start.history operations) (begun.history calls) ∧
      (start.run operations).console.printed.length = 3 ∧
      (begun.run calls).console.printed.length = 8 := by
  intro script start begun first operations calls
  have hcalls : List.Forall₂ (Operation.Same fun _ _ => True) operations calls :=
    .cons (.refl _) (.cons (.setActive "" trivial) (.cons (.refl _)
      (.cons (.closeActive false trivial) .nil)))
  have hquieter : List.Forall₂
      (Operation.Same fun quiet asked => asked = true → quiet = true) operations calls :=
    .cons (.refl _) (.cons (.setActive "" nofun) (.cons (.refl _)
      (.cons (.closeActive false nofun) .nil)))
  obtain ⟨hsame, hprinted⟩ := quietness_shows_on_console_only (σ := Scripted) {} ⟨false, []⟩
    ⟨[(2, script)], 0⟩ false true hcalls
  exact ⟨hcalls, hquieter, hsame, hprinted nofun hquieter, by decide, by decide⟩

end Keeper

end SessionKeeper
