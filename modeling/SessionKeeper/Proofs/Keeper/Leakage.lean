import Mathlib.Data.List.Nodup
import SessionKeeper.Proofs.Keeper.Custody
import SessionKeeper.Proofs.Keeper.LeftOpen
import SessionKeeper.Proofs.Keeper.Transparency
import SessionKeeper.Proofs.Network.Connecting
import SessionKeeper.Session.Scripted

/-!
# No session and no transport is lost

A numbered session holds its number, and a session over the network holds the numbers of its
transports. Both are custodies, so at every point of a run every session and every transport that
there ever was can be accounted for; `nothing_is_leaked` says that those which are not registered
are closed.
-/

namespace SessionKeeper

open NetworkSession (receive send connect_of_unopened)

/-! ## Numbered sessions -/

/-- The numbers of sessions are issued as they are created. -/
theorem Numbered.custody {σ ω : Type} [Session σ ω] :
    Keeper.Custody (fun s : Numbered σ => [s.number]) (Counted.made (ω := ω)) where
  created w := by
    show ([w.made] ++ List.range w.made).Perm (List.range (w.made + 1))
    rw [List.range_succ]
    exact List.perm_append_comm
  connected o authenticate s w := by
    obtain ⟨hnumber, hmade⟩ := Numbered.connect_keeps_number o authenticate s w
    rw [Keeper.Gains, hnumber, hmade]
    exact .of_perm (List.Perm.refl _)
  closed _ := List.Perm.refl _
  sent message s := by
    show [(Numbered.pass (Channel.send message) s).state.number].Perm [s.number]
    rw [Numbered.number_pass]
  received s := by
    show [(Numbered.pass Channel.receive s).state.number].Perm [s.number]
    rw [Numbered.number_pass]
  setTls _ _ _ := rfl
  countMessages _ := rfl
  setCapability _ _ _ := rfl
  setAuthMethod _ _ := rfl
  setIpMode _ _ := rfl

/-! ## Sessions over the network -/

/-- The numbers of the transports that a session had. -/
def NetworkSession.numbers (s : NetworkSession) : List Nat :=
  s.connection.transports.map Transport.number

variable {s t : NetworkSession} {event : Event}

/-- No event opens a transport or loses one. -/
theorem Happens.numbers_eq (h : Happens s event t) : t.numbers = s.numbers := by
  cases hcurrent : s.connection.current with
  | none => rw [NetworkSession.numbers, NetworkSession.numbers, h.on_closed hcurrent]
  | some x =>
      obtain ⟨y, hleft⟩ := (Dialogue.single h).on_transport hcurrent
      have hbefore : s.connection.transports = x :: s.connection.past := by
        simp [Connection.transports, hcurrent]
      rw [NetworkSession.numbers, NetworkSession.numbers, hleft.transports, hbefore, List.map_cons,
        List.map_cons, hleft.number]

/-- The numbers of transports are issued as they are opened. -/
theorem NetworkSession.custody : Keeper.Custody NetworkSession.numbers Host.opened where
  created _ := .of_perm (List.Perm.refl _)
  connected o authenticate s h := by
    show Keeper.Gains _ _ _ _ (NetworkSession.connect o authenticate (s, h)).state
    cases hopen : Host.openTransport o s.ipMode h with
    | error e g =>
        rw [connect_of_unopened hopen]
        exact .of_perm (List.Perm.refl _)
    | ok x g =>
        obtain ⟨talk, y, hspoken⟩ := connect_spoken o authenticate hopen
        have hnumbers : (NetworkSession.connect o authenticate (s, h)).state.1.numbers =
            h.opened :: s.numbers := by
          rw [NetworkSession.numbers, hspoken.transports, List.map_cons, hspoken.number]
          rfl
        rw [Keeper.Gains, opened_of_connect o authenticate hopen, hnumbers]
        show (h.opened :: s.numbers ++ List.range h.opened).Perm
          (s.numbers ++ List.range (h.opened + 1))
        rw [List.range_succ, ← List.append_assoc]
        exact (List.perm_append_singleton _ _).symm
  closed s := by
    show ((Connection.close s.connection).transports.map Transport.number).Perm s.numbers
    rw [Connection.transports_of_close]
    exact List.Perm.refl _
  sent message s := by
    show (send message s).state.numbers.Perm s.numbers
    cases h : send message s with
    | ok _ t => rw [EStateM.Result.state_ok, (Happens.sent h).numbers_eq]
    | error e t => rw [EStateM.Result.state_error, (Happens.unsent h).numbers_eq]
  received s := by
    show (receive s).state.numbers.Perm s.numbers
    cases h : receive s with
    | ok m t =>
        have hlearned := (Happens.received h).numbers_eq
        rw [NetworkSession.numbers, NetworkSession.connection_learn] at hlearned
        rw [EStateM.Result.state_ok, NetworkSession.numbers, hlearned]
    | error e t => rw [EStateM.Result.state_error, (Happens.missed h).numbers_eq]
  setTls _ _ _ := rfl
  countMessages _ := rfl
  setCapability _ _ _ := rfl
  setAuthMethod _ _ := rfl
  setIpMode _ _ := rfl

namespace Keeper

/-! ## Where everything is -/

section Sessions

variable {σ ω : Type} [Session σ ω]

omit [Session σ ω] in
/-- If no number occurs twice, a session is registered under one name only. -/
theorem name_unique {k : Keeper (Numbered σ) ω} {name other : String} {r s : Numbered σ}
    (hnodup : (k.everySession.map Numbered.number).Nodup) (hr : k.sessions.get? name = some r)
    (hs : k.sessions.get? other = some s) (hnumber : r.number = s.number) : name = other := by
  rw [everySession, List.map_append, List.map_map] at hnodup
  have hentry : (name, r) = (other, s) :=
    List.inj_on_of_nodup_map (List.nodup_append.mp hnodup).1 (Table.mem_entries_of_get? hr)
      (Table.mem_entries_of_get? hs) hnumber
  exact congrArg Prod.fst hentry

/-- Every numbered session is kept account of: it is under exactly one name, or it was let go and is
closed. -/
theorem sessions_accounted (options : Options) (console : Console) (world : Counted ω)
    (operations : List Operation) :
    let k : Keeper (Numbered σ) (Counted ω) := (new options console world).run operations
    (k.everySession.map Numbered.number ++ List.range world.made).Perm (List.range k.world.made) ∧
      ∀ number, world.made ≤ number → number < k.world.made →
        (∃! name, ∃ session, k.sessions.get? name = some session ∧ session.number = number) ∨
          ∃ session ∈ k.retired, session.number = number ∧ Channel.isOpen session = false := by
  intro k
  have hperm : (k.holdings (fun s => [s.number]) ++ List.range world.made).Perm
      (List.range k.world.made) := Numbered.custody.run_perm options console world operations
  rw [holdings, ← List.map_eq_flatMap] at hperm
  refine ⟨hperm, fun number hfirst hlast => ?_⟩
  obtain ⟨session, hsession, hnumber⟩ :=
    Numbered.custody.exists_of_issued (σ := Numbered σ) options console operations hfirst hlast
  obtain rfl : number = session.number := List.mem_singleton.mp hnumber
  obtain hregistered | hretired := List.mem_append.mp hsession
  · obtain ⟨name, hname⟩ := Table.mem_values_iff.mp hregistered
    have hnodup : (k.everySession.map Numbered.number).Nodup :=
      (List.nodup_append.mp (hperm.nodup_iff.mpr List.nodup_range)).1
    refine .inl ⟨name, ⟨session, hname, rfl⟩, ?_⟩
    rintro other ⟨found, hfound, hsame⟩
    exact name_unique hnodup hfound hname hsame
  · exact .inr ⟨session, hretired, rfl,
      run_retired_closed options console world operations session hretired⟩

end Sessions

/-- The transports that are open. -/
def openTransports (k : Keeper NetworkSession Host) : List Transport :=
  k.everySession.filterMap fun s => s.connection.current

/-- Of the sessions that were let go none has an open transport. -/
theorem open_transports_eq {k : Keeper NetworkSession Host}
    (hclosed : ∀ s ∈ k.retired, Channel.isOpen s = false) :
    k.openTransports =
      (k.sessions.entries.map Prod.snd).filterMap fun s => s.connection.current := by
  have hnone : k.retired.filterMap (fun s => s.connection.current) = [] := by
    refine List.filterMap_eq_nil_iff.mpr fun s hs => ?_
    exact Option.not_isSome_iff_eq_none.mp (Bool.eq_false_iff.mp (hclosed s hs))
  rw [openTransports, everySession, List.filterMap_append, hnone, List.append_nil]

/-- Every transport is kept account of: it is the one of a registered session, or it was closed. -/
theorem transports_accounted (options : Options) (console : Console) (host : Host)
    (operations : List Operation) :
    let k : Keeper NetworkSession Host := (new options console host).run operations
    (k.everySession.flatMap NetworkSession.numbers ++ List.range host.opened).Perm
        (List.range k.world.opened) ∧
      (∀ number, host.opened ≤ number → number < k.world.opened →
        (∃ name s x, k.sessions.get? name = some s ∧ s.connection.current = some x ∧
            x.number = number) ∨
          ∃ s ∈ k.everySession, ∃ x ∈ s.connection.past, x.number = number) ∧
      k.openTransports.length ≤ k.sessions.size := by
  intro k
  have hclosed : ∀ s ∈ k.retired, Channel.isOpen s = false :=
    run_retired_closed options console host operations
  refine ⟨NetworkSession.custody.run_perm options console host operations,
    fun number hfirst hlast => ?_, ?_⟩
  · obtain ⟨s, hs, hnumber⟩ :=
      NetworkSession.custody.exists_of_issued options console operations hfirst hlast
    obtain ⟨x, hx, rfl⟩ := List.mem_map.mp hnumber
    obtain hcurrent | hpast := List.mem_append.mp hx
    · have hcurrent : s.connection.current = some x := Option.mem_toList.mp hcurrent
      obtain hregistered | hretired := List.mem_append.mp hs
      · obtain ⟨name, hname⟩ := Table.mem_values_iff.mp hregistered
        exact .inl ⟨name, s, x, hname, hcurrent, rfl⟩
      · -- A session that was let go has no transport any more.
        have hopen : Channel.isOpen s = true := Option.isSome_iff_exists.mpr ⟨x, hcurrent⟩
        exact absurd hopen (Bool.eq_false_iff.mp (hclosed s hretired))
    · exact .inr ⟨s, hs, x, hpast, rfl⟩
  · rw [open_transports_eq hclosed]
    refine Nat.le_trans (List.length_filterMap_le _ _) (Nat.le_of_eq ?_)
    exact List.length_map _

/-! ## After the end -/

section Destroyed

variable {σ ω : Type} [Session σ ω]

/-- Destroying a keeper leaves nothing registered and the environment as it was. -/
theorem destroyed_frame (k : Keeper σ ω) (arrangement : Arrangement) :
    (k.step (.destroy arrangement)).sessions = .empty ∧
      (k.step (.destroy arrangement)).world = k.world := by
  refine ⟨rfl, ?_⟩
  have horder := arrangement.perm k.namedSessions
  show (k.destroyIn _).world = k.world
  rw [destroy_in_eq horder]
  exact (closed_before_drain horder).world

/-- At every point between operations, whatever the sessions do, every session that was ever created
is registered under exactly one name, or it was let go and is closed; no session is there twice, and
that sessions are numbered changes nothing else.
Over the network every transport that was ever opened is the current one of a registered session, or
it was closed, so there are never more open transports than registered sessions. Once the keeper was
destroyed, every session that there ever was is closed, and no transport is open. -/
theorem nothing_is_leaked (options : Options) (console : Console) (operations : List Operation) :
    (∀ world : Counted ω,
      let k : Keeper (Numbered σ) (Counted ω) := (new options console world).run operations
      k.map Numbered.session Counted.world = (new options console world.world).run operations ∧
        (k.everySession.map Numbered.number ++ List.range world.made).Perm
          (List.range k.world.made) ∧
        (∀ number, world.made ≤ number → number < k.world.made →
          (∃! name, ∃ session, k.sessions.get? name = some session ∧ session.number = number) ∨
            ∃ session ∈ k.retired, session.number = number ∧ Channel.isOpen session = false) ∧
        ∀ arrangement number, world.made ≤ number → number < k.world.made →
          ∃ session ∈ (k.step (.destroy arrangement)).retired,
            session.number = number ∧ Channel.isOpen session = false) ∧
    ∀ host : Host,
      let k : Keeper NetworkSession Host := (new options console host).run operations
      (k.everySession.flatMap NetworkSession.numbers ++ List.range host.opened).Perm
          (List.range k.world.opened) ∧
        (∀ number, host.opened ≤ number → number < k.world.opened →
          (∃ name s x, k.sessions.get? name = some s ∧ s.connection.current = some x ∧
              x.number = number) ∨
            ∃ s ∈ k.everySession, ∃ x ∈ s.connection.past, x.number = number) ∧
        k.openTransports.length ≤ k.sessions.size ∧
        ∀ arrangement, (k.step (.destroy arrangement)).openTransports = [] := by
  constructor
  · intro world k
    obtain ⟨hperm, heach⟩ := sessions_accounted (σ := σ) options console world operations
    refine ⟨Numbered.transparent.run_new_map options console world operations, hperm, heach,
      fun arrangement number hfirst hlast => ?_⟩
    obtain ⟨hempty, hworld⟩ := destroyed_frame k arrangement
    obtain ⟨-, hdone⟩ :=
      sessions_accounted (σ := σ) options console world (operations ++ [.destroy arrangement])
    rw [run_concat] at hdone
    rw [← hworld] at hlast
    obtain ⟨name, ⟨session, hsession, -⟩, -⟩ | hclosed := hdone number hfirst hlast
    · rw [hempty] at hsession
      cases hsession
    · exact hclosed
  · intro host k
    obtain ⟨hperm, heach, hcount⟩ := transports_accounted options console host operations
    refine ⟨hperm, heach, hcount, fun arrangement => ?_⟩
    obtain ⟨hempty, -⟩ := destroyed_frame k arrangement
    have hclosed := run_retired_closed (σ := NetworkSession) options console host
      (operations ++ [.destroy arrangement])
    rw [run_concat] at hclosed
    rw [open_transports_eq hclosed, hempty]
    rfl

end Destroyed

/-- Of four sessions the third could not be connected, and the first was aborted and replaced by the
fourth; the second is still there. Over the network a transport that a failed connect leaves open is
the one of the default session. -/
theorem four_sessions_accounted :
    let refused : SessionError := ⟨Code.connectionError, "refused"⟩
    let script : Script := { Script.standard 3 with connects := [some refused] }
    let world : Counted Scripts := ⟨⟨[(3, script)], 0⟩, 0⟩
    let operations : List Operation :=
      [.connectDefault false false false, .create "a" "" "" "" false, .create "b" "" "" "" false,
        .setActive "" true, .abortActive]
    let k : Keeper (Numbered Scripted) (Counted Scripts) :=
      (new {} (Console.new false) world).run operations
    let ended := k.step (.destroy ⟨id, List.Perm.refl⟩)
    let lost : Keeper NetworkSession Host :=
      (new { socket := "s", password := "secret" } (Console.new false)
        (refusingHost [199, 19])).run [.connectDefault false false true]
    (k.world.made = 4 ∧
        ((∃! name, ∃ session, k.sessions.get? name = some session ∧ session.number = 1) ∨
          ∃ session ∈ k.retired, session.number = 1 ∧ Channel.isOpen session = false) ∧
        ∃ session ∈ ended.retired, session.number = 3 ∧ Channel.isOpen session = false) ∧
      lost.world.opened = 1 ∧
        ((∃ name s x, lost.sessions.get? name = some s ∧ s.connection.current = some x ∧
            x.number = 0) ∨
          ∃ s ∈ lost.everySession, ∃ x ∈ s.connection.past, x.number = 0) ∧
        lost.openTransports.length ≤ lost.sessions.size := by
  intro refused script world operations k ended lost
  have hmade : k.world.made = 4 := by decide
  have hopened : lost.world.opened = 1 := by decide +kernel
  obtain ⟨hsessions, -⟩ :=
    nothing_is_leaked (σ := Scripted) {} (Console.new false) operations
  obtain ⟨-, -, heach, hended⟩ := hsessions world
  obtain ⟨-, htransports⟩ :=
    nothing_is_leaked (σ := Scripted) { socket := "s", password := "secret" } (Console.new false)
      [.connectDefault false false true]
  obtain ⟨-, hopen, hcount, -⟩ := htransports (refusingHost [199, 19])
  simp only [k, ended, lost] at hmade hopened ⊢
  rw [hmade] at heach hended
  rw [hopened] at hopen
  exact ⟨⟨hmade, heach 1 (by decide) (by decide), hended _ 3 (by decide) (by decide)⟩, hopened,
    hopen 0 (by decide) (by decide), hcount⟩

end Keeper

end SessionKeeper
