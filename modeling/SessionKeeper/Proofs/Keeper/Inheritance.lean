import SessionKeeper.Proofs.Keeper.Operation
import SessionKeeper.Proofs.Keeper.Steps

/-!
# What the sessions of a keeper inherit

A property of sessions is inherited if new sessions have it and every use that an operation makes of
a session keeps it. `step_upholds` says that then every session of a keeper has it after an
operation, the ones that were let go included, and likewise a property of the environment.
-/

namespace SessionKeeper.Keeper

open Closing (departed)

variable {σ ω : Type} {G : σ → Prop} {W : ω → Prop} {o : Options} {k : Keeper σ ω} {name : String}

/-- Every session is registered or was let go. -/
theorem mem_every_session_iff {session : σ} :
    session ∈ k.everySession ↔
      (∃ name, k.sessions.get? name = some session) ∨ session ∈ k.retired := by
  rw [everySession, List.mem_append, Table.mem_values_iff]

/-- A keeper has its options, and its sessions and its environment have their property. -/
structure Upholds (o : Options) (G : σ → Prop) (W : ω → Prop) (k : Keeper σ ω) : Prop where
  options : k.options = o
  registered : ∀ name session, k.sessions.get? name = some session → G session
  retired : ∀ session ∈ k.retired, G session
  world : W k.world

theorem Upholds.every_session (h : k.Upholds o G W) : ∀ session ∈ k.everySession, G session := by
  intro session hmem
  obtain ⟨name, hname⟩ | hmem := mem_every_session_iff.mp hmem
  · exact h.registered name session hname
  · exact h.retired session hmem

/-- A property that follows from the one upheld is upheld, too. -/
theorem Upholds.mono {H : σ → Prop} (h : k.Upholds o G W)
    (himp : ∀ session, G session → H session) :
    k.Upholds o H W :=
  ⟨h.options, fun name session hname => himp session (h.registered name session hname),
    fun session hmem => himp session (h.retired session hmem), h.world⟩

/-- Putting a session with the property under a name. -/
theorem Upholds.insert (h : k.Upholds o G W) {session : σ} (hsession : G session) :
    ∀ other found, (k.sessions.insert name session).get? other = some found → G found := by
  intro other found hfound
  rw [Table.get?_insert] at hfound
  split at hfound
  · cases hfound
    exact hsession
  · exact h.registered other found hfound

/-- Taking a session out. -/
theorem Upholds.erase (h : k.Upholds o G W) :
    ∀ other found, (k.sessions.erase name).get? other = some found → G found := by
  intro other found hfound
  rw [Table.get?_erase] at hfound
  split at hfound
  · cases hfound
  · exact h.registered other found hfound

variable [Session σ ω]

omit [Session σ ω] in
/-- Taking leave keeps the property. -/
structure Parting [Channel σ] (G : σ → Prop) : Prop where
  closed : ∀ session, G session → G (Channel.close session)
  received : ∀ session, G session → G (Channel.receive session).state
  farewell : ∀ session, G session → G (Channel.send .close session).state

/-- What an operation does with sessions keeps the property of sessions and that of the
environment. -/
structure Inherited (o : Options) (G : σ → Prop) (W : ω → Prop) (k : Keeper σ ω)
    (operation : Operation) : Prop extends Parting G where
  created : G (Session.create k.world : σ × ω).1 ∧ W (Session.create k.world : σ × ω).2
  sent : ∀ message session, operation = .send message → G session →
    G (Channel.send message session).state
  connected : ∀ expired noAuth plain session, operation = .connectDefault expired noAuth plain →
    G session →
      let result := Session.connect o (!noAuth)
        (prepareDefault o k.world expired plain session, k.world)
      G result.state.1 ∧ W result.state.2
  named : ∀ name user password schema noTls, operation = .create name user password schema noTls →
    k.sessions.contains name = false →
      let result := Session.connect (namedOptions o user password schema noTls) (user != noAuthUser)
        (k.prepared user password schema noTls)
      G result.state.1 ∧ W result.state.2

variable {operation : Operation}

omit [Session σ ω] in
/-- A session that took leave inherits the property. -/
theorem Parting.departed [Channel σ] (h : Parting G) {session : σ} (hsession : G session)
    (wait : Bool) : G (departed wait session) := by
  have hsent := h.farewell session hsession
  unfold Closing.departed
  cases Channel.isOpen session with
  | false => exact hsession
  | true =>
      simp only [if_true]
      cases hsend : Channel.send .close session with
      | error e q =>
          rw [hsend] at hsent
          exact h.closed _ hsent
      | ok _ q =>
          rw [hsend] at hsent
          have hreceived := h.received q hsent
          simp only
          cases hreceive : Channel.receive q with
          | error e r =>
              rw [hreceive] at hreceived
              exact h.closed _ hreceived
          | ok reply r =>
              rw [hreceive] at hreceived
              -- After a confirmed farewell the session may wait for the disconnect once more.
              refine h.closed _ ?_
              split
              · exact h.received r hreceived
              · exact hreceived

/-- A new keeper upholds what its default session and its environment have. -/
theorem new_upholds (o : Options) (console : Console) (world : ω)
    (hsession : G (Session.create world : σ × ω).1) (hworld : W (Session.create world : σ × ω).2) :
    (new o console world).Upholds o G W where
  options := rfl
  registered name session hname := by
    simp only [new, Table.get?_insert] at hname
    split at hname
    · cases hname
      exact hsession
    · cases hname
  retired := nofun
  world := hworld

/-! ## The operations -/

variable (hk : k.Upholds o G W)
include hk

theorem set_active_upholds (name : String) (quiet : Bool) :
    (setActive name quiet k).state.Upholds o G W := by
  cases h : k.sessions.get? name with
  | none =>
      rw [set_active_of_absent h]
      exact hk
  | some session =>
      rw [set_active_of_get? h]
      exact ⟨hk.options, hk.registered, hk.retired, hk.world⟩

omit [Session σ ω] in
theorem on_active_upholds {α : Type} {act : EStateM SessionError σ α}
    (hact : ∀ session, G session → G (act session).state) :
    (onActive act k).state.Upholds o G W := by
  obtain ⟨-, hstate⟩ | ⟨name, session, -, h, hstate⟩ := on_active_state (k := k) act
  · rw [hstate]
    exact hk
  · rw [hstate]
    exact ⟨hk.options, hk.insert (hact session (hk.registered name session h)), hk.retired,
      hk.world⟩

theorem connect_default_upholds {expired noAuth plain : Bool}
    (h : Inherited o G W k (.connectDefault expired noAuth plain)) :
    (connectDefault expired noAuth plain k).state.Upholds o G W := by
  cases hsession : k.sessions.get? defaultName with
  | none =>
      rw [connect_default_of_absent hsession]
      exact ⟨hk.options, hk.registered, hk.retired, hk.world⟩
  | some session =>
      obtain ⟨hleft, hworld⟩ :=
        h.connected expired noAuth plain session rfl (hk.registered _ _ hsession)
      rw [← hk.options] at hleft hworld
      rcases hconnect : Session.connect k.options (!noAuth)
          (prepareDefault k.options k.world expired plain session, k.world) with
        ⟨_, left, world⟩ | ⟨e, left, world⟩
      · rw [hconnect] at hleft hworld
        rw [connect_default_of_ok hsession hconnect]
        exact ⟨hk.options, hk.insert hleft, hk.retired, hworld⟩
      · rw [hconnect] at hleft hworld
        rw [connect_default_of_error hsession hconnect]
        refine ⟨hk.options, hk.insert ?_, hk.retired, hworld⟩
        split
        · exact hleft
        · exact h.closed _ hleft

theorem create_upholds {name user password schema : String} {noTls : Bool}
    (h : Inherited o G W k (.create name user password schema noTls)) :
    (create name user password schema noTls k).state.Upholds o G W := by
  cases hname : k.sessions.contains name with
  | true =>
      rw [create_of_present hname]
      exact hk
  | false =>
      obtain ⟨hleft, hworld⟩ := h.named name user password schema noTls rfl hname
      rw [← hk.options] at hleft hworld
      rcases hconnect : Session.connect (namedOptions k.options user password schema noTls)
          (user != noAuthUser) (k.prepared user password schema noTls) with
        ⟨_, left, world⟩ | ⟨e, left, world⟩
      · rw [hconnect] at hleft hworld
        rw [create_of_ok hname hconnect]
        exact ⟨hk.options, hk.insert hleft, hk.retired, hworld⟩
      · rw [hconnect] at hleft hworld
        rw [create_of_error hname hconnect]
        exact ⟨hk.options, hk.registered,
          List.forall_mem_cons.mpr ⟨h.closed _ hleft, hk.retired⟩, hworld⟩

theorem abort_active_upholds (h : Inherited o G W k operation) :
    (abortActive k).state.Upholds o G W := by
  cases hname : k.activeName with
  | none =>
      simp only [abortActive, hname]
      exact hk
  | some name =>
      obtain ⟨session, hsession⟩ := exists_of_active_name hname
      have hclosed := h.closed session (hk.registered name session hsession)
      have hretired := List.forall_mem_cons.mpr ⟨hclosed, hk.retired⟩
      -- Unlike a named session, the default one is replaced by a new one.
      by_cases hnamed : name = defaultName
      · subst hnamed
        rw [abort_active_of_default hname hsession]
        refine ⟨hk.options, fun other found hfound => ?_, hretired, h.created.2⟩
        simp only [EStateM.Result.state_ok, Table.get?_insert] at hfound
        split at hfound
        · cases hfound
          exact h.created.1
        · exact hk.erase other found hfound
      · have haborted : (k.aborted name session).Upholds o G W :=
          ⟨hk.options, hk.erase, hretired, hk.world⟩
        rw [abort_active_of_named hname hnamed hsession]
        exact set_active_upholds haborted _ _

theorem dismissed_upholds (h : Parting G) {session : σ} (hsession : G session)
    (name : String) (console : Console) : (k.dismissed name session console).Upholds o G W where
  options := hk.options
  registered := hk.erase
  retired := List.forall_mem_cons.mpr ⟨h.closed _ (h.departed hsession _), hk.retired⟩
  world := hk.world

theorem close_active_upholds (h : Parting G) (shutdown quiet : Bool) :
    (closeActive shutdown quiet k).state.Upholds o G W := by
  cases hname : k.activeName with
  | none =>
      rw [close_active_of_none hname]
      exact hk
  | some name =>
      obtain ⟨session, hsession⟩ := exists_of_active_name hname
      by_cases hclosable : name ≠ defaultName ∨ shutdown = true
      · obtain ⟨console, -, -, hstate⟩ := close_active_eq quiet hname hsession hclosable
        have hdismissed :=
          dismissed_upholds hk h (hk.registered name session hsession) name console
        rw [hstate]
        cases shutdown with
        | true => exact hdismissed
        | false => exact set_active_upholds hdismissed _ _
      · obtain ⟨rfl, rfl⟩ : name = defaultName ∧ shutdown = false := by simpa using hclosable
        rw [close_active_of_default hname]
        exact hk

theorem safe_close_upholds (h : Parting G) (name : String) :
    (k.safeClose name).Upholds o G W := by
  cases hsession : k.sessions.get? name with
  | none =>
      rw [safe_close_of_absent hsession]
      exact hk
  | some session =>
      rw [safe_close_eq hsession]
      obtain ⟨hoptions, hregistered, hretired, hworld⟩ :=
        dismissed_upholds hk h (hk.registered name session hsession) name k.console
      exact ⟨hoptions, hregistered, hretired, hworld⟩

theorem destroy_in_upholds (h : Parting G) (order : List String) :
    (k.destroyIn order).Upholds o G W := by
  have heach : (k.closeEach order).Upholds o G W := by
    unfold closeEach
    induction order generalizing k with
    | nil => exact hk
    | cons name order ih => exact ih (safe_close_upholds hk h name)
  have hdefault : (k.closeEach order).closeDefault.Upholds o G W := by
    unfold closeDefault
    split
    · exact safe_close_upholds heach h defaultName
    · exact heach
  refine ⟨hdefault.options, nofun, fun session hmem => ?_, hdefault.world⟩
  obtain hmem | hmem := List.mem_append.mp hmem
  · obtain ⟨entry, hentry, rfl⟩ := List.mem_map.mp hmem
    have hfound := Table.get?_of_mem_entries (show (entry.1, entry.2) ∈ _ from hentry)
    exact h.closed _ (hdefault.registered _ _ hfound)
  · exact hdefault.retired session hmem

/-- What is inherited holds of every session after an operation. -/
theorem step_upholds (h : Inherited o G W k operation) : (k.step operation).Upholds o G W := by
  have hparting := h.toParting
  cases operation with
  | connectDefault expired noAuth plain =>
      rw [step, perform, state_silently]
      exact connect_default_upholds hk h
  | create name user password schema noTls =>
      rw [step, perform, state_silently]
      exact create_upholds hk h
  | setActive name quiet =>
      rw [step, perform, state_silently]
      exact set_active_upholds hk name quiet
  | abortActive =>
      rw [step, perform, state_silently]
      exact abort_active_upholds hk h
  | closeActive shutdown quiet =>
      rw [step, perform, state_silently]
      exact close_active_upholds hk hparting shutdown quiet
  | safeClose name => exact safe_close_upholds hk hparting name
  | destroy arrangement => exact destroy_in_upholds hk hparting _
  | send message =>
      rw [step, perform, state_silently]
      exact on_active_upholds hk fun session => h.sent message session rfl
  | receive =>
      rw [step_receive]
      exact on_active_upholds hk h.received
  | closeTransport =>
      rw [step, perform, state_silently]
      exact on_active_upholds hk h.closed

end SessionKeeper.Keeper
