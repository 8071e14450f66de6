import Mathlib.Data.List.Induction
import Mathlib.Data.List.Perm.Basic
import SessionKeeper.Proofs.Keeper.Inheritance
import SessionKeeper.Proofs.Keeper.Treatment

/-!
# What sessions hold

Numbers are issued in an environment and held by sessions. `Custody` says that a session gets the
numbers that are issued while it is created or connected, and keeps them whatever else happens to
it. Then no number is lost and none is held twice: `Custody.run_perm` says that after every run the
sessions of a keeper, those that were let go included, hold exactly the numbers that were issued.
-/

namespace SessionKeeper

/-- What is held has changed by the numbers that were issued from the first to the last. -/
def Settles (before : List Nat) (first : Nat) (after : List Nat) (last : Nat) : Prop :=
  (after ++ List.range first).Perm (before ++ List.range last)

namespace Settles

variable {before middle after old new : List Nat} {first next last : Nat}

theorem of_perm (h : after.Perm before) : Settles before first after first :=
  h.append_right _

theorem perm_of_same (h : Settles before first after first) : after.Perm before :=
  (List.perm_append_right_iff _).mp h

theorem trans (h : Settles before first middle next) (hlater : Settles middle next after last) :
    Settles before first after last := by
  simp only [Settles, List.perm_iff_count, List.count_append] at h hlater ⊢
  intro number
  have hfirst := h number
  have hlast := hlater number
  omega

/-- What others hold does not matter. -/
theorem among (h : Settles old first new last) (others : List Nat)
    (hbefore : before.Perm (old ++ others)) (hafter : after.Perm (new ++ others)) :
    Settles before first after last := by
  simp only [Settles, List.perm_iff_count, List.count_append] at h hbefore hafter ⊢
  intro number
  have hcount := h number
  have hold := hbefore number
  have hnew := hafter number
  omega

end Settles

namespace Table

variable {α : Type} {t : Table α} {name : String} {value : α}

/-- What the values hold is what one of them holds and what the others do. -/
theorem flatMap_values_perm (f : α → List Nat) (h : t.get? name = some value) :
    ((t.entries.map Prod.snd).flatMap f).Perm
      (f value ++ ((t.erase name).entries.map Prod.snd).flatMap f) :=
  (values_perm h).flatMap_right f

theorem flatMap_values_insert_perm (f : α → List Nat) (t : Table α) (name : String) (value : α) :
    (((t.insert name value).entries.map Prod.snd).flatMap f).Perm
      (f value ++ ((t.erase name).entries.map Prod.snd).flatMap f) :=
  (values_insert_perm t name value).flatMap_right f

end Table

namespace Keeper

open Closing (departed)

variable {σ ω : Type} {held : σ → List Nat} {issued : ω → Nat} {k next : Keeper σ ω}
  {operation : Operation} {o : Options}

/-- The numbers that the sessions of a keeper hold, the ones that were let go included. -/
def holdings (held : σ → List Nat) (k : Keeper σ ω) : List Nat :=
  k.everySession.flatMap held

theorem holdings_eq (held : σ → List Nat) (k : Keeper σ ω) :
    k.holdings held =
      (k.sessions.entries.map Prod.snd).flatMap held ++ k.retired.flatMap held :=
  List.flatMap_append

/-- The session that is left holds the numbers that were held before and those that were issued
since. -/
def Gains (held : σ → List Nat) (issued : ω → Nat) (before : List Nat) (w : ω) (left : σ × ω) :
    Prop :=
  Settles before (issued w) (held left.1) (issued left.2)

variable [Session σ ω]

/-- Sessions hold the numbers that were issued while they were created and connected. -/
structure Custody (held : σ → List Nat) (issued : ω → Nat) : Prop where
  created : ∀ w, Gains held issued [] w (Session.create w)
  connected : ∀ o authenticate session w,
    Gains held issued (held session) w (Session.connect o authenticate (session, w)).state
  closed : ∀ session, (held (Channel.close session)).Perm (held session)
  sent : ∀ message session, (held (Channel.send message session).state).Perm (held session)
  received : ∀ session, (held (Channel.receive session).state).Perm (held session)
  setTls : ∀ w o session, held (Session.setTls w o session) = held session
  countMessages : ∀ session, held (Session.countMessages session) = held session
  setCapability : ∀ c value session, held (Session.setCapability c value session) = held session
  setAuthMethod : ∀ method session, held (Session.setAuthMethod method session) = held session
  setIpMode : ∀ mode session, held (Session.setIpMode mode session) = held session

namespace Custody

variable (custody : Custody held issued)
include custody

/-- Taking leave changes nothing about what is held. -/
theorem departed (wait : Bool) (session : σ) :
    (held (departed wait session)).Perm (held session) := by
  have hparting : Parting fun left => (held left).Perm (held session) :=
    ⟨fun left h => (custody.closed left).trans h, fun left h => (custody.received left).trans h,
      fun left h => (custody.sent .close left).trans h⟩
  exact hparting.departed (List.Perm.refl _) wait

/-- A session that an operation targets gets the numbers that are issued meanwhile. -/
theorem treated (o : Options) (operation : Operation) (session : σ) (w : ω) :
    Gains held issued (held session) w (treat o operation (session, w)) := by
  cases operation with
  | connectDefault expired noAuth plain =>
      have hprepared : held (prepareDefault o w expired plain session) = held session := by
        cases expired <;>
          simp [prepareDefault, custody.setTls, custody.countMessages, custody.setCapability,
            custody.setAuthMethod, custody.setIpMode]
      have hconnected :=
        custody.connected o (!noAuth) (prepareDefault o w expired plain session) w
      rw [hprepared] at hconnected
      rcases hconnect : Session.connect o (!noAuth)
          (prepareDefault o w expired plain session, w) with ⟨_, left, world⟩ | ⟨e, left, world⟩
      · rw [hconnect] at hconnected
        simp only [treat, hconnect]
        exact hconnected
      · rw [hconnect] at hconnected
        have hkept : (held (if keepsTransport e noAuth then left else Channel.close left)).Perm
            (held left) := by
          split
          · exact List.Perm.refl _
          · exact custody.closed left
        simp only [treat, hconnect]
        exact hconnected.trans (.of_perm hkept)
  | send message => exact .of_perm (custody.sent message session)
  | receive => exact .of_perm (custody.received session)
  | closeTransport | abortActive => exact .of_perm (custody.closed session)
  | closeActive | safeClose | destroy =>
      exact .of_perm ((custody.closed _).trans (custody.departed _ session))
  | create | setActive => exact .of_perm (List.Perm.refl _)

/-- A session that is let go holds what it held. -/
theorem let_go (o : Options) (hdismisses : operation.dismisses = true) (session : σ) (w : ω) :
    (held (treat o operation (session, w)).1).Perm (held session) := by
  have htreated := custody.treated o operation session w
  rw [Gains, world_treat_of_dismisses hdismisses] at htreated
  exact htreated.perm_of_same

/-- A session that is created and connected gets the numbers that are issued meanwhile. -/
theorem attempted (user password schema : String) (noTls : Bool) :
    Gains held issued [] k.world (k.attempt user password schema noTls).state := by
  have hcreated : Gains held issued [] k.world (Session.create k.world) :=
    custody.created k.world
  have hprepared : held (k.prepared user password schema noTls).1 =
      held (Session.create k.world : σ × ω).1 := by
    simp [prepared, prepareNamed, custody.setTls, custody.countMessages, custody.setIpMode]
  rw [Gains, ← hprepared] at hcreated
  exact hcreated.trans (custody.connected _ _ _ _)

/-- Whatever an operation does to sessions, they hold the numbers that were issued. -/
theorem turnover (h : Turnover k operation next) :
    Settles (k.holdings held) (issued k.world) (next.holdings held) (issued next.world) := by
  let others (name : String) : List Nat :=
    ((k.sessions.erase name).entries.map Prod.snd).flatMap held ++ k.retired.flatMap held
  have hheld : ∀ name session, k.sessions.get? name = some session →
      (k.holdings held).Perm (held session ++ others name) := by
    intro name session hsession
    rw [holdings_eq, ← List.append_assoc]
    exact (Table.flatMap_values_perm held hsession).append_right _
  cases h with
  | idle _ hsessions hretired hworld =>
      rw [hworld, holdings_eq, holdings_eq, hsessions, hretired]
      exact .of_perm (List.Perm.refl _)
  | used name session _ _ hsession hsessions hretired hworld =>
      rw [hworld, holdings_eq held next, hsessions, hretired]
      refine (custody.treated k.options operation session k.world).among (others name)
        (hheld name session hsession) ?_
      rw [← List.append_assoc]
      exact (Table.flatMap_values_insert_perm held _ _ _).append_right _
  | dismissed name session _ hdismisses hsession hsessions hretired hworld =>
      have hleft := custody.let_go k.options hdismisses session k.world
      rw [hworld, holdings_eq held next, hsessions, hretired, List.flatMap_cons]
      exact (Settles.of_perm hleft).among (others name) (hheld name session hsession)
        (List.perm_append_comm_assoc _ _ _)
  | renewed session _ hdismisses hsession hsessions hretired hworld =>
      have hleft := custody.let_go k.options hdismisses session k.world
      -- Beside the session that is let go, the new one takes the place of nothing.
      have hboth := (Settles.of_perm hleft).trans
        ((custody.created k.world).among _ (List.Perm.refl _) (List.Perm.refl _))
      have herased : (k.sessions.erase defaultName).erase defaultName =
          k.sessions.erase defaultName :=
        Table.erase_of_absent (by rw [Table.get?_erase, if_pos rfl])
      have hvalues := Table.flatMap_values_insert_perm held (k.sessions.erase defaultName)
        defaultName (Session.create k.world : σ × ω).1
      rw [herased] at hvalues
      rw [hworld, holdings_eq held next, hsessions, hretired, List.flatMap_cons]
      refine hboth.among (others defaultName) (hheld defaultName session hsession) ?_
      refine (hvalues.append_right _).trans ?_
      rw [List.append_assoc, List.append_assoc]
      exact (List.perm_append_comm_assoc _ _ _).append_left _
  | entered name user password schema noTls _ hnew hsessions hretired hworld =>
      have hvalues := Table.flatMap_values_insert_perm held k.sessions name
        (k.attempt user password schema noTls).state.1
      rw [Table.erase_of_absent hnew] at hvalues
      rw [hworld, holdings_eq held next, hsessions, hretired]
      refine (custody.attempted user password schema noTls).among (k.holdings held)
        (List.Perm.refl _) ?_
      rw [holdings_eq, ← List.append_assoc]
      exact hvalues.append_right _
  | missed _ user password schema noTls _ hsessions hretired hworld =>
      have hclosed := (custody.attempted (k := k) user password schema noTls).trans
        (.of_perm (custody.closed _))
      rw [hworld, holdings_eq held next, hsessions, hretired, List.flatMap_cons]
      refine hclosed.among (k.holdings held) (List.Perm.refl _) ?_
      rw [holdings_eq]
      exact List.perm_append_comm_assoc _ _ _
  | ended _ hoperation hsessions hretired hworld =>
      have hdismisses : operation.dismisses = true := by
        rw [hoperation]
        rfl
      rw [hworld, holdings_eq, holdings_eq, hsessions]
      refine .of_perm ((hretired.flatMap_right held).trans ?_)
      rw [List.flatMap_append, List.flatMap_map]
      refine List.Perm.append_right _ (List.Perm.flatMap_left _ fun session _ => ?_)
      exact custody.let_go k.options hdismisses session k.world

/-- Along a run the sessions get the numbers that are issued. -/
theorem run (operations : List Operation) :
    Settles (k.holdings held) (issued k.world) ((k.run operations).holdings held)
      (issued (k.run operations).world) := by
  induction operations generalizing k with
  | nil => exact .of_perm (List.Perm.refl _)
  | cons operation operations ih =>
      exact (custody.turnover (step_turnover operation)).trans (ih (k := k.step operation))

/-- After every run the sessions hold the numbers that were issued since the beginning, each of them
once. -/
theorem run_perm (options : Options) (console : Console) (world : ω)
    (operations : List Operation) :
    let k : Keeper σ ω := (new options console world).run operations
    (k.holdings held ++ List.range (issued world)).Perm (List.range (issued k.world)) := by
  have hnew : (new options console world : Keeper σ ω).holdings held =
      held (Session.create world : σ × ω).1 := by
    rw [holdings_eq]
    exact (List.append_nil _).trans (List.append_nil _)
  have hcreated : Settles [] (issued world) ((new options console world : Keeper σ ω).holdings held)
      (issued (new options console world : Keeper σ ω).world) := by
    rw [hnew]
    exact custody.created world
  exact hcreated.trans (custody.run operations)

/-- What was issued is held by someone. -/
theorem exists_of_issued (options : Options) (console : Console) {world : ω}
    (operations : List Operation) {number : Nat} (hfirst : issued world ≤ number)
    (hlast : number < issued ((new options console world : Keeper σ ω).run operations).world) :
    ∃ session ∈ ((new options console world : Keeper σ ω).run operations).everySession,
      number ∈ held session := by
  have hperm := custody.run_perm options console world operations
  have hmem := hperm.mem_iff.mpr (List.mem_range.mpr hlast)
  rw [List.mem_append, List.mem_range] at hmem
  obtain hheld | hearlier := hmem
  · exact List.mem_flatMap.mp hheld
  · omega

end Custody

/-! ## Who was let go -/

/-- Whoever is let go has no transport. -/
theorem Turnover.retired_closed (h : Turnover k operation next)
    (hclosed : ∀ session ∈ k.retired, Channel.isOpen session = false) :
    ∀ session ∈ next.retired, Channel.isOpen session = false := by
  cases h with
  | idle _ _ hretired | used _ _ _ _ _ _ hretired | entered _ _ _ _ _ _ _ _ hretired =>
      rw [hretired]
      exact hclosed
  | dismissed _ _ _ hdismisses _ _ hretired | renewed _ _ hdismisses _ _ hretired =>
      rw [hretired]
      exact List.forall_mem_cons.mpr ⟨is_open_treat hdismisses _, hclosed⟩
  | missed _ _ _ _ _ _ _ hretired =>
      rw [hretired]
      exact List.forall_mem_cons.mpr ⟨Channel.isOpen_close _, hclosed⟩
  | ended _ hoperation _ hretired =>
      intro session hsession
      obtain hleft | hearlier := List.mem_append.mp (hretired.mem_iff.mp hsession)
      · obtain ⟨before, -, rfl⟩ := List.mem_map.mp hleft
        exact is_open_treat (by rw [hoperation]; rfl) _
      · exact hclosed session hearlier

/-- After every run the sessions that were let go are without a transport. -/
theorem run_retired_closed (options : Options) (console : Console) (world : ω)
    (operations : List Operation) :
    ∀ session ∈ ((new options console world : Keeper σ ω).run operations).retired,
      Channel.isOpen session = false := by
  induction operations using List.reverseRecOn with
  | nil => exact nofun
  | append_singleton operations last ih =>
      rw [run_concat]
      exact (step_turnover last).retired_closed ih

end Keeper

end SessionKeeper
