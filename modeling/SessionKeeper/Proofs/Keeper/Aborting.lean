import SessionKeeper.Proofs.Keeper.Publication
import SessionKeeper.Proofs.Keeper.Transparency

/-!
# Aborting the active session

The active session is aborted without a word to its server, whatever it was doing. `Abandons` says
what both ways of aborting have in common: a named session is taken out and gives way to the default
session, and the default session is replaced where it is. The main statement,
`abort_active_says_nothing`, puts both together with the calls that the sessions get.
-/

namespace SessionKeeper.Keeper

variable {σ ω : Type} {name : String}

section Sessions

variable [Session σ ω] {k : Keeper σ ω} {session : σ}

/-- The session under a name was let go, and what else is left did not change but for the session
that is active and its client id. -/
structure Abandons (k : Keeper σ ω) (name : String) (session : σ) (after : Keeper σ ω) : Prop where
  retired : after.retired = Channel.close session :: k.retired
  others : ∀ other, other ≠ name → after.sessions.get? other = k.sessions.get? other
  ledger : after.ledger = { k.ledger with aborted := k.ledger.aborted + 1 }
  active : after.active = some defaultName
  options : after.options = k.options
  published : ∀ key, key ≠ Variables.activeClientId →
    after.published.get? key = k.published.get? key

/-- The default session is replaced by a new one, and stays active. -/
theorem abort_active_renews (hname : k.activeName = some defaultName)
    (h : k.sessions.get? defaultName = some session) :
    ∃ after, abortActive k = .ok () after ∧ Abandons k defaultName session after ∧
      after.sessions.get? defaultName = some (Session.create k.world : σ × ω).1 ∧
      after.world = (Session.create k.world : σ × ω).2 ∧ after.published = k.published := by
  refine ⟨_, abort_active_of_default hname h, ?_, Table.get?_insert_self _ _ _, rfl, rfl⟩
  refine ⟨rfl, fun other hother => ?_, rfl, (active_name_eq_some_iff.mp hname).1, rfl,
    fun _ _ => rfl⟩
  simp only [Table.get?_insert, Table.get?_erase, if_neg hother]

/-- A named session gives way to the default session, whose client id is published. -/
theorem abort_active_gives_way {main : σ} (hname : k.activeName = some name)
    (hnamed : name ≠ defaultName) (h : k.sessions.get? name = some session)
    (hmain : k.sessions.get? defaultName = some main) :
    ∃ after, abortActive k = .ok () after ∧ Abandons k name session after ∧
      after.sessions.contains name = false ∧ after.sessions.get? defaultName = some main ∧
      after.world = k.world ∧ after.publishedId = some (shownId main) := by
  have hothers : ∀ other, other ≠ name →
      (k.aborted name session).sessions.get? other = k.sessions.get? other := by
    intro other hother
    simp only [aborted, Table.get?_erase, if_neg hother]
  have hstays : (k.aborted name session).sessions.get? defaultName = some main :=
    (hothers defaultName (Ne.symm hnamed)).trans hmain
  refine ⟨_, (abort_active_of_named hname hnamed h).trans (set_active_of_get? hstays), ?_, ?_,
    hstays, rfl, Table.get?_insert_self _ _ _⟩
  · refine ⟨rfl, hothers, rfl, rfl, rfl, fun key hkey => ?_⟩
    simp only [switched, aborted, Table.get?_insert, if_neg hkey]
  · simp [switched, aborted, Table.contains_erase]

/-- Aborting succeeds while the default session is there, which is active then. -/
theorem exists_abort_active {main : σ} (hname : k.activeName = some name)
    (h : k.sessions.get? name = some session) (hmain : k.sessions.get? defaultName = some main) :
    ∃ after, abortActive k = .ok () after ∧ Abandons k name session after ∧
      after.activeName = some defaultName ∧
      (name ≠ defaultName →
        after.sessions.contains name = false ∧ after.sessions.get? defaultName = some main ∧
          after.world = k.world ∧ after.publishedId = some (shownId main)) ∧
      (name = defaultName →
        after.sessions.get? defaultName = some (Session.create k.world : σ × ω).1 ∧
          after.world = (Session.create k.world : σ × ω).2 ∧ after.published = k.published) := by
  by_cases hnamed : name = defaultName
  · subst hnamed
    obtain ⟨after, hdone, habandons, hnew, hrest⟩ := abort_active_renews hname h
    have hthere := Table.contains_iff_exists.mpr ⟨_, hnew⟩
    exact ⟨after, hdone, habandons, active_name_eq_some_iff.mpr ⟨habandons.active, hthere⟩,
      (absurd rfl ·), fun _ => ⟨hnew, hrest⟩⟩
  · obtain ⟨after, hdone, habandons, hgone, hstays, hrest⟩ :=
      abort_active_gives_way hname hnamed h hmain
    have hthere := Table.contains_iff_exists.mpr ⟨_, hstays⟩
    exact ⟨after, hdone, habandons, active_name_eq_some_iff.mpr ⟨habandons.active, hthere⟩,
      fun _ => ⟨hgone, hstays, hrest⟩, (absurd · hnamed)⟩

end Sessions

variable [Session σ ω] {k : Keeper (Recorded σ) ω}

/-- Aborting the active session succeeds while the default session is there, whatever the sessions
do. Of all sessions only the one that was active gets a call, which closes its transport: nothing is
sent and nothing received. No other session changes, one more session counts as aborted and no other
counter moves, and the default session is active. A named session is gone, and the client id of the
default session is published; in place of the default session there is a new one, not connected,
that got no call and counts no messages. The record of the calls does not influence any of this. -/
theorem abort_active_says_nothing (hname : k.activeName = some name)
    (hdefault : k.sessions.contains defaultName = true) :
    let done := abortActive k
    let after := done.state
    done.outcome = .ok () ∧
      (∃ r left, k.sessions.get? name = some r ∧ after.retired = left :: k.retired ∧
        left.session = Channel.close r.session ∧ Channel.isOpen left = false ∧
        left.calls = r.calls ++ [.close (Channel.isOpen r)]) ∧
      (∀ other, other ≠ name → after.sessions.get? other = k.sessions.get? other) ∧
      after.ledger = { k.ledger with aborted := k.ledger.aborted + 1 } ∧
      after.activeName = some defaultName ∧ after.options = k.options ∧
      (∀ key, key ≠ Variables.activeClientId →
        after.published.get? key = k.published.get? key) ∧
      (name ≠ defaultName →
        after.sessions.contains name = false ∧ after.world = k.world ∧
          ∃ main, k.sessions.get? defaultName = some main ∧
            after.sessions.get? defaultName = some main ∧
            after.publishedId = some (shownId main)) ∧
      (name = defaultName →
        ∃ made : Recorded σ, made = (Session.create k.world : Recorded σ × ω).1 ∧
          after.sessions.get? defaultName = some made ∧ made.calls = [] ∧
          Channel.isOpen made = false ∧ ∀ message, Session.receivedCount made message = none) ∧
      abortActive (k.map Recorded.session id) = done.mapState (map Recorded.session id) := by
  intro done after
  obtain ⟨r, hr⟩ := exists_of_active_name hname
  obtain ⟨main, hmain⟩ := Table.contains_iff_exists.mp hdefault
  obtain ⟨left, hdone, habandons, hactive, hnamed, hrenewed⟩ := exists_abort_active hname hr hmain
  obtain rfl : left = after := (congrArg EStateM.Result.state hdone).symm
  refine ⟨congrArg EStateM.Result.outcome hdone,
    ⟨r, _, hr, habandons.retired, Recorded.session_close r, Channel.isOpen_close r,
      Recorded.calls_close r⟩,
    habandons.others, habandons.ledger, hactive, habandons.options, habandons.published,
    fun hname => ?_, fun hname => ?_, Recorded.transparent.abort_active_map k⟩
  · obtain ⟨hgone, hstays, hworld, hid⟩ := hnamed hname
    exact ⟨hgone, hworld, main, hmain, hstays, hid⟩
  · obtain ⟨hnew, -⟩ := hrenewed hname
    exact ⟨_, rfl, hnew, rfl, Session.isOpen_create k.world, Session.receivedCount_create k.world⟩

/-- A session is aborted in the middle of an exchange, with a reply that nobody waits for any more,
and after it the default session. -/
theorem abort_active_says_nothing_midway :
    let start : Keeper (Recorded Scripted) Scripts := new {} (Console.new false) ⟨[], 0⟩
    let k := (send .close (create "a" "" "" "" false start).state).state
    let aborted := (abortActive k).state
    let last := (abortActive aborted).state
    k.activeName = some "a" ∧ aborted.activeName = some defaultName ∧
      aborted.sessions.contains "a" = false ∧ aborted.ledger.aborted = 1 ∧
      last.ledger.aborted = 2 ∧ last.ledger.closed = 0 ∧
      (last.retired.map fun r => r.calls.drop (r.calls.length - 2)) =
        [[.close false], [.send .close, .close true]] := by
  intro start k aborted last
  have hname : k.activeName = some "a" := by decide
  have hdefault : k.sessions.contains defaultName = true := by decide
  obtain ⟨-, -, -, hledger, hactive, -, -, hgone, -⟩ := abort_active_says_nothing hname hdefault
  obtain ⟨-, -, -, hledgerLast, -⟩ := abort_active_says_nothing hactive (by decide)
  refine ⟨hname, hactive, (hgone (by decide)).1, ?_, ?_, ?_, by decide⟩
  · rw [hledger]
    rfl
  · rw [hledgerLast, hledger]
    rfl
  · rw [hledgerLast, hledger]
    rfl

end SessionKeeper.Keeper
