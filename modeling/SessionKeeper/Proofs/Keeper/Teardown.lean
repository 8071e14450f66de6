import Mathlib.Data.List.Basic
import SessionKeeper.Proofs.Closing.Exchange
import SessionKeeper.Proofs.Keeper.Steps

/-!
# Closing every session

`ClosedEach` says what is left after sessions were closed at the end, one after the other; it is
kept by closing one more, so it holds for every order and for every behaviour of the sessions. The
main statement, `destroy_exact`, adds the default session as the last of them: nothing is left for
the drain, a second `destroy` changes nothing, and the order in which the named sessions were met
shows in nothing but the order of the sessions that were let go.
-/

namespace SessionKeeper

/-- Traffic may be added up in any order. -/
theorem Traffic.add_right_comm (t first second : Traffic) :
    (t.add first).add second = (t.add second).add first := by
  simp only [Traffic.add, UInt64.add_assoc, UInt64.add_comm first.messagesSent,
    UInt64.add_comm first.bytesSent, UInt64.add_comm first.messagesReceived,
    UInt64.add_comm first.bytesReceived]

namespace Keeper

open Closing (departed departed_recorded is_open_departed)

variable {σ ω : Type} {k : Keeper σ ω} {order other again : List String}

/-! ## The names that are met -/

theorem mem_named_sessions {name : String} :
    name ∈ k.namedSessions ↔ name ≠ defaultName ∧ k.sessions.contains name = true := by
  rw [Table.contains_iff_mem_names]
  simp [namedSessions, and_comm]

theorem nodup_named (horder : order.Perm k.namedSessions) : order.Nodup :=
  horder.nodup_iff.mpr (k.sessions.nodup.sublist List.filter_sublist)

theorem default_not_mem (horder : order.Perm k.namedSessions) : defaultName ∉ order := fun hmem =>
  (mem_named_sessions.mp (horder.mem_iff.mp hmem)).1 rfl

/-- No session is met twice. -/
theorem nodup_order (horder : order.Perm k.namedSessions) : (order ++ [defaultName]).Nodup := by
  rw [List.nodup_append]
  refine ⟨nodup_named horder, by simp, ?_⟩
  intro first hfirst second hsecond heq
  rw [List.mem_singleton] at hsecond
  exact default_not_mem horder (hsecond ▸ heq ▸ hfirst)

/-- Every session is met. -/
theorem mem_order (horder : order.Perm k.namedSessions) {name : String}
    (hthere : k.sessions.contains name = true) : name ∈ order ++ [defaultName] := by
  by_cases hname : name = defaultName
  · simp [hname]
  · have hmem : name ∈ order := horder.mem_iff.mpr (mem_named_sessions.mpr ⟨hname, hthere⟩)
    exact List.mem_append_left _ hmem

/-- The sessions that are met are all that are registered. -/
theorem filter_map_order_perm (horder : order.Perm k.namedSessions) :
    ((order ++ [defaultName]).filterMap k.sessions.get?).Perm
      (k.sessions.entries.map Prod.snd) := by
  rw [← Table.filterMap_get?_names]
  cases hdefault : k.sessions.contains defaultName with
  | true =>
      have hmem : defaultName ∈ k.sessions.names := Table.contains_iff_mem_names.mp hdefault
      have hnamed : k.namedSessions = k.sessions.names.erase defaultName :=
        (List.Nodup.erase_eq_filter k.sessions.nodup defaultName).symm
      have hrest : order.Perm (k.sessions.names.erase defaultName) := hnamed ▸ horder
      have hfront : (order ++ [defaultName]).Perm (defaultName :: order) :=
        List.perm_append_singleton _ _
      have hnames : (order ++ [defaultName]).Perm k.sessions.names :=
        (hfront.trans (hrest.cons defaultName)).trans (List.perm_cons_erase hmem).symm
      exact hnames.filterMap _
  | false =>
      have hmissing : defaultName ∉ k.sessions.names := by
        rw [← Table.contains_iff_mem_names, hdefault]
        exact nofun
      have hnamed : k.namedSessions = k.sessions.names :=
        List.filter_eq_self.mpr fun name hname => bne_iff_ne.mpr fun heq => hmissing (heq ▸ hname)
      have hget : k.sessions.get? defaultName = none := by simpa [Table.contains] using hdefault
      rw [List.filterMap_append, List.filterMap_cons_none hget, List.filterMap_nil,
        List.append_nil, ← hnamed]
      exact horder.filterMap _

variable [Session σ ω]

/-! ## Counting the sessions that were closed -/

theorem count_parted_right_comm (l : Ledger) (first second : σ) :
    countParted (countParted l first) second = countParted (countParted l second) first := by
  simp only [countParted, UInt64.add_assoc, UInt64.add_comm (Closing.ending first).violations]

/-- Every session that is closed is counted once. -/
theorem closed_foldl_count_parted (sessions : List σ) (l : Ledger) :
    (sessions.foldl countParted l).closed = l.closed + UInt64.ofNat sessions.length := by
  induction sessions generalizing l with
  | nil => simp
  | cons session sessions ih =>
      rw [List.foldl_cons, ih, List.length_cons, UInt64.ofNat_add]
      simp only [countParted, UInt64.add_assoc, UInt64.add_comm (UInt64.ofNat sessions.length)]
      rfl

/-! ## Closing one after the other -/

/-- What is left after sessions were closed at the end. Every one of them was let go, and was
counted; the client id that was published last is all that depends on where they were. -/
structure ClosedEach (k : Keeper σ ω) (order : List String) (after : Keeper σ ω) : Prop where
  options : after.options = k.options
  console : after.console = k.console
  world : after.world = k.world
  get? : ∀ name, after.sessions.get? name = if name ∈ order then none else k.sessions.get? name
  ledger : after.ledger = (order.filterMap k.sessions.get?).foldl countParted k.ledger
  retired :
    after.retired = ((order.filterMap k.sessions.get?).map k.parted).reverse ++ k.retired
  published : ∀ id,
    after.published.insert Variables.activeClientId id =
      k.published.insert Variables.activeClientId id

theorem close_each_spec (hnodup : order.Nodup) : ClosedEach k order (k.closeEach order) := by
  -- Induction on the names, for every keeper: the first name leaves a keeper in which the other
  -- sessions are found as before, so what is known of the rest carries over.
  induction order generalizing k with
  | nil => exact ⟨rfl, rfl, rfl, fun _ => rfl, rfl, rfl, fun _ => rfl⟩
  | cons name order ih =>
      obtain ⟨hfresh, hnodup⟩ := List.nodup_cons.mp hnodup
      have hcons : k.closeEach (name :: order) = (k.safeClose name).closeEach order := rfl
      have hrest := ih (k := k.safeClose name) hnodup
      rw [hcons]
      cases h : k.sessions.get? name with
      | none =>
          rw [safe_close_of_absent h] at hrest ⊢
          have hfound : (name :: order).filterMap k.sessions.get? =
              order.filterMap k.sessions.get? := List.filterMap_cons_none h
          refine ⟨hrest.options, hrest.console, hrest.world, fun other => ?_, ?_, ?_,
            hrest.published⟩
          · rw [hrest.get? other]
            by_cases hother : other = name
            · subst hother
              simp [h]
            · simp [hother]
          · rw [hfound, hrest.ledger]
          · rw [hfound, hrest.retired]
      | some session =>
          -- The name comes once only, so erasing it does not touch the rest.
          have hsame : order.filterMap (k.safeClose name).sessions.get? =
              order.filterMap k.sessions.get? := by
            refine List.filterMap_congr fun other hother => ?_
            have hne : other ≠ name := fun heq => hfresh (heq ▸ hother)
            rw [safe_close_eq h]
            exact (Table.get?_erase _ _ _).trans (if_neg hne)
          have hfound : (name :: order).filterMap k.sessions.get? =
              session :: order.filterMap k.sessions.get? := List.filterMap_cons_some h
          obtain ⟨hoptions, hconsole, hworld, hget, hledger, hretired, hpublished⟩ := hrest
          rw [hsame] at hledger hretired
          rw [safe_close_eq h] at hoptions hconsole hworld hget hledger hretired hpublished ⊢
          refine ⟨hoptions, hconsole, hworld, fun other => ?_, ?_, ?_, fun id => ?_⟩
          · rw [hget other]
            by_cases hother : other = name
            · simp [hother, dismissed, Table.get?_erase]
            · simp [hother, dismissed, Table.get?_erase]
          · rw [hfound, hledger]
            rfl
          · rw [hfound, hretired]
            simp [dismissed, parted]
          · -- The client id that was published before is overwritten.
            rw [hpublished id]
            exact Table.insert_insert _ _ _ _

/-! ## The default session as the last one -/

theorem close_default_eq : k.closeDefault = k.safeClose defaultName := by
  unfold closeDefault
  split
  · rfl
  · next habsent =>
      rw [safe_close_of_absent]
      simpa [Table.contains] using habsent

/-- Closing the default session goes on where the named sessions end. -/
theorem close_default_close_each :
    (k.closeEach order).closeDefault = k.closeEach (order ++ [defaultName]) := by
  rw [close_default_eq, closeEach, closeEach, List.foldl_append]
  rfl

/-- Closing the named sessions leaves the default session alone. -/
theorem default_close_each (horder : order.Perm k.namedSessions) :
    (k.closeEach order).sessions.get? defaultName = k.sessions.get? defaultName := by
  rw [(close_each_spec (nodup_named horder)).get?, if_neg (default_not_mem horder)]

/-- Before the drain every session was closed once. -/
theorem closed_before_drain (horder : order.Perm k.namedSessions) :
    ClosedEach k (order ++ [defaultName]) (k.closeEach order).closeDefault := by
  rw [close_default_close_each]
  exact close_each_spec (nodup_order horder)

/-- The drain finds nothing. -/
theorem entries_before_drain (horder : order.Perm k.namedSessions) :
    (k.closeEach order).closeDefault.sessions.entries = [] := by
  refine Table.entries_eq_nil_of_get? fun name => ?_
  rw [(closed_before_drain horder).get? name]
  split
  · rfl
  · next hnot =>
      cases hget : k.sessions.get? name with
      | none => rfl
      | some session =>
          have hthere : k.sessions.contains name = true :=
            Table.contains_iff_exists.mpr ⟨session, hget⟩
          exact absurd (mem_order horder hthere) hnot

/-- What is left in the end: nothing but the sessions that were let go. -/
theorem destroy_in_eq (horder : order.Perm k.namedSessions) :
    k.destroyIn order =
      { (k.closeEach order).closeDefault with sessions := .empty, active := none } := by
  simp [destroyIn, abandon, entries_before_drain horder]

/-- There is nothing left to destroy in a keeper without sessions. -/
theorem destroy_in_of_empty (hsessions : k.sessions = .empty) (hactive : k.active = none)
    (hagain : again.Perm k.namedSessions) : k.destroyIn again = k := by
  have hnone : k.namedSessions = [] := by
    rw [namedSessions, hsessions]
    rfl
  obtain rfl : again = [] := List.perm_nil.mp (hnone ▸ hagain)
  have hdefault : k.closeDefault = k := by
    simp [closeDefault, hsessions, Table.contains]
  obtain ⟨options, published, console, sessions, active, ledger, retired, world⟩ := k
  obtain rfl : sessions = .empty := hsessions
  obtain rfl : active = none := hactive
  rw [destroyIn, closeEach, List.foldl_nil, hdefault]
  rfl

/-! ## What does not depend on the order -/

theorem ledger_destroy_in (horder : order.Perm k.namedSessions) :
    (k.destroyIn order).ledger = (k.sessions.entries.map Prod.snd).foldl countParted k.ledger := by
  rw [destroy_in_eq horder]
  refine (closed_before_drain horder).ledger.trans ?_
  apply (filter_map_order_perm horder).foldl_eq'
  intro first _ second _ l
  exact count_parted_right_comm l first second

theorem retired_destroy_in (horder : order.Perm k.namedSessions) :
    (k.destroyIn order).retired.Perm
      ((k.sessions.entries.map Prod.snd).map k.parted ++ k.retired) := by
  have hretired : (k.destroyIn order).retired = (k.closeEach order).closeDefault.retired := by
    rw [destroy_in_eq horder]
  rw [hretired, (closed_before_drain horder).retired]
  refine List.Perm.append_right _ ((List.reverse_perm _).trans ?_)
  exact (filter_map_order_perm horder).map _

/-- The default session is closed last, and it is its client id that stays published. -/
theorem published_destroy_in {main : σ} (horder : order.Perm k.namedSessions)
    (hmain : k.sessions.get? defaultName = some main) :
    (k.destroyIn order).published =
      k.published.insert Variables.activeClientId (toString (Session.clientId main).toNat) := by
  have hlast : (k.closeEach order).sessions.get? defaultName = some main :=
    (default_close_each horder).trans hmain
  rw [destroy_in_eq horder, close_default_eq, safe_close_eq hlast]
  exact (close_each_spec (nodup_named horder)).published _

/-- If the default session is there, what is left in the end depends on the order in the order of
the sessions that were let go only. -/
theorem destroy_in_eq_of_default {main : σ} (horder : order.Perm k.namedSessions)
    (hmain : k.sessions.get? defaultName = some main) :
    k.destroyIn order =
      { k with
        published :=
          k.published.insert Variables.activeClientId (toString (Session.clientId main).toNat)
        sessions := .empty
        active := none
        ledger := (k.sessions.entries.map Prod.snd).foldl countParted k.ledger
        retired := (k.destroyIn order).retired } := by
  rw [← ledger_destroy_in horder, ← published_destroy_in horder hmain, destroy_in_eq horder]
  have hspec := closed_before_drain horder
  simp only [hspec.options, hspec.console, hspec.world]

/-- Counters do not depend on the order of the sessions. -/
theorem metrics_eq_of_perm {left right : Keeper σ ω} (hledger : left.ledger = right.ledger)
    (hevery : left.everySession.Perm right.everySession) : left.metrics = right.metrics := by
  rw [metrics, metrics, hledger]
  congr 1
  apply hevery.foldl_eq'
  intro first _ second _ t
  exact Traffic.add_right_comm t _ _

/-- If the default session is there, another order leaves the same keeper, with the same sessions
let go, and the same counters. -/
theorem destroy_in_swap (hdefault : k.sessions.contains defaultName = true)
    (horder : order.Perm k.namedSessions) (hother : other.Perm k.namedSessions) :
    ∃ retired, retired.Perm (k.destroyIn order).retired ∧
      k.destroyIn other = { k.destroyIn order with retired } ∧
      (k.destroyIn other).metrics = (k.destroyIn order).metrics := by
  obtain ⟨main, hmain⟩ := Table.contains_iff_exists.mp hdefault
  have hperm : (k.destroyIn other).retired.Perm (k.destroyIn order).retired :=
    (retired_destroy_in hother).trans (retired_destroy_in horder).symm
  refine ⟨_, hperm, ?_, ?_⟩
  · -- The sessions that were let go stay on both sides of the equation, so they are not rewritten.
    refine (destroy_in_eq_of_default hother hmain).trans ?_
    generalize (k.destroyIn other).retired = retired
    rw [destroy_in_eq_of_default horder hmain]
  · have hledger : (k.destroyIn other).ledger = (k.destroyIn order).ledger :=
      (ledger_destroy_in hother).trans (ledger_destroy_in horder).symm
    exact metrics_eq_of_perm hledger hperm

/-! ## What comes before the default session -/

/-- Once the named sessions were closed, each of them is as it stays. -/
theorem named_close_each {name : String} {session : σ} (horder : order.Perm k.namedSessions)
    (hnamed : name ≠ defaultName) (h : k.sessions.get? name = some session) :
    k.parted session ∈ (k.closeEach order).retired ∧
      (k.closeEach order).sessions.get? name = none := by
  have hspec : ClosedEach k order (k.closeEach order) := close_each_spec (nodup_named horder)
  have hmem : name ∈ order := horder.mem_iff.mpr
    (mem_named_sessions.mpr ⟨hnamed, Table.contains_iff_exists.mpr ⟨session, h⟩⟩)
  have hfound : session ∈ order.filterMap k.sessions.get? :=
    List.mem_filterMap.mpr ⟨name, hmem, h⟩
  constructor
  · rw [hspec.retired]
    exact List.mem_append_left _ (List.mem_reverse.mpr (List.mem_map_of_mem hfound))
  · rw [hspec.get?, if_pos hmem]

/-- After the named sessions only the default session is let go. -/
theorem retired_after_named (horder : order.Perm k.namedSessions) :
    (k.destroyIn order).retired =
      ((k.sessions.get? defaultName).map k.parted).toList ++ (k.closeEach order).retired := by
  have hoptions : (k.closeEach order).options = k.options :=
    (close_each_spec (nodup_named horder)).options
  have hdefault := default_close_each horder
  rw [destroy_in_eq horder, close_default_eq]
  cases h : k.sessions.get? defaultName with
  | none =>
      rw [safe_close_of_absent (hdefault.trans h)]
      rfl
  | some main =>
      rw [safe_close_eq (hdefault.trans h)]
      simp [dismissed, parted, hoptions]

/-! ## Closing every session -/

section Recorded

variable {k : Keeper (Recorded σ) ω}

/-- Over an open transport closing attempts one farewell, over a closed one none, and it sends
nothing else. -/
theorem calls_parted (k : Keeper (Recorded σ) ω) (r : Recorded σ) :
    ∃ made, (k.parted r).calls = r.calls ++ made ∧
      made.count (.send .close) = (if Channel.isOpen r then 1 else 0) ∧
      ∀ message, .send message ∈ made → message = .close := by
  cases hopen : Channel.isOpen r.session with
  | false =>
      refine ⟨[.close false], ?_, ?_, ?_⟩
      · simp [parted, departed, hopen]
      · simp
      · simp
  | true =>
      obtain ⟨-, hsession, hcalls⟩ := departed_recorded (!k.options.skipWait) r
      obtain ⟨wasOpen, hcalls⟩ := hcalls hopen
      let made := (Closing.ending r.session).calls (!k.options.skipWait) wasOpen
      refine ⟨made ++ [.close false], ?_, ?_, ?_⟩
      · rw [parted, Recorded.calls_close, hcalls, hsession, is_open_departed, List.append_assoc]
      · simp [made, Closing.Ending.calls, List.count_replicate]
      · simp [made, Closing.Ending.calls]

/-- Whatever the sessions do and in whatever order the named ones are met, every session that was
registered ends up closed, with one farewell attempted if it was open and none otherwise; the
default session gets its first call after each of the others got its last. The drain finds nothing,
so every session counts as closed. A second time nothing is left to do, and if the default session
was there then another order leaves the same variables, counters and sessions. -/
theorem destroy_exact (horder : order.Perm k.namedSessions) :
    let named := k.closeEach order
    let done := k.destroyIn order
    done.sessions.entries = [] ∧ done.active = none ∧
      named.closeDefault.sessions.entries = [] ∧
      done.ledger.closed = k.ledger.closed + UInt64.ofNat k.sessions.size ∧
      done.retired.Perm ((k.sessions.entries.map Prod.snd).map k.parted ++ k.retired) ∧
      (∀ name r, k.sessions.get? name = some r →
        k.parted r ∈ done.retired ∧ Channel.isOpen (k.parted r) = false ∧
          ∃ made, (k.parted r).calls = r.calls ++ made ∧
            made.count (.send .close) = (if Channel.isOpen r then 1 else 0) ∧
            ∀ message, .send message ∈ made → message = .close) ∧
      named.sessions.get? defaultName = k.sessions.get? defaultName ∧
      (∀ name r, name ≠ defaultName → k.sessions.get? name = some r →
        k.parted r ∈ named.retired ∧ named.sessions.get? name = none) ∧
      done.retired = ((k.sessions.get? defaultName).map k.parted).toList ++ named.retired ∧
      (∀ again, again.Perm done.namedSessions → done.destroyIn again = done) ∧
      (k.sessions.contains defaultName = true →
        ∀ other, other.Perm k.namedSessions →
          ∃ retired, retired.Perm done.retired ∧
            k.destroyIn other = { done with retired } ∧
            (k.destroyIn other).metrics = done.metrics) := by
  intro named done
  refine ⟨rfl, rfl, entries_before_drain horder, ?_, retired_destroy_in horder, ?_,
    default_close_each horder, fun name r => named_close_each horder,
    retired_after_named horder, fun again => destroy_in_of_empty rfl rfl,
    fun hdefault other => destroy_in_swap hdefault horder⟩
  · rw [ledger_destroy_in horder, closed_foldl_count_parted, List.length_map]
    rfl
  · intro name r hr
    have hmem : r ∈ k.sessions.entries.map Prod.snd := Table.mem_of_get? hr
    refine ⟨?_, Channel.isOpen_close _, calls_parted k r⟩
    exact (retired_destroy_in horder).mem_iff.mpr
      (List.mem_append_left _ (List.mem_map_of_mem hmem))

/-- Of two named sessions one refuses the farewell; both orders leave the same behind. -/
theorem destroy_two_orders :
    let script : Script := { Script.standard 2 with replies := [.ok .capabilities] }
    let start : Keeper (Recorded Scripted) Scripts :=
      new {} (Console.new false) ⟨[(2, script)], 0⟩
    let k := (create "b" "" "" "" false (create "a" "" "" "" false start).state).state
    let done := k.destroyIn ["a", "b"]
    done.sessions.entries = [] ∧ done.ledger.closed = 3 ∧ done.destroyIn [] = done ∧
      (k.destroyIn ["b", "a"]).metrics = done.metrics := by
  intro script start k done
  have horder : ["a", "b"].Perm k.namedSessions := by decide
  have hother : ["b", "a"].Perm k.namedSessions := by decide
  obtain ⟨hempty, -, -, hclosed, -, -, -, -, -, hagain, hswap⟩ := destroy_exact horder
  obtain ⟨-, -, -, hmetrics⟩ := hswap (by decide) _ hother
  exact ⟨hempty, hclosed, hagain [] (by decide), hmetrics⟩

end Recorded

end Keeper

end SessionKeeper
