import SessionKeeper.Proofs.Keeper.Snapshot
import SessionKeeper.Session.Scripted

/-!
# Sessions apart from each other

A session changes by the operations that target it and by nothing else. `sessions_isolated` says so
for one operation and for whole runs: what becomes of a session can be replayed from the operations
that targeted it until it was let go.
-/

namespace SessionKeeper.Keeper

variable {σ ω : Type} [Session σ ω] {k next : Keeper σ ω} {operation : Operation} {name : String}
  {session : σ}

/-! ## One operation -/

/-- Who is no target stays as it is under its name. -/
theorem Turnover.frame (h : Turnover k operation next) (hname : name ∉ k.targets operation)
    (hsession : k.sessions.get? name = some session) :
    next.sessions.get? name = some session := by
  cases h with
  | idle _ hsessions | missed _ _ _ _ _ _ hsessions => rw [hsessions, hsession]
  | used other _ htargets _ _ hsessions =>
      have hother : name ≠ other := by simpa [htargets] using hname
      rw [hsessions, Table.get?_insert, if_neg hother, hsession]
  | dismissed other _ htargets _ _ hsessions =>
      have hother : name ≠ other := by simpa [htargets] using hname
      rw [hsessions, Table.get?_erase, if_neg hother, hsession]
  | renewed _ htargets _ _ hsessions =>
      have hnamed : name ≠ defaultName := by simpa [htargets] using hname
      rw [hsessions, Table.get?_insert, if_neg hnamed, Table.get?_erase, if_neg hnamed, hsession]
  | entered other _ _ _ _ _ hnew hsessions =>
      -- The name of a new session was free, so it is another one.
      have hother : name ≠ other := by
        rintro rfl
        cases hnew.symm.trans hsession
      rw [hsessions, Table.get?_insert, if_neg hother, hsession]
  | ended arrangement hoperation =>
      rw [hoperation] at hname
      exact absurd (Table.contains_iff_mem_names.mp (Table.contains_iff_exists.mpr ⟨_, hsession⟩))
        hname

/-- A target that is kept is what the operation makes of it. -/
theorem Turnover.kept (h : Turnover k operation next) (htarget : name ∈ k.targets operation)
    (hkeeps : operation.dismisses = false) (hsession : k.sessions.get? name = some session) :
    next.sessions.get? name = some (treat k.options operation (session, k.world)).1 := by
  cases h with
  | idle hnone => cases (hnone name htarget).symm.trans hsession
  | used other _ htargets _ hother hsessions =>
      obtain rfl : name = other := by simpa [htargets] using htarget
      cases hother.symm.trans hsession
      rw [hsessions, Table.get?_insert_self]
  | dismissed _ _ _ hdismisses | renewed _ _ hdismisses => cases hkeeps.symm.trans hdismisses
  | entered _ _ _ _ _ hoperation | missed _ _ _ _ _ hoperation =>
      rw [hoperation] at htarget
      cases htarget
  | ended _ hoperation =>
      rw [hoperation] at hkeeps
      cases hkeeps

/-- A target that is not kept is let go as the operation leaves it. -/
theorem Turnover.let_go (h : Turnover k operation next) (htarget : name ∈ k.targets operation)
    (hdismisses : operation.dismisses = true) (hsession : k.sessions.get? name = some session) :
    (treat k.options operation (session, k.world)).1 ∈ next.retired := by
  cases h with
  | idle hnone => cases (hnone name htarget).symm.trans hsession
  | used _ _ _ hkeeps => cases hkeeps.symm.trans hdismisses
  | dismissed other _ htargets _ hother _ hretired =>
      obtain rfl : name = other := by simpa [htargets] using htarget
      cases hother.symm.trans hsession
      rw [hretired]
      exact List.mem_cons_self
  | renewed _ htargets _ hother _ hretired =>
      obtain rfl : name = defaultName := by simpa [htargets] using htarget
      cases hother.symm.trans hsession
      rw [hretired]
      exact List.mem_cons_self
  | entered _ _ _ _ _ hoperation | missed _ _ _ _ _ hoperation =>
      rw [hoperation] at htarget
      cases htarget
  | ended _ _ _ hretired =>
      refine hretired.mem_iff.mpr (List.mem_append_left _ ?_)
      exact List.mem_map_of_mem (Table.mem_of_get? hsession)

/-- Who was let go stays as it is. -/
theorem Turnover.retained (h : Turnover k operation next) (hsession : session ∈ k.retired) :
    session ∈ next.retired := by
  cases h with
  | idle _ _ hretired | used _ _ _ _ _ _ hretired | entered _ _ _ _ _ _ _ _ hretired =>
      rw [hretired]
      exact hsession
  | dismissed _ _ _ _ _ _ hretired | renewed _ _ _ _ _ hretired
  | missed _ _ _ _ _ _ _ hretired =>
      rw [hretired]
      exact List.mem_cons_of_mem _ hsession
  | ended _ _ _ hretired => exact hretired.mem_iff.mpr (List.mem_append_right _ hsession)

/-! ## Whole runs -/

theorem run_retained (operations : List Operation) (hsession : session ∈ k.retired) :
    session ∈ (k.run operations).retired := by
  induction operations generalizing k with
  | nil => exact hsession
  | cons operation operations ih => exact ih ((step_turnover operation).retained hsession)

/-- The operations that target the session under a name until it is let go, each with the
environment that it meets. -/
def dealings (name : String) (k : Keeper σ ω) : List Operation → List (Operation × ω)
  | [] => []
  | operation :: operations =>
      if name ∈ k.targets operation then
        (operation, k.world) ::
          if operation.dismisses then [] else dealings name (k.step operation) operations
      else dealings name (k.step operation) operations

/-- What operations make of a session, one after the other, each in its environment. -/
def replay (o : Options) (dealings : List (Operation × ω)) (session : σ) : σ :=
  dealings.foldl (fun session dealing => (treat o dealing.1 (session, dealing.2)).1) session

/-- What becomes of a session in a run is what the operations make of it that target it. -/
theorem run_replays (operations : List Operation) (h : k.sessions.get? name = some session) :
    let met := k.dealings name operations
    let left := replay k.options met session
    (met.any (·.1.dismisses) = false → (k.run operations).sessions.get? name = some left) ∧
      (met.any (·.1.dismisses) = true →
        left ∈ (k.run operations).retired ∧ Channel.isOpen left = false) := by
  -- Induction on the operations, for every keeper and session: an operation that is no dealing
  -- leaves the session, one that keeps it leaves the session that the rest begins with.
  induction operations generalizing k session with
  | nil => exact ⟨fun _ => h, nofun⟩
  | cons operation operations ih =>
      have hturnover : Turnover k operation (k.step operation) := step_turnover operation
      have hoptions : (k.step operation).options = k.options := (step_snapshot operation).options
      intro met left
      by_cases htarget : name ∈ k.targets operation
      · cases hdismisses : operation.dismisses with
        | true =>
            have hmet : met = [(operation, k.world)] := by
              simp [met, dealings, htarget, hdismisses]
            have hleft : left = (treat k.options operation (session, k.world)).1 := by
              simp [left, hmet, replay]
            have hany : met.any (·.1.dismisses) = true := by
              rw [hmet, List.any_cons, hdismisses, Bool.true_or]
            rw [hany, hleft]
            exact ⟨nofun, fun _ =>
              ⟨run_retained operations (hturnover.let_go htarget hdismisses h),
                is_open_treat hdismisses _⟩⟩
        | false =>
            have hmet : met = (operation, k.world) :: (k.step operation).dealings name operations :=
              by simp [met, dealings, htarget, hdismisses]
            have hlater := ih (hturnover.kept htarget hdismisses h)
            rw [hoptions] at hlater
            simp only [left, hmet, List.any_cons, hdismisses, Bool.false_or]
            exact hlater
      · have hmet : met = (k.step operation).dealings name operations := by
          simp [met, dealings, htarget]
        have hlater := ih (hturnover.frame htarget h)
        rw [hoptions] at hlater
        simp only [left, hmet]
        exact hlater

/-- How connecting ends and what it makes of a session does not depend on the environment. -/
structure Indifferent (σ ω : Type) [Session σ ω] : Prop where
  setTls : ∀ (w other : ω) (o : Options) (s : σ), Session.setTls w o s = Session.setTls other o s
  connect : ∀ (o : Options) (authenticate : Bool) (s : σ) (w other : ω),
    (Session.connect o authenticate (s, w)).mapState Prod.fst =
      (Session.connect o authenticate (s, other)).mapState Prod.fst

/-- Scripted sessions connect as their own scripts say. -/
theorem Indifferent.scripted : Indifferent Scripted Scripts where
  setTls _ _ _ _ := rfl
  connect _ _ s _ _ := by
    simp only [Session.connect]
    cases Scripted.connect s <;> rfl

/-- Only a default connect has to do with the environment. -/
theorem treat_of_apart {o : Options} (htarget : name ∈ k.targets operation)
    (hapart : name ≠ defaultName ∨ Indifferent σ ω) (session : σ) (w other : ω) :
    (treat o operation (session, w)).1 = (treat o operation (session, other)).1 := by
  cases operation with
  | connectDefault expired noAuth plain =>
      obtain hnamed | hindifferent := hapart
      · exact absurd (List.mem_singleton.mp htarget) hnamed
      · have hprepared : prepareDefault o w expired plain session =
            prepareDefault o other expired plain session := by
          simp only [prepareDefault, hindifferent.setTls w other]
        have hconnect := hindifferent.connect o (!noAuth)
          (prepareDefault o other expired plain session) w other
        simp only [treat, hprepared]
        -- Both connects end alike, and leave the same session.
        rcases hone : Session.connect o (!noAuth)
            (prepareDefault o other expired plain session, w) with ⟨_, left⟩ | ⟨e, left⟩ <;>
          rcases htwo : Session.connect o (!noAuth)
            (prepareDefault o other expired plain session, other) with ⟨_, same⟩ | ⟨cause, same⟩ <;>
          rw [hone, htwo] at hconnect
        · exact (EStateM.Result.ok.inj hconnect).2
        · cases hconnect
        · cases hconnect
        · obtain ⟨rfl, hsame⟩ := EStateM.Result.error.inj hconnect
          simp only [hsame]
  | create | setActive | abortActive | closeActive | safeClose | destroy | send | receive
  | closeTransport => rfl

/-- What becomes of a session depends on the operations that target it, and on nothing else, unless
it is connected again and connecting depends on the environment. -/
theorem replay_of_apart (hapart : name ≠ defaultName ∨ Indifferent σ ω) (o : Options) (w : ω)
    (operations : List Operation) (session : σ) :
    replay o (k.dealings name operations) session =
      ((k.dealings name operations).map Prod.fst).foldl
        (fun session operation => (treat o operation (session, w)).1) session := by
  induction operations generalizing k session with
  | nil => rfl
  | cons operation operations ih =>
      by_cases htarget : name ∈ k.targets operation
      · have hsame := treat_of_apart (o := o) htarget hapart session k.world w
        cases hdismisses : operation.dismisses with
        | true => simpa [dealings, htarget, hdismisses, replay] using hsame
        | false =>
            have hlater := ih (k := k.step operation) (treat o operation (session, w)).1
            simpa [dealings, htarget, hdismisses, replay, hsame] using hlater
      · simpa [dealings, htarget] using ih (k := k.step operation) session

/-- Sessions are apart from each other. An operation leaves every session that it does not target as
it is, under the same name. Over a run, a session becomes what the operations make of it that target
it, in their order, until one of them lets it go. To a named session nothing matters but these
operations; the default session is the one that is connected again, and to it the environment
matters that it then meets, unless connecting does not depend on that. A session that is created is
what connecting it left. -/
theorem sessions_isolated (k : Keeper σ ω) :
    (∀ operation name session, name ∉ k.targets operation →
      k.sessions.get? name = some session →
        (k.step operation).sessions.get? name = some session) ∧
    (∀ operations name session, k.sessions.get? name = some session →
      let met := k.dealings name operations
      let left := replay k.options met session
      (met.any (·.1.dismisses) = false → (k.run operations).sessions.get? name = some left) ∧
      (met.any (·.1.dismisses) = true →
        left ∈ (k.run operations).retired ∧ Channel.isOpen left = false) ∧
      (name ≠ defaultName ∨ Indifferent σ ω →
        left = (met.map Prod.fst).foldl
          (fun session operation => (treat k.options operation (session, k.world)).1) session)) ∧
    ∀ name user password schema noTls,
      (create name user password schema noTls k).outcome = .ok () →
        (k.step (.create name user password schema noTls)).sessions.get? name =
          some (k.attempt user password schema noTls).state.1 := by
  refine ⟨?_, ?_, ?_⟩
  · intro operation name session hname h
    exact (step_turnover operation).frame hname h
  · intro operations name session h met left
    obtain ⟨hstays, hleaves⟩ := run_replays operations h
    exact ⟨hstays, hleaves, fun hapart =>
      replay_of_apart hapart k.options k.world operations session⟩
  · intro name user password schema noTls hok
    obtain ⟨hsessions, -⟩ := create_registers hok
    rw [step, perform, state_silently, hsessions, Table.get?_insert_self]

/-- Two sessions beside the default one, of which the second is the active one: what is said on it
does not touch the first, which becomes what receiving and closing make of it. The default session
is connected twice at last, and becomes what that makes of it. -/
theorem first_of_two :
    let start : Keeper Scripted Scripts := new {} (Console.new false) ⟨[], 0⟩
    let k := start.run [.create "a" "" "" "" false, .create "b" "" "" "" false]
    let operations : List Operation :=
      [.send .close, .setActive "a" true, .receive, .closeActive false true,
        .connectDefault true false false, .connectDefault false true false]
    let met (name : String) : List Operation := (k.dealings name operations).map Prod.fst
    let become (name : String) (session : Scripted) : Scripted :=
      (met name).foldl
        (fun session operation => (treat k.options operation (session, k.world)).1) session
    (met "a").map Operation.dismisses = [false, true] ∧
      (met defaultName).map Operation.dismisses = [false, false] ∧
      (∃ session, k.sessions.get? "a" = some session ∧
        (k.step (.send .close)).sessions.get? "a" = some session ∧
        become "a" session ∈ (k.run operations).retired) ∧
      ∃ session, k.sessions.get? defaultName = some session ∧
        (k.run operations).sessions.get? defaultName = some (become defaultName session) := by
  intro start k operations met become
  have hthere : (k.sessions.get? "a").isSome = true := by decide
  obtain ⟨session, h⟩ := Option.isSome_iff_exists.mp hthere
  have hdefault : (k.sessions.get? defaultName).isSome = true := by decide
  obtain ⟨first, hfirst⟩ := Option.isSome_iff_exists.mp hdefault
  have hother : "a" ∉ k.targets (.send .close) := by decide
  obtain ⟨hframe, hruns, -⟩ := sessions_isolated k
  refine ⟨by decide, by decide,
    ⟨session, h, hframe (.send .close) "a" session hother h, ?_⟩, first, hfirst, ?_⟩
  · obtain ⟨-, hleaves, hreplay⟩ := hruns operations "a" session h
    show become "a" session ∈ _
    rw [show become "a" session = _ from (hreplay (.inl (by decide))).symm]
    exact (hleaves (by decide)).1
  · obtain ⟨hstays, -, hreplay⟩ := hruns operations defaultName first hfirst
    rw [show become defaultName first = _ from (hreplay (.inr Indifferent.scripted)).symm]
    exact hstays (by decide)

end SessionKeeper.Keeper
