import Mathlib.Data.List.Induction
import SessionKeeper.Proofs.Keeper.Operation
import SessionKeeper.Proofs.Keeper.Steps
import SessionKeeper.Session.Scripted

/-!
# The registry and the active name along runs

`Shift` lists what an operation can do to the names of the sessions and to the active one, and
`step_shift` says that every operation does one of these things. The main statement,
`registry_along_runs`, follows by induction over the operations: the active name always has a
session, and the default session is missing only after it was shut down.
-/

namespace SessionKeeper.Keeper

variable {σ ω : Type}

/-- What a step can do to the names of the sessions and to the active one; `down` tells whether
it may shut the default session down. -/
inductive Shift (down : Bool) (k next : Keeper σ ω) : Prop where
  | stay
      (hactive : next.active = k.active)
      (hnames : ∀ other, next.sessions.contains other = k.sessions.contains other)
  /-- A session that is new or was there already becomes active. -/
  | enter (name : String)
      (hactive : next.active = some name)
      (hnames : ∀ other,
        next.sessions.contains other = (decide (other = name) || k.sessions.contains other))
  /-- A named session is let go, and the default session becomes active. -/
  | giveWay (name : String)
      (hnamed : name ≠ defaultName)
      (hdefault : k.sessions.contains defaultName = true)
      (hactive : next.active = some defaultName)
      (hnames : ∀ other,
        next.sessions.contains other = (!decide (other = name) && k.sessions.contains other))
  /-- A session is let go, and none becomes active. -/
  | leave (name : String)
      (hwhy : down = true ∨ name ≠ defaultName ∧ k.sessions.contains defaultName = false)
      (hactive : next.active = none)
      (hnames : ∀ other,
        next.sessions.contains other = (!decide (other = name) && k.sessions.contains other))
  | clear
      (hwhy : down = true)
      (hactive : next.active = none)
      (hnames : ∀ other, next.sessions.contains other = false)

variable {k : Keeper σ ω} {down : Bool}

/-- Nothing happens to the registry if the keeper stays as it is. -/
theorem Shift.refl (k : Keeper σ ω) : Shift down k k :=
  .stay rfl fun _ => rfl

/-- Putting a session under a name that is there changes no name. -/
theorem contains_insert_present {name other : String} {session : σ}
    (h : k.sessions.contains name = true) :
    (k.sessions.insert name session).contains other = k.sessions.contains other := by
  rw [Table.contains_insert]
  by_cases heq : other = name
  · rw [heq, h, Bool.or_true]
  · simp [heq]

/-! ## What a shift keeps -/

/-- The active name, if there is one, has a session. -/
def ActiveRegistered (k : Keeper σ ω) : Prop :=
  ∀ name, k.active = some name → k.sessions.contains name = true

theorem Shift.active_registered {next : Keeper σ ω} (h : Shift down k next)
    (hk : k.ActiveRegistered) : next.ActiveRegistered := by
  intro name hname
  cases h with
  | stay hactive hnames =>
      rw [hnames]
      exact hk name (hactive ▸ hname)
  | enter other hactive hnames =>
      obtain rfl : other = name := Option.some.inj (hactive.symm.trans hname)
      simp [hnames]
  | giveWay other hnamed hdefault hactive hnames =>
      obtain rfl : defaultName = name := Option.some.inj (hactive.symm.trans hname)
      simp [hnames, hdefault, Ne.symm hnamed]
  | leave other hwhy hactive hnames => cases hactive.symm.trans hname
  | clear hwhy hactive hnames => cases hactive.symm.trans hname

/-- Only an operation that may shut the default session down lets it go. -/
theorem Shift.default_kept {next : Keeper σ ω} (h : Shift false k next)
    (hdefault : k.sessions.contains defaultName = true) :
    next.sessions.contains defaultName = true := by
  cases h with
  | stay hactive hnames => rw [hnames, hdefault]
  | enter name hactive hnames => rw [hnames, hdefault, Bool.or_true]
  | giveWay name hnamed _ hactive hnames => simp [hnames, hdefault, Ne.symm hnamed]
  | leave name hwhy hactive hnames =>
      obtain ⟨-, hmissing⟩ := hwhy.resolve_left nofun
      rw [hdefault] at hmissing
      cases hmissing
  | clear hwhy hactive hnames => cases hwhy

/-- While the default session is there, some session stays active. -/
theorem Shift.active_kept {next : Keeper σ ω} (h : Shift false k next)
    (hdefault : k.sessions.contains defaultName = true) (hsome : k.active ≠ none) :
    next.active ≠ none := by
  cases h with
  | stay hactive hnames => rwa [hactive]
  | enter name hactive hnames => simp [hactive]
  | giveWay name hnamed _ hactive hnames => simp [hactive]
  | leave name hwhy hactive hnames =>
      obtain ⟨-, hmissing⟩ := hwhy.resolve_left nofun
      rw [hdefault] at hmissing
      cases hmissing
  | clear hwhy hactive hnames => cases hwhy

/-- An active name that has a session is shown. -/
theorem ActiveRegistered.active_name_eq (h : k.ActiveRegistered) : k.activeName = k.active := by
  cases hactive : k.active with
  | none => simp [activeName, hactive]
  | some name => exact active_name_eq_some_iff.mpr ⟨hactive, h name hactive⟩

variable [Session σ ω]

/-! ## The operations -/

theorem set_active_shift (name : String) (quiet : Bool) :
    Shift down k (setActive name quiet k).state := by
  cases h : k.sessions.get? name with
  | none =>
      rw [set_active_of_absent h]
      exact .refl k
  | some session =>
      rw [set_active_of_get? h]
      refine .enter name rfl fun other => ?_
      by_cases heq : other = name
      · simp [heq, switched, Table.contains, h]
      · simp [heq, switched]

/-- Once a named session was let go, the default session becomes active if it is there. -/
theorem make_way_shift {left : Keeper σ ω} {name : String} {quiet : Bool}
    (hnamed : name ≠ defaultName) (hactive : left.active = none)
    (hnames : ∀ other,
      left.sessions.contains other = (!decide (other = name) && k.sessions.contains other)) :
    Shift down k (setActive defaultName quiet left).state := by
  have hdefault : left.sessions.contains defaultName = k.sessions.contains defaultName := by
    rw [hnames defaultName]
    simp [Ne.symm hnamed]
  cases h : left.sessions.get? defaultName with
  | none =>
      rw [set_active_of_absent h]
      exact .leave name (.inr ⟨hnamed, by rw [← hdefault]; simp [Table.contains, h]⟩) hactive hnames
  | some session =>
      rw [set_active_of_get? h]
      exact .giveWay name hnamed (by rw [← hdefault]; simp [Table.contains, h]) rfl hnames

theorem connect_default_shift (expired noAuth plain : Bool) :
    Shift down k (connectDefault expired noAuth plain k).state := by
  cases h : k.sessions.get? defaultName with
  | none =>
      rw [connect_default_of_absent h]
      exact .stay rfl fun _ => rfl
  | some session =>
      have hthere : k.sessions.contains defaultName = true :=
        Table.contains_iff_exists.mpr ⟨session, h⟩
      rcases hconnect : Session.connect k.options (!noAuth)
          (prepareDefault k.options k.world expired plain session, k.world) with
        ⟨_, left, world⟩ | ⟨e, left, world⟩
      · rw [connect_default_of_ok h hconnect]
        exact .stay rfl fun _ => contains_insert_present hthere
      · rw [connect_default_of_error h hconnect]
        exact .stay rfl fun _ => contains_insert_present hthere

theorem create_shift (name user password schema : String) (noTls : Bool) :
    Shift down k (create name user password schema noTls k).state := by
  cases h : k.sessions.contains name with
  | true =>
      rw [create_of_present h]
      exact .refl k
  | false =>
      rcases hconnect : Session.connect (namedOptions k.options user password schema noTls)
          (user != noAuthUser) (k.prepared user password schema noTls) with
        ⟨_, left, world⟩ | ⟨e, left, world⟩
      · rw [create_of_ok h hconnect]
        exact .enter name rfl fun _ => Table.contains_insert _
      · rw [create_of_error h hconnect]
        exact .stay rfl fun _ => rfl

theorem abort_active_shift : Shift down k (abortActive k).state := by
  cases hname : k.activeName with
  | none =>
      simp only [abortActive, hname]
      exact .refl k
  | some name =>
      obtain ⟨session, h⟩ := exists_of_active_name hname
      by_cases hnamed : name = defaultName
      · subst hnamed
        rw [abort_active_of_default hname h]
        refine .stay rfl fun other => ?_
        simp only [EStateM.Result.state_ok, Table.contains_insert, Table.contains_erase]
        by_cases heq : other = defaultName
        · simp [heq, (active_name_eq_some_iff.mp hname).2]
        · simp [heq]
      · rw [abort_active_of_named hname hnamed h]
        exact make_way_shift hnamed rfl fun _ => Table.contains_erase

theorem close_active_shift (shutdown quiet : Bool) :
    Shift shutdown k (closeActive shutdown quiet k).state := by
  cases hname : k.activeName with
  | none =>
      rw [close_active_of_none hname]
      exact .refl k
  | some name =>
      obtain ⟨session, h⟩ := exists_of_active_name hname
      by_cases hclosable : name ≠ defaultName ∨ shutdown = true
      · obtain ⟨console, -, -, hstate⟩ := close_active_eq quiet hname h hclosable
        rw [hstate]
        cases shutdown with
        | true => exact .leave name (.inl rfl) rfl fun _ => Table.contains_erase
        | false =>
            exact make_way_shift (hclosable.resolve_right nofun) rfl fun _ => Table.contains_erase
      · obtain ⟨rfl, rfl⟩ : name = defaultName ∧ shutdown = false := by simpa using hclosable
        rw [close_active_of_default hname]
        exact .refl k

theorem safe_close_shift (name : String) : Shift true k (k.safeClose name) := by
  cases h : k.sessions.get? name with
  | none =>
      rw [safe_close_of_absent h]
      exact .refl k
  | some session =>
      rw [safe_close_eq h]
      exact .leave name (.inl rfl) rfl fun _ => Table.contains_erase

omit [Session σ ω] in
theorem on_active_shift {α : Type} (act : EStateM SessionError σ α) :
    Shift down k (onActive act k).state := by
  rcases on_active_state (k := k) act with ⟨-, hstate⟩ | ⟨name, session, hname, -, hstate⟩
  · rw [hstate]
    exact .refl k
  · rw [hstate]
    exact .stay rfl fun _ => contains_insert_present (active_name_eq_some_iff.mp hname).2

/-- Every operation does one of the things that can happen to a registry. -/
theorem step_shift (operation : Operation) :
    Shift operation.shutsDown k (k.step operation) := by
  cases operation with
  | connectDefault expired noAuth plain =>
      rw [step, perform, state_silently]
      exact connect_default_shift expired noAuth plain
  | create name user password schema noTls =>
      rw [step, perform, state_silently]
      exact create_shift name user password schema noTls
  | setActive name quiet =>
      rw [step, perform, state_silently]
      exact set_active_shift name quiet
  | abortActive =>
      rw [step, perform, state_silently]
      exact abort_active_shift
  | closeActive shutdown quiet =>
      rw [step, perform, state_silently]
      exact close_active_shift shutdown quiet
  | safeClose name => exact safe_close_shift name
  | destroy arrangement => exact .clear rfl rfl fun _ => rfl
  | send message =>
      rw [step, perform, state_silently]
      exact on_active_shift _
  | receive =>
      rw [step_receive]
      exact on_active_shift _
  | closeTransport =>
      rw [step, perform, state_silently]
      exact on_active_shift _

/-! ## Runs -/

theorem run_active_registered (hk : k.ActiveRegistered) (operations : List Operation) :
    (k.run operations).ActiveRegistered := by
  induction operations generalizing k with
  | nil => exact hk
  | cons operation operations ih => exact ih ((step_shift operation).active_registered hk)

/-- Until something is shut down, the default session is there and some session is active. -/
theorem run_default_kept (hdefault : k.sessions.contains defaultName = true)
    (hsome : k.active ≠ none) (operations : List Operation)
    (hup : ∀ operation ∈ operations, operation.shutsDown = false) :
    (k.run operations).sessions.contains defaultName = true ∧ (k.run operations).active ≠ none := by
  induction operations generalizing k with
  | nil => exact ⟨hdefault, hsome⟩
  | cons operation operations ih =>
      have hshift := step_shift (k := k) operation
      rw [hup operation (by simp)] at hshift
      exact ih (hshift.default_kept hdefault) (hshift.active_kept hdefault hsome)
        fun later hlater => hup later (List.mem_cons_of_mem _ hlater)

/-- A session that was created is registered. -/
theorem contains_of_create_ok {name user password schema : String} {noTls : Bool}
    (h : (create name user password schema noTls k).outcome = .ok ()) :
    (create name user password schema noTls k).state.sessions.contains name = true := by
  cases hpresent : k.sessions.contains name with
  | true =>
      rw [create_of_present hpresent] at h
      cases h
  | false =>
      rcases hconnect : Session.connect (namedOptions k.options user password schema noTls)
          (user != noAuthUser) (k.prepared user password schema noTls) with
        ⟨_, left, world⟩ | ⟨e, left, world⟩
      · rw [create_of_ok hpresent hconnect]
        simp [Table.contains_insert]
      · rw [create_of_error hpresent hconnect] at h
        cases h

/-- Where the default session is missing it was shut down, and was not created again since. -/
theorem run_default_missing (hdefault : k.sessions.contains defaultName = true)
    (operations : List Operation)
    (hmissing : (k.run operations).sessions.contains defaultName = false) :
    ∃ earlier operation later, operations = earlier ++ operation :: later ∧
      operation.shutsDown = true ∧
      (k.run earlier).sessions.contains defaultName = true ∧
      (k.run (earlier ++ [operation])).sessions.contains defaultName = false ∧
      ∀ between user password schema noTls rest,
        later = between ++ .create defaultName user password schema noTls :: rest →
          ∃ e, (perform (.create defaultName user password schema noTls)
            (k.run (earlier ++ operation :: between))).outcome = .error e := by
  -- Induction from the end: either the last operation let the default session go, or it was
  -- missing before.
  induction operations using List.reverseRecOn with
  | nil =>
      rw [run_nil, hdefault] at hmissing
      cases hmissing
  | append_singleton operations last ih =>
      rw [run_concat] at hmissing
      cases hbefore : (k.run operations).sessions.contains defaultName with
      | true =>
          refine ⟨operations, last, [], rfl, ?_, hbefore, by rw [run_concat, hmissing], by simp⟩
          cases hdown : last.shutsDown with
          | true => rfl
          | false =>
              have hshift := step_shift (k := k.run operations) last
              rw [hdown] at hshift
              rw [hshift.default_kept hbefore] at hmissing
              cases hmissing
      | false =>
          obtain ⟨earlier, operation, later, rfl, hdown, hthere, hgone, hsince⟩ := ih hbefore
          refine ⟨earlier, operation, later ++ [last], by simp, hdown, hthere, hgone, ?_⟩
          intro between user password schema noTls rest hsplit
          -- Either the last operation is the `create` in question, or it comes after it.
          rcases List.eq_nil_or_concat rest with rfl | ⟨rest, final, rfl⟩
          · obtain ⟨rfl, hlast⟩ := List.append_inj' hsplit rfl
            obtain rfl : last = .create defaultName user password schema noTls := by
              simpa using hlast
            rw [step, perform, state_silently] at hmissing
            simp only [perform, silently]
            cases hcreate : create defaultName user password schema noTls
                (k.run (earlier ++ operation :: later)) with
            | ok _ next =>
                have hregistered := contains_of_create_ok (congrArg EStateM.Result.outcome hcreate)
                rw [hregistered] at hmissing
                cases hmissing
            | error e next => exact ⟨e, rfl⟩
          · rw [List.concat_eq_append, ← List.cons_append, ← List.append_assoc] at hsplit
            exact hsince between user password schema noTls rest (List.append_inj' hsplit rfl).1

/-- Along every run of a new keeper the active name has a session; the default session is there,
and some session active, until something is shut down; and where the default session is missing,
an operation that shuts down removed it and no `create` has brought it back since. -/
theorem registry_along_runs (options : Options) (console : Console) (world : ω)
    (operations : List Operation) :
    let start : Keeper σ ω := new options console world
    let k := start.run operations
    (∀ name, k.active = some name → k.sessions.contains name = true) ∧
      k.activeName = k.active ∧
      ((∀ operation ∈ operations, operation.shutsDown = false) →
        k.sessions.contains defaultName = true ∧ ∃ name, k.activeName = some name) ∧
      (k.sessions.contains defaultName = false →
        ∃ earlier operation later, operations = earlier ++ operation :: later ∧
          operation.shutsDown = true ∧
          (start.run earlier).sessions.contains defaultName = true ∧
          (start.run (earlier ++ [operation])).sessions.contains defaultName = false ∧
          ∀ between user password schema noTls rest,
            later = between ++ .create defaultName user password schema noTls :: rest →
              ∃ e, (perform (.create defaultName user password schema noTls)
                (start.run (earlier ++ operation :: between))).outcome = .error e) := by
  intro start k
  have hdefault : start.sessions.contains defaultName = true := by
    simp [start, new, Table.contains_insert]
  have hstart : start.ActiveRegistered := by
    intro name hname
    obtain rfl : defaultName = name := Option.some.inj hname
    exact hdefault
  have hregistered : k.ActiveRegistered := run_active_registered hstart operations
  refine ⟨hregistered, hregistered.active_name_eq, fun hup => ?_, run_default_missing hdefault _⟩
  obtain ⟨hkept, hsome⟩ := run_default_kept hdefault nofun operations hup
  refine ⟨hkept, ?_⟩
  rw [hregistered.active_name_eq]
  exact Option.ne_none_iff_exists'.mp hsome

/-- A run in which a session is created keeps the default session, and one that ends with closing
the default session loses it there. -/
theorem registry_along_create_and_close :
    let start : Keeper Scripted Scripts := new {} (Console.new false) ⟨[], 0⟩
    let created : Operation := .create "a" "" "" "" false
    let closed : Operation := .safeClose defaultName
    ((start.run [created]).sessions.contains defaultName = true ∧
        ∃ name, (start.run [created]).activeName = some name) ∧
      (start.run [created, closed]).sessions.contains defaultName = false ∧
      ∃ earlier operation later, [created, closed] = earlier ++ operation :: later ∧
        operation.shutsDown = true := by
  intro start created closed
  have hmissing : (start.run [created, closed]).sessions.contains defaultName = false := by
    decide
  obtain ⟨-, -, hup, -⟩ := registry_along_runs (σ := Scripted) {} (Console.new false) ⟨[], 0⟩ [created]
  obtain ⟨-, -, -, hdown⟩ :=
    registry_along_runs (σ := Scripted) {} (Console.new false) ⟨[], 0⟩ [created, closed]
  obtain ⟨earlier, operation, later, hsplit, hshut, -⟩ := hdown hmissing
  exact ⟨hup (by simp [created, Operation.shutsDown]), hmissing, earlier, operation, later,
    hsplit, hshut⟩

end SessionKeeper.Keeper
