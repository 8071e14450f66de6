/-!
# Outcomes of actions

An action on a state ends in a value or in an error, and leaves a state either way. `outcome` and
`state` take the result of an action apart, and `mapState` keeps the outcome with a view of the
state. What is done with an outcome ends in a value if both parts do, and else in the error of the
first part that fails.
-/

namespace EStateM.Result

variable {ε σ α : Type}

/-- The value or the error in which an action ends. -/
def outcome : EStateM.Result ε σ α → Except ε α
  | .ok a _ => .ok a
  | .error e _ => .error e

/-- The state that an action leaves. -/
def state : EStateM.Result ε σ α → σ
  | .ok _ s => s
  | .error _ s => s

@[simp]
theorem outcome_ok (a : α) (s : σ) : (EStateM.Result.ok a s : EStateM.Result ε σ α).outcome = .ok a :=
  rfl

@[simp]
theorem outcome_error (e : ε) (s : σ) :
    (EStateM.Result.error e s : EStateM.Result ε σ α).outcome = .error e :=
  rfl

@[simp]
theorem state_ok (a : α) (s : σ) : (EStateM.Result.ok a s : EStateM.Result ε σ α).state = s :=
  rfl

@[simp]
theorem state_error (e : ε) (s : σ) : (EStateM.Result.error e s : EStateM.Result ε σ α).state = s :=
  rfl

theorem eq_ok_iff {r : EStateM.Result ε σ α} {a : α} {s : σ} :
    r = .ok a s ↔ r.outcome = .ok a ∧ r.state = s := by
  cases r <;> simp

theorem eq_error_iff {r : EStateM.Result ε σ α} {e : ε} {s : σ} :
    r = .error e s ↔ r.outcome = .error e ∧ r.state = s := by
  cases r <;> simp

section View

variable {τ : Type}

/-- The same ending with a view of the state. -/
def mapState (f : σ → τ) : EStateM.Result ε σ α → EStateM.Result ε τ α
  | .ok a s => .ok a (f s)
  | .error e s => .error e (f s)

@[simp]
theorem map_state_ok (f : σ → τ) (a : α) (s : σ) :
    (EStateM.Result.ok a s : EStateM.Result ε σ α).mapState f = .ok a (f s) :=
  rfl

@[simp]
theorem map_state_error (f : σ → τ) (e : ε) (s : σ) :
    (EStateM.Result.error e s : EStateM.Result ε σ α).mapState f = .error e (f s) :=
  rfl

@[simp]
theorem state_map_state (f : σ → τ) (r : EStateM.Result ε σ α) :
    (r.mapState f).state = f r.state := by
  cases r <;> rfl

theorem eq_map_state_iff {f : σ → τ} {r : EStateM.Result ε σ α} {r' : EStateM.Result ε τ α} :
    r' = r.mapState f ↔ r'.outcome = r.outcome ∧ r'.state = f r.state := by
  cases r with
  | ok a s => exact eq_ok_iff
  | error e s => exact eq_error_iff

end View

end EStateM.Result

namespace Except

variable {ε α β : Type} {x : Except ε α} {f : α → Except ε β}

theorem eq_ok_of_toOption {a : α} (h : x.toOption = some a) : x = .ok a := by
  cases x with
  | error e => cases h
  | ok b =>
      cases h
      rfl

theorem bind_eq_ok_iff {b : β} : x.bind f = .ok b ↔ ∃ a, x = .ok a ∧ f a = .ok b := by
  cases x <;> simp [Except.bind]

theorem bind_eq_error_iff {e : ε} :
    x.bind f = .error e ↔ x = .error e ∨ ∃ a, x = .ok a ∧ f a = .error e := by
  cases x <;> simp [Except.bind]

theorem mapError_eq_ok_iff {δ : Type} {g : ε → δ} {a : α} :
    x.mapError g = .ok a ↔ x = .ok a := by
  cases x with
  | error e => exact iff_of_false nofun nofun
  | ok b => constructor <;> (rintro ⟨⟩; rfl)

theorem mapError_eq_error_iff {δ : Type} {g : ε → δ} {d : δ} :
    x.mapError g = .error d ↔ ∃ e, x = .error e ∧ g e = d := by
  cases x with
  | error e =>
      constructor
      · rintro ⟨⟩
        exact ⟨e, rfl, rfl⟩
      · rintro ⟨_, ⟨⟩, rfl⟩
        rfl
  | ok b => exact iff_of_false nofun nofun

end Except
