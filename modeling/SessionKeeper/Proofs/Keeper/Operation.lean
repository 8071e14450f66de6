import SessionKeeper.Keeper.Close
import SessionKeeper.Keeper.Connect
import SessionKeeper.Proofs.Outcome

/-!
# Runs of a keeper

An operation is one call to a keeper with its arguments, and a run carries out operations one
after the other, whatever each of them returns. The order in which `destroy` meets the named
sessions is part of the call, so a run stands for every order.
-/

namespace SessionKeeper

/-- A choice of the order in which names are met. -/
structure Arrangement where
  arrange : List String → List String
  perm : ∀ names : List String, (arrange names).Perm names

/-- A call to a keeper. -/
inductive Operation where
  | connectDefault (expired noAuth plain : Bool)
  | create (name user password schema : String) (noTls : Bool)
  | setActive (name : String) (quiet : Bool)
  | abortActive
  | closeActive (shutdown quiet : Bool)
  | safeClose (name : String)
  | destroy (arrangement : Arrangement)
  | send (message : ClientMessage)
  | receive
  | closeTransport

/-- Whether the operation may let the default session go for good. -/
def Operation.shutsDown : Operation → Bool
  | closeActive shutdown _ => shutdown
  | safeClose _ | destroy _ => true
  | connectDefault .. | create .. | setActive .. | abortActive | send _ | receive
  | closeTransport => false

/-- Whether the operation connects a session. -/
def Operation.connects : Operation → Bool
  | connectDefault .. | create .. => true
  | setActive .. | abortActive | closeActive .. | safeClose _ | destroy _ | send _ | receive
  | closeTransport => false

/-- Whether the operation says farewell to a server. -/
def Operation.saysFarewell : Operation → Bool
  | closeActive .. | safeClose _ | destroy _ => true
  | connectDefault .. | create .. | setActive .. | abortActive | send _ | receive
  | closeTransport => false

namespace Keeper

variable {σ ω : Type} [Session σ ω]

omit [Session σ ω] in
/-- Carry out an action that returns no message. -/
def silently (act : EStateM KeeperError (Keeper σ ω) Unit) :
    EStateM KeeperError (Keeper σ ω) (Option ServerMessage) := fun k =>
  match act k with
  | .ok () k => .ok none k
  | .error e k => .error e k

/-- Carry out an operation; only receiving returns a message. -/
def perform : Operation → EStateM KeeperError (Keeper σ ω) (Option ServerMessage)
  | .connectDefault expired noAuth plain => silently (connectDefault expired noAuth plain)
  | .create name user password schema noTls => silently (create name user password schema noTls)
  | .setActive name quiet => silently (setActive name quiet)
  | .abortActive => silently abortActive
  | .closeActive shutdown quiet => silently (closeActive shutdown quiet)
  | .safeClose name => fun k => .ok none (k.safeClose name)
  | .destroy arrangement => fun k =>
      .ok none (k.destroyIn (arrangement.arrange k.namedSessions))
  | .send message => silently (send message)
  | .receive => fun k =>
      match receive k with
      | .ok message k => .ok (some message) k
      | .error e k => .error e k
  | .closeTransport => silently closeTransport

/-- The keeper after an operation. -/
def step (k : Keeper σ ω) (operation : Operation) : Keeper σ ω :=
  (perform operation k).state

/-- The keeper after operations. -/
def run (k : Keeper σ ω) (operations : List Operation) : Keeper σ ω :=
  operations.foldl step k

omit [Session σ ω] in
@[simp]
theorem state_silently (act : EStateM KeeperError (Keeper σ ω) Unit) (k : Keeper σ ω) :
    (silently act k).state = (act k).state := by
  unfold silently
  cases act k <;> rfl

omit [Session σ ω] in
theorem silently_eq_ok_iff {act : EStateM KeeperError (Keeper σ ω) Unit} {k : Keeper σ ω} :
    (silently act k).outcome = .ok none ↔ (act k).outcome = .ok () := by
  unfold silently
  cases act k <;> simp

omit [Session σ ω] in
theorem silently_eq_error_iff {act : EStateM KeeperError (Keeper σ ω) Unit} {k : Keeper σ ω}
    {e : KeeperError} : (silently act k).outcome = .error e ↔ (act k).outcome = .error e := by
  unfold silently
  cases act k <;> simp

theorem perform_receive_eq_error_iff {k : Keeper σ ω} {e : KeeperError} :
    (perform .receive k).outcome = .error e ↔ (receive k).outcome = .error e := by
  simp only [perform]
  cases receive k <;> simp

/-- A message that is received does not change what receiving leaves. -/
theorem step_receive (k : Keeper σ ω) : k.step .receive = (receive k).state := by
  simp only [step, perform]
  cases receive k <;> rfl

@[simp]
theorem run_nil (k : Keeper σ ω) : k.run [] = k :=
  rfl

theorem run_concat (k : Keeper σ ω) (operations : List Operation) (operation : Operation) :
    k.run (operations ++ [operation]) = (k.run operations).step operation := by
  simp [run]

end Keeper

end SessionKeeper
