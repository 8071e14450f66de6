import SessionKeeper.Proofs.Outcome
import SessionKeeper.Session.Basic

/-!
# Numbered sessions

A numbered session passes every call on to the session inside it and carries a number, by which it
can be told from every other session. Sessions are numbered in the order in which they are created,
and nothing changes a number.
-/

namespace SessionKeeper

/-- A session with its number. -/
structure Numbered (σ : Type) where
  number : Nat
  session : σ

/-- An environment with the number of sessions created in it so far. -/
structure Counted (ω : Type) where
  world : ω
  made : Nat

namespace Numbered

variable {σ ω α : Type}

/-- Let the session inside act. -/
def pass (act : EStateM SessionError σ α) : EStateM SessionError (Numbered σ) α := fun s =>
  match act s.session with
  | .ok a session => .ok a { s with session }
  | .error e session => .error e { s with session }

@[simp]
theorem number_pass (act : EStateM SessionError σ α) (s : Numbered σ) :
    (pass act s).state.number = s.number := by
  unfold pass
  cases act s.session <;> rfl

/-- Change the session inside. -/
def adjust (f : σ → σ) (s : Numbered σ) : Numbered σ :=
  { s with session := f s.session }

end Numbered

instance {σ : Type} [Channel σ] : Channel (Numbered σ) where
  send m := Numbered.pass (Channel.send m)
  receive := Numbered.pass Channel.receive
  isOpen s := Channel.isOpen s.session
  close := Numbered.adjust Channel.close
  isOpen_close s := Channel.isOpen_close s.session

instance {σ ω : Type} [Session σ ω] : Session (Numbered σ) (Counted ω) where
  create w :=
    let made : σ × ω := Session.create w.world
    (⟨w.made, made.1⟩, ⟨made.2, w.made + 1⟩)
  setTls w o := Numbered.adjust (Session.setTls w.world o)
  countMessages := Numbered.adjust Session.countMessages
  setCapability c value := Numbered.adjust (Session.setCapability c value)
  setAuthMethod m := Numbered.adjust (Session.setAuthMethod m)
  setIpMode mode := Numbered.adjust (Session.setIpMode mode)
  connect o authenticate := fun (s, w) =>
    match Session.connect o authenticate (s.session, w.world) with
    | .ok () (session, world) => .ok () ({ s with session }, { w with world })
    | .error e (session, world) => .error e ({ s with session }, { w with world })
  clientId s := Session.clientId s.session
  receivedCount s := Session.receivedCount s.session
  traffic s := Session.traffic s.session
  isOpen_create w := Session.isOpen_create (σ := σ) w.world
  receivedCount_create w := Session.receivedCount_create (σ := σ) w.world

namespace Numbered

variable {σ ω : Type} [Session σ ω]

/-- Connecting changes neither the number of a session nor how many there are. -/
theorem connect_keeps_number (o : Options) (authenticate : Bool) (s : Numbered σ) (w : Counted ω) :
    let left := (Session.connect o authenticate (s, w)).state
    left.1.number = s.number ∧ left.2.made = w.made := by
  cases hresult : Session.connect o authenticate (s.session, w.world) with
  | ok _ p => simp [Session.connect, hresult]
  | error e p => simp [Session.connect, hresult]

end Numbered

end SessionKeeper
