import SessionKeeper.Closing
import SessionKeeper.Keeper.Basic

/-!
# Switching, aborting and closing sessions

Another session is made active by its name. Aborting lets the active session go without a word to
the server; closing says farewell first, and lets the session go on every path. At the end every
session is closed, the default session last.
-/

namespace SessionKeeper.Keeper

variable {σ ω : Type} [Session σ ω]

/-- Make another session the active one. -/
def setActive (name : String) (quiet : Bool) : EStateM KeeperError (Keeper σ ω) Unit := fun k =>
  match k.sessions.get? name with
  | none => .error (k.noSuchSession name) k
  | some session =>
      let k := ({ k with active := some name }).publishClientId (Session.clientId session)
      .ok () (k.printUnless quiet ("switched to session " ++ shownName name ++ "\n"))

theorem active_name_of_set_active {k next : Keeper σ ω} {name : String} {quiet : Bool}
    (h : setActive name quiet k = .ok () next) : next.activeName = some name := by
  unfold setActive at h
  cases hsession : k.sessions.get? name with
  | none => simp [hsession] at h
  | some session =>
      have hcontains : k.sessions.contains name = true :=
        Table.contains_iff_exists.mpr ⟨session, hsession⟩
      simp only [hsession] at h
      cases h
      cases quiet <;>
        simp [activeName, publishClientId, printUnless, print, Option.filter, hcontains]

/-- Take a session out of the registry and close its transport. -/
def retire (k : Keeper σ ω) (name : String) : Keeper σ ω :=
  match k.sessions.get? name with
  | none => k
  | some session =>
      { k with sessions := k.sessions.erase name, retired := Channel.close session :: k.retired }

/-- Put a new session, not connected, under the name of the default session. -/
def renewDefault (k : Keeper σ ω) : Keeper σ ω :=
  let made : σ × ω := Session.create k.world
  { k with sessions := k.sessions.insert defaultName made.1, world := made.2 }

/-- Let the active session go without closing it properly. The default session is replaced by a
new one; otherwise the default session becomes active. -/
def abortActive : EStateM KeeperError (Keeper σ ω) Unit := fun k =>
  match k.activeName with
  | none => .error (.misuse .noActiveSession) k
  | some name =>
      let k := k.printUnless name.isEmpty ("aborting session " ++ name ++ "\n")
      let k := k.retire name
      let k := { k with ledger := k.ledger.countAborted }
      if name = defaultName then .ok () k.renewDefault
      else setActive defaultName false { k with active := none }

/-- Take a session out of the registry, close its transport and count it as closed. -/
def release (k : Keeper σ ω) (name : String) : Keeper σ ω :=
  if k.sessions.contains name then
    { k.retire name with ledger := k.ledger.countClosed }
  else k

/-- Say farewell on a session. -/
def sayFarewell (name : String) (quiet : Bool) : EStateM KeeperError (Keeper σ ω) Unit := fun k =>
  match k.sessions.get? name with
  | none => .ok () k
  | some session =>
      let settle (c : Closing σ) : Keeper σ ω :=
        { k with
          console := c.console
          sessions := k.sessions.insert name c.channel
          ledger := { k.ledger with violations := k.ledger.violations + c.violations } }
      match Closing.run (Closing.new session k.console (!k.options.skipWait) quiet) with
      | .ok () c => .ok () (settle c)
      | .error e c => .error e (settle c)

/-- Make the default session active again, unless everything is shut down. -/
def restore (shutdown quiet : Bool) : EStateM KeeperError (Keeper σ ω) Unit := fun k =>
  if shutdown then .ok () k else setActive defaultName quiet k

/-- Close the active session, and make the default session active unless everything is shut down.
The error of the farewell comes before an error of that. -/
def closeActive (shutdown quiet : Bool) : EStateM KeeperError (Keeper σ ω) Unit := fun k =>
  match k.activeName with
  | none => if shutdown then .ok () k else .error (.misuse .noActiveSession) k
  | some name =>
      if name.isEmpty && !shutdown then .error (.misuse .closeDefault) k
      else
        let k := k.printUnless (name.isEmpty || quiet) ("closing session " ++ name ++ "\n")
        match sayFarewell name quiet k with
        | .ok () k => restore shutdown quiet { k.release name with active := none }
        | .error e k =>
            match restore shutdown quiet { k.release name with active := none } with
            | .ok () k => .error e k
            | .error _ k => .error e k

/-- Closing that succeeds has made the default session active. -/
theorem default_active_of_close_active {k next : Keeper σ ω} {quiet : Bool}
    (h : closeActive false quiet k = .ok () next) : next.isDefaultActive = true := by
  unfold closeActive at h
  split at h
  · cases h
  · split at h
    · cases h
    · -- Only a farewell without an error is followed by a success.
      dsimp only at h
      split at h
      · simp [isDefaultActive, active_name_of_set_active h]
      · split at h <;> cases h

/-- Close a session at the end; an error does not matter any more. -/
def safeClose (name : String) (k : Keeper σ ω) : Keeper σ ω :=
  match setActive name true k with
  | .error _ k => k
  | .ok () k =>
      match closeActive true true k with
      | .ok () k => k
      | .error _ k => k

/-- Close sessions at the end, in the given order. -/
def closeEach (order : List String) (k : Keeper σ ω) : Keeper σ ω :=
  order.foldl (fun k name => k.safeClose name) k

/-- Close the default session at the end, if it is there. -/
def closeDefault (k : Keeper σ ω) : Keeper σ ω :=
  if k.sessions.contains defaultName then k.safeClose defaultName else k

/-- Let go of whatever is left, without a word to the server. -/
def abandon (k : Keeper σ ω) : Keeper σ ω :=
  { k with
    sessions := .empty
    active := none
    retired := k.sessions.entries.map (fun entry => Channel.close entry.2) ++ k.retired }

/-- Close the named sessions in the given order and then the default session; whatever is left is
let go. -/
def destroyIn (order : List String) (k : Keeper σ ω) : Keeper σ ω :=
  (k.closeEach order).closeDefault.abandon

/-- The names of the sessions beside the default session. -/
def namedSessions (k : Keeper σ ω) : List String :=
  k.sessions.names.filter (· != defaultName)

/-- Close every session, the default session last. -/
def destroy (k : Keeper σ ω) : Keeper σ ω :=
  k.destroyIn k.namedSessions

end SessionKeeper.Keeper
