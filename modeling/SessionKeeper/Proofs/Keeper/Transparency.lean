import SessionKeeper.Proofs.Keeper.Operation
import SessionKeeper.Proofs.Keeper.Steps
import SessionKeeper.Session.Numbered
import SessionKeeper.Session.Recorded

/-!
# Keepers of sessions that pass calls on

A view of sessions is transparent if every call to a session is the same call to what is seen of it.
A keeper then does to the sessions what a keeper of their views does to the views, and
`TransparentSession.run_new_map` says so for whole runs. So neither writing calls down nor numbering
sessions changes what a keeper does.
-/

namespace SessionKeeper

namespace Table

variable {α β : Type}

/-- The table of the views of its values. -/
def map (f : α → β) (t : Table α) : Table β where
  entries := t.entries.map fun entry => (entry.1, f entry.2)
  nodup := by
    rw [List.map_map]
    exact t.nodup

variable (f : α → β) (t : Table α) (name : String)

@[simp]
theorem names_map : (t.map f).names = t.names := by
  simp [names, map, Function.comp_def]

@[simp]
theorem get?_map : (t.map f).get? name = (t.get? name).map f := by
  simp only [get?, map]
  induction t.entries with
  | nil => rfl
  | cons entry entries ih =>
      simp only [List.map_cons, find?]
      split
      · rfl
      · exact ih

@[simp]
theorem contains_map : (t.map f).contains name = t.contains name := by
  simp [contains]

@[simp]
theorem insert_map (value : α) : (t.map f).insert name (f value) = (t.insert name value).map f := by
  apply eq_of_entries_eq
  unfold insert
  simp only [get?_map, Option.map_eq_none_iff]
  split
  · simp [map]
  · simp only [map, replaceIn, List.map_map]
    refine List.map_congr_left fun entry _ => ?_
    by_cases h : entry.1 = name <;> simp [h]

@[simp]
theorem erase_map : (t.map f).erase name = (t.erase name).map f := by
  apply eq_of_entries_eq
  simp [erase, map, List.filter_map, Function.comp_def]

@[simp]
theorem sorted_names_map : (t.map f).sortedNames = t.sortedNames := by
  rw [sortedNames, names_map, sortedNames]

end Table

/-! ## Closing -/

section Channels

variable {π ρ : Type} [Channel π] [Channel ρ] {f : π → ρ}

/-- Every call to a channel is the same call to what is seen of it. -/
structure Transparent (f : π → ρ) : Prop where
  isOpen : ∀ p, Channel.isOpen (f p) = Channel.isOpen p
  close : ∀ p, Channel.close (f p) = f (Channel.close p)
  send : ∀ m p, Channel.send m (f p) = (Channel.send m p).mapState f
  receive : ∀ p, Channel.receive (f p) = (Channel.receive p).mapState f

omit [Channel π] [Channel ρ] in
/-- What is seen of a session that is being closed. -/
def Closing.map (f : π → ρ) (c : Closing π) : Closing ρ :=
  ⟨f c.channel, c.console, c.wait, c.quiet, c.phase, c.violations⟩

namespace Transparent

variable (h : Transparent f) (c : Closing π)
include h

theorem await_disconnect_map : (c.map f).awaitDisconnect = c.awaitDisconnect.map f := by
  obtain ⟨channel, console, wait, quiet, phase, violations⟩ := c
  simp only [Closing.awaitDisconnect, Closing.map, h.receive]
  cases Channel.receive channel with
  | error e p => rfl
  | ok extra p => cases quiet <;> rfl

theorem receive_reply_map :
    Closing.receiveReply (c.map f) = (Closing.receiveReply c).mapState (Closing.map f) := by
  simp only [Closing.receiveReply, Closing.map, h.receive]
  cases Channel.receive c.channel <;> rfl

theorem exchange_map :
    Closing.exchange (c.map f) = (Closing.exchange c).mapState (Closing.map f) := by
  simp only [Closing.exchange]
  rw [show (c.map f).channel = f c.channel from rfl, h.send]
  cases Channel.send .close c.channel with
  | error e p => rfl
  | ok _ p =>
      simp only [EStateM.Result.map_state_ok]
      have hreply := h.receive_reply_map { c with channel := p }
      rw [show ({ c with channel := p } : Closing π).map f =
        { c.map f with channel := f p } from rfl] at hreply
      rw [hreply]
      cases Closing.receiveReply { c with channel := p } with
      | error e d => rfl
      | ok reply d =>
          simp only [EStateM.Result.map_state_ok]
          cases reply.isFarewell with
          | false => rfl
          | true =>
              simp only [if_true, EStateM.Result.map_state_ok, h.await_disconnect_map]
              cases hwait : d.wait <;> simp [Closing.map, hwait]

theorem closing_run_map : Closing.run (c.map f) = (Closing.run c).mapState (Closing.map f) := by
  have hopen : Channel.isOpen (c.map f).channel = Channel.isOpen c.channel := h.isOpen _
  simp only [Closing.run, hopen]
  cases Channel.isOpen c.channel with
  | false => rfl
  | true =>
      have hexchange := h.exchange_map { c with phase := .closing }
      rw [show ({ c with phase := .closing } : Closing π).map f =
        { c.map f with phase := .closing } from rfl] at hexchange
      simp only [if_true, hexchange]
      cases Closing.exchange { c with phase := .closing } with
      | ok _ d => simp [Closing.finish, Closing.map, h.close]
      | error e d => simp [Closing.finish, Closing.map, h.close]

end Transparent

end Channels

namespace Keeper

variable {σ ω τ υ : Type} {f : σ → τ} {g : ω → υ}

/-- What is seen of a keeper. -/
def map (f : σ → τ) (g : ω → υ) (k : Keeper σ ω) : Keeper τ υ :=
  { options := k.options
    published := k.published
    console := k.console
    sessions := k.sessions.map f
    active := k.active
    ledger := k.ledger
    retired := k.retired.map f
    world := g k.world }

variable (k : Keeper σ ω)

@[simp]
theorem active_name_map : (k.map f g).activeName = k.activeName := by
  simp [activeName, map, funext (Table.contains_map f k.sessions)]

@[simp]
theorem get?_sessions_map (name : String) :
    (k.map f g).sessions.get? name = (k.sessions.get? name).map f :=
  Table.get?_map f k.sessions name

@[simp]
theorem contains_sessions_map (name : String) :
    (k.map f g).sessions.contains name = k.sessions.contains name :=
  Table.contains_map f k.sessions name

@[simp]
theorem no_such_session_map (name : String) :
    (k.map f g).noSuchSession name = k.noSuchSession name := by
  simp [noSuchSession, names, map]

@[simp]
theorem print_unless_map (quiet : Bool) (text : String) :
    (k.map f g).printUnless quiet text = (k.printUnless quiet text).map f g := by
  cases quiet <;> rfl

@[simp]
theorem named_sessions_map : (k.map f g).namedSessions = k.namedSessions := by
  simp [namedSessions, map]

variable [Session σ ω] [Session τ υ]

/-- Every call to a session is the same call to what is seen of it, in what is seen of the
environment. -/
structure TransparentSession (f : σ → τ) (g : ω → υ) : Prop extends Transparent f where
  create : ∀ w, Session.create (g w) = Prod.map f g (Session.create w)
  setTls : ∀ w o s, Session.setTls (g w) o (f s) = f (Session.setTls w o s)
  countMessages : ∀ s, Session.countMessages (f s) = f (Session.countMessages s)
  setCapability : ∀ c value s,
    Session.setCapability c value (f s) = f (Session.setCapability c value s)
  setAuthMethod : ∀ method s,
    Session.setAuthMethod method (f s) = f (Session.setAuthMethod method s)
  setIpMode : ∀ mode s, Session.setIpMode mode (f s) = f (Session.setIpMode mode s)
  connect : ∀ o authenticate s w, Session.connect o authenticate (f s, g w) =
    (Session.connect o authenticate (s, w)).mapState (Prod.map f g)
  clientId : ∀ s, Session.clientId (f s) = Session.clientId s

namespace TransparentSession

variable (h : TransparentSession f g)
include h

theorem new_map (o : Options) (console : Console) (world : ω) :
    new o console (g world) = (new o console world : Keeper σ ω).map f g := by
  simp only [new, map, h.create]
  rfl

theorem set_active_map (name : String) (quiet : Bool) :
    setActive name quiet (k.map f g) = (setActive name quiet k).mapState (map f g) := by
  simp only [setActive, get?_sessions_map]
  cases k.sessions.get? name with
  | none => simp
  | some session =>
      simp only [Option.map_some, h.clientId, EStateM.Result.map_state_ok]
      rw [← print_unless_map]
      rfl

theorem retire_map (name : String) : (k.map f g).retire name = (k.retire name).map f g := by
  simp only [retire, get?_sessions_map]
  cases k.sessions.get? name with
  | none => rfl
  | some session => simp [map, h.close]

theorem release_map (name : String) : (k.map f g).release name = (k.release name).map f g := by
  simp only [release, h.retire_map, contains_sessions_map]
  cases k.sessions.contains name <;> rfl

theorem renew_default_map : (k.map f g).renewDefault = k.renewDefault.map f g := by
  simp only [renewDefault]
  rw [show (k.map f g).world = g k.world from rfl, h.create]
  simp [map]

theorem abort_active_map :
    abortActive (k.map f g) = (abortActive k).mapState (map f g) := by
  simp only [abortActive, active_name_map]
  cases k.activeName with
  | none => rfl
  | some name =>
      simp only [print_unless_map, h.retire_map]
      split
      · rw [EStateM.Result.map_state_ok, ← h.renew_default_map]
        rfl
      · rw [← h.set_active_map]
        rfl

theorem say_farewell_map (name : String) (quiet : Bool) :
    sayFarewell name quiet (k.map f g) = (sayFarewell name quiet k).mapState (map f g) := by
  simp only [sayFarewell, get?_sessions_map]
  cases k.sessions.get? name with
  | none => rfl
  | some session =>
      have hrun := h.closing_run_map
        (Closing.new session k.console (!k.options.skipWait) quiet)
      simp only [Option.map_some]
      rw [show Closing.new (f session) (k.map f g).console (!(k.map f g).options.skipWait) quiet =
        (Closing.new session k.console (!k.options.skipWait) quiet).map f from rfl, hrun]
      cases Closing.run (Closing.new session k.console (!k.options.skipWait) quiet) with
      | ok _ c => simp [map, Closing.map]
      | error e c => simp [map, Closing.map]

theorem restore_map (shutdown quiet : Bool) :
    restore shutdown quiet (k.map f g) = (restore shutdown quiet k).mapState (map f g) := by
  cases shutdown with
  | true => rfl
  | false => exact h.set_active_map k defaultName quiet

theorem close_active_map (shutdown quiet : Bool) :
    closeActive shutdown quiet (k.map f g) =
      (closeActive shutdown quiet k).mapState (map f g) := by
  simp only [closeActive, active_name_map]
  cases k.activeName with
  | none => cases shutdown <;> rfl
  | some name =>
      simp only [print_unless_map, h.say_farewell_map]
      cases name.isEmpty && !shutdown with
      | true => rfl
      | false =>
          simp only [Bool.false_eq_true, if_false]
          cases sayFarewell name quiet
              (k.printUnless (name.isEmpty || quiet) ("closing session " ++ name ++ "\n")) with
          | ok _ left =>
              simp only [EStateM.Result.map_state_ok, h.release_map]
              exact h.restore_map { left.release name with active := none } shutdown quiet
          | error e left =>
              have hrestore :=
                h.restore_map { left.release name with active := none } shutdown quiet
              simp only [EStateM.Result.map_state_error, h.release_map]
              rw [show restore shutdown quiet { (left.release name).map f g with active := none } =
                _ from hrestore]
              cases restore shutdown quiet { left.release name with active := none } <;> rfl

theorem safe_close_map (name : String) :
    (k.map f g).safeClose name = (k.safeClose name).map f g := by
  simp only [safeClose, h.set_active_map]
  cases setActive name true k with
  | error e left => rfl
  | ok _ left =>
      simp only [EStateM.Result.map_state_ok, h.close_active_map]
      cases closeActive true true left <;> rfl

theorem close_each_map (order : List String) :
    (k.map f g).closeEach order = (k.closeEach order).map f g := by
  induction order generalizing k with
  | nil => rfl
  | cons name order ih =>
      show ((k.map f g).safeClose name).closeEach order =
        ((k.safeClose name).closeEach order).map f g
      rw [h.safe_close_map, ih]

theorem destroy_in_map (order : List String) :
    (k.map f g).destroyIn order = (k.destroyIn order).map f g := by
  have hdefault : ∀ left : Keeper σ ω, (left.map f g).closeDefault = left.closeDefault.map f g := by
    intro left
    simp only [closeDefault, contains_sessions_map, h.safe_close_map]
    split <;> rfl
  rw [destroyIn, destroyIn, h.close_each_map, hdefault]
  simp [abandon, map, Table.map, Table.empty, Function.comp_def, h.close]

theorem prepare_default_map (o : Options) (world : ω) (expired plain : Bool) (session : σ) :
    prepareDefault o (g world) expired plain (f session) =
      f (prepareDefault o world expired plain session) := by
  cases expired <;>
    simp [prepareDefault, h.setTls, h.countMessages, h.setCapability, h.setAuthMethod, h.setIpMode]

theorem connect_default_map (expired noAuth plain : Bool) :
    connectDefault expired noAuth plain (k.map f g) =
      (connectDefault expired noAuth plain k).mapState (map f g) := by
  cases hsession : k.sessions.get? defaultName with
  | none =>
      have habsent : (k.map f g).sessions.get? defaultName = none := by simp [hsession]
      rw [connect_default_of_absent hsession, connect_default_of_absent habsent,
        no_such_session_map]
      rfl
  | some session =>
      have hthere : (k.map f g).sessions.get? defaultName = some (f session) := by simp [hsession]
      have hconnected := h.connect k.options (!noAuth)
        (prepareDefault k.options k.world expired plain session) k.world
      rw [← h.prepare_default_map] at hconnected
      rcases hconnect : Session.connect k.options (!noAuth)
          (prepareDefault k.options k.world expired plain session, k.world) with
        ⟨_, left, world⟩ | ⟨e, left, world⟩
      · rw [hconnect] at hconnected
        rw [connect_default_of_ok hsession hconnect, connect_default_of_ok hthere hconnected]
        simp [map, h.clientId]
      · rw [hconnect] at hconnected
        rw [connect_default_of_error hsession hconnect, connect_default_of_error hthere hconnected]
        cases keepsTransport e noAuth <;> simp [map, h.close]

theorem prepared_map (user password schema : String) (noTls : Bool) :
    (k.map f g).prepared user password schema noTls =
      Prod.map f g (k.prepared user password schema noTls) := by
  simp only [prepared, prepareNamed]
  rw [show (k.map f g).world = g k.world from rfl, h.create]
  simp [map, h.setTls, h.countMessages, h.setIpMode]

theorem create_map (name user password schema : String) (noTls : Bool) :
    Keeper.create name user password schema noTls (k.map f g) =
      (Keeper.create name user password schema noTls k).mapState (map f g) := by
  cases hname : k.sessions.contains name with
  | true =>
      have hthere : (k.map f g).sessions.contains name = true := by simp [hname]
      rw [create_of_present hname, create_of_present hthere]
      rfl
  | false =>
      have habsent : (k.map f g).sessions.contains name = false := by simp [hname]
      have hconnected := h.connect (namedOptions k.options user password schema noTls)
        (user != noAuthUser) (k.prepared user password schema noTls).1
        (k.prepared user password schema noTls).2
      rw [← Prod.map_apply, ← h.prepared_map] at hconnected
      rcases hconnect : Session.connect (namedOptions k.options user password schema noTls)
          (user != noAuthUser) (k.prepared user password schema noTls) with
        ⟨_, left, world⟩ | ⟨e, left, world⟩
      · rw [hconnect] at hconnected
        rw [create_of_ok hname hconnect, create_of_ok habsent hconnected]
        simp [map, h.clientId]
      · rw [hconnect] at hconnected
        rw [create_of_error hname hconnect, create_of_error habsent hconnected]
        simp [map, h.close]

omit [Session σ ω] [Session τ υ] h in
theorem on_active_map {α : Type} {act : EStateM SessionError σ α} {seen : EStateM SessionError τ α}
    (hact : ∀ s, seen (f s) = (act s).mapState f) :
    onActive seen (k.map f g) = (onActive act k).mapState (map f g) := by
  cases hname : k.activeName with
  | none =>
      simp only [onActive, active_name_map, hname]
      rfl
  | some name =>
      obtain ⟨session, hsession⟩ := exists_of_active_name hname
      simp only [onActive, active_name_map, get?_sessions_map, hname, hsession, Option.map_some,
        hact]
      cases act session <;> simp [map]

omit [Session σ ω] [Session τ υ] h in
theorem silently_map {act : EStateM KeeperError (Keeper σ ω) Unit}
    {seen : EStateM KeeperError (Keeper τ υ) Unit}
    (hact : seen (k.map f g) = (act k).mapState (map f g)) :
    silently seen (k.map f g) = (silently act k).mapState (map f g) := by
  simp only [silently, hact]
  cases act k <;> rfl

/-- What an operation does to a keeper is what it does to what is seen of it. -/
theorem perform_map (operation : Operation) :
    perform operation (k.map f g) = (perform operation k).mapState (map f g) := by
  cases operation with
  | connectDefault expired noAuth plain =>
      exact silently_map k (h.connect_default_map k expired noAuth plain)
  | create name user password schema noTls =>
      exact silently_map k (h.create_map k name user password schema noTls)
  | setActive name quiet => exact silently_map k (h.set_active_map k name quiet)
  | abortActive => exact silently_map k (h.abort_active_map k)
  | closeActive shutdown quiet => exact silently_map k (h.close_active_map k shutdown quiet)
  | safeClose name => simp only [perform, h.safe_close_map, EStateM.Result.map_state_ok]
  | destroy arrangement =>
      simp only [perform, named_sessions_map, h.destroy_in_map, EStateM.Result.map_state_ok]
  | send message => exact silently_map k (on_active_map k (h.send message))
  | receive =>
      have hreceive : receive (k.map f g) = (receive k).mapState (map f g) :=
        on_active_map k h.receive
      simp only [perform, hreceive]
      cases receive k <;> rfl
  | closeTransport =>
      refine silently_map k (on_active_map k fun s => ?_)
      rw [h.close]
      rfl

/-- What is seen of a run is a run of what is seen. -/
theorem run_map (operations : List Operation) :
    (k.map f g).run operations = (k.run operations).map f g := by
  induction operations generalizing k with
  | nil => rfl
  | cons operation operations ih =>
      have hstep : (k.map f g).step operation = (k.step operation).map f g := by
        rw [step, h.perform_map, EStateM.Result.state_map_state]
        rfl
      show ((k.map f g).step operation).run operations =
        ((k.step operation).run operations).map f g
      rw [hstep, ih]

/-- So what is seen of a keeper after a run is what a keeper of the views comes to. -/
theorem run_new_map (o : Options) (console : Console) (world : ω) (operations : List Operation) :
    ((new o console world : Keeper σ ω).run operations).map f g =
      (new o console (g world)).run operations := by
  rw [h.new_map, h.run_map]

end TransparentSession

end Keeper

/-! ## Sessions that pass calls on -/

variable {σ ω : Type} [Session σ ω]

/-- Writing calls down does not show. -/
theorem Recorded.transparent : Keeper.TransparentSession (Recorded.session (σ := σ)) (@id ω) where
  isOpen _ := rfl
  close _ := rfl
  send m r := by
    show Channel.send m r.session = (Recorded.pass (.send m) (Channel.send m) r).mapState _
    unfold Recorded.pass
    cases Channel.send m r.session <;> rfl
  receive r := by
    show Channel.receive r.session = (Recorded.pass .receive Channel.receive r).mapState _
    unfold Recorded.pass
    cases Channel.receive r.session <;> rfl
  create _ := rfl
  setTls _ _ _ := rfl
  countMessages _ := rfl
  setCapability _ _ _ := rfl
  setAuthMethod _ _ := rfl
  setIpMode _ _ := rfl
  connect o authenticate r w := by
    cases hresult : Session.connect o authenticate (r.session, w) with
    | ok _ p => simp [Session.connect, hresult]
    | error e p => simp [Session.connect, hresult]
  clientId _ := rfl

/-- Numbering sessions does not show. -/
theorem Numbered.transparent :
    Keeper.TransparentSession (Numbered.session (σ := σ)) (Counted.world (ω := ω)) where
  isOpen _ := rfl
  close _ := rfl
  send m s := by
    show Channel.send m s.session = (Numbered.pass (Channel.send m) s).mapState _
    unfold Numbered.pass
    cases Channel.send m s.session <;> rfl
  receive s := by
    show Channel.receive s.session = (Numbered.pass Channel.receive s).mapState _
    unfold Numbered.pass
    cases Channel.receive s.session <;> rfl
  create _ := rfl
  setTls _ _ _ := rfl
  countMessages _ := rfl
  setCapability _ _ _ := rfl
  setAuthMethod _ _ := rfl
  setIpMode _ _ := rfl
  connect o authenticate s w := by
    cases hresult : Session.connect o authenticate (s.session, w.world) with
    | ok _ p => simp [Session.connect, hresult]
    | error e p => simp [Session.connect, hresult]
  clientId _ := rfl

end SessionKeeper
