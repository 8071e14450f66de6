import SessionKeeper.Session.Basic

/-!
# Recorded sessions

A recorded session passes every call on to the session inside it and writes it down. A journal shows
a call to close only if it closed an open transport.
-/

namespace SessionKeeper

/-- A call to a session. -/
inductive Call where
  | setTls (options : TlsOptions)
  | countMessages
  | setCapability (capability : Capability) (value : Bool)
  | setAuthMethod (method : AuthMethod)
  | setIpMode (mode : IpMode)
  /-- A connect, with the authentication method if the session is to authenticate. -/
  | connect (options : Options) (method : Option AuthMethod)
  | send (message : ClientMessage)
  | receive
  /-- A call to close the transport, which was open or not. -/
  | close (wasOpen : Bool)
  deriving DecidableEq, Repr

/-- The line of a call in a journal; the choice of an authentication method shows only in the
connect that uses it, and closing only if there was something to close. -/
def Call.line? : Call → Option String
  | setTls o => some ("ssl mode=" ++ o.mode ++ " ca=" ++ o.ca ++ " tls=" ++ o.versions)
  | countMessages => some "callbacks"
  | setCapability c value =>
      some ("capability " ++ c.name ++ "=" ++ (if value then "true" else "false"))
  | setAuthMethod _ => none
  | setIpMode mode => some ("ip_mode " ++ mode.name)
  | connect o method =>
      some ("connect user=" ++ o.user ++ " password=" ++ o.password ++ " schema=" ++ o.schema ++
        " auth=" ++ (match method with | some m => m.name | none => "none"))
  | send m => some ("send " ++ m.name)
  | receive => some "recv"
  | close wasOpen => if wasOpen then some "close" else none

/-- A session with the calls made to it, oldest first. -/
structure Recorded (σ : Type) where
  session : σ
  method : AuthMethod
  calls : List Call

namespace Recorded

variable {σ : Type}

/-- A session to which no call was made. -/
def new (session : σ) : Recorded σ := ⟨session, .mysql41, []⟩

/-- Write a call down. -/
def note (call : Call) (r : Recorded σ) : Recorded σ :=
  { r with calls := r.calls ++ [call] }

/-- Write a call down that turned the session inside into the given one. -/
def next (call : Call) (session : σ) (r : Recorded σ) : Recorded σ :=
  { r.note call with session }

@[simp]
theorem session_next (call : Call) (s : σ) (r : Recorded σ) : (r.next call s).session = s :=
  rfl

@[simp]
theorem calls_next (call : Call) (s : σ) (r : Recorded σ) :
    (r.next call s).calls = r.calls ++ [call] :=
  rfl

/-- Write a call down, and let the session inside act. -/
def pass {α : Type} (call : Call) (act : EStateM SessionError σ α) :
    EStateM SessionError (Recorded σ) α := fun r =>
  match act r.session with
  | .ok a session => .ok a (r.next call session)
  | .error e session => .error e (r.next call session)

/-- A call that succeeds on the session inside succeeds. -/
theorem pass_ok {α : Type} {call : Call} {act : EStateM SessionError σ α} {r : Recorded σ} {a : α}
    {s : σ} (h : act r.session = .ok a s) : pass call act r = .ok a (r.next call s) := by
  simp [pass, h]

/-- A call that fails on the session inside fails. -/
theorem pass_error {α : Type} {call : Call} {act : EStateM SessionError σ α} {r : Recorded σ}
    {e : SessionError} {s : σ} (h : act r.session = .error e s) :
    pass call act r = .error e (r.next call s) := by
  simp [pass, h]

/-- Write a call down, and change the session inside. -/
def adjust (call : Call) (f : σ → σ) (r : Recorded σ) : Recorded σ :=
  r.next call (f r.session)

/-- Close the session inside, and write down whether it was open. -/
def close [Channel σ] (r : Recorded σ) : Recorded σ :=
  r.adjust (.close (Channel.isOpen r.session)) Channel.close

/-- The lines of the journal. -/
def lines (r : Recorded σ) : List String :=
  r.calls.filterMap Call.line?

end Recorded

instance {σ : Type} [Channel σ] : Channel (Recorded σ) where
  send m := Recorded.pass (.send m) (Channel.send m)
  receive := Recorded.pass .receive Channel.receive
  isOpen r := Channel.isOpen r.session
  close r := r.close
  isOpen_close r := Channel.isOpen_close r.session

namespace Recorded

variable {σ : Type} [Channel σ]

@[simp]
theorem isOpen_session (r : Recorded σ) : Channel.isOpen r = Channel.isOpen r.session :=
  rfl

@[simp]
theorem session_close (r : Recorded σ) : (Channel.close r).session = Channel.close r.session :=
  rfl

@[simp]
theorem calls_close (r : Recorded σ) :
    (Channel.close r).calls = r.calls ++ [.close (Channel.isOpen r.session)] :=
  rfl

end Recorded

instance {σ ω : Type} [Session σ ω] : Session (Recorded σ) ω where
  create w :=
    let made : σ × ω := Session.create w
    (.new made.1, made.2)
  setTls w o := Recorded.adjust (.setTls o.tls) (Session.setTls w o)
  countMessages := Recorded.adjust .countMessages Session.countMessages
  setCapability c value :=
    Recorded.adjust (.setCapability c value) (Session.setCapability c value)
  setAuthMethod m r :=
    { r.adjust (.setAuthMethod m) (Session.setAuthMethod m) with method := m }
  setIpMode mode := Recorded.adjust (.setIpMode mode) (Session.setIpMode mode)
  connect o authenticate := fun (r, w) =>
    let noted := r.note (.connect o (if authenticate then some r.method else none))
    match Session.connect o authenticate (r.session, w) with
    | .ok () (session, w) => .ok () ({ noted with session }, w)
    | .error e (session, w) => .error e ({ noted with session }, w)
  clientId r := Session.clientId r.session
  receivedCount r := Session.receivedCount r.session
  traffic r := Session.traffic r.session
  isOpen_create w := Session.isOpen_create (σ := σ) w
  receivedCount_create w := Session.receivedCount_create (σ := σ) w

end SessionKeeper
