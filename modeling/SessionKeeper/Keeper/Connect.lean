import SessionKeeper.Keeper.Basic

/-!
# Connecting sessions

The default session is connected with the keeper's own options; a named session is created with
those options as its caller changes them, and becomes the active one. A session that cannot be
connected changes nothing else.
-/

namespace SessionKeeper.Keeper

variable {σ ω : Type} [Session σ ω]

/-- Set the default session up for a connect. -/
def prepareDefault (o : Options) (world : ω) (expired plain : Bool) (session : σ) : σ :=
  let session := Session.countMessages (Session.setTls world o session)
  let session := if expired then Session.setCapability .expiredPassword true session else session
  Session.setIpMode o.ipMode
    (Session.setAuthMethod (if plain then .plain else .mysql41) session)

/-- Whether the transport stays open after a default connect that failed: only if the TLS options
are wrong, in a connect with authentication, for then the caller closes it in due course. -/
def keepsTransport (e : SessionError) (noAuth : Bool) : Bool :=
  e.code == Code.tlsMisconfigured && !noAuth

/-- Connect the default session. -/
def connectDefault (expired noAuth plain : Bool) : EStateM KeeperError (Keeper σ ω) Unit := fun k =>
  let k := k.printVerbose "Connecting...\n"
  match k.sessions.get? defaultName with
  | none => .error (k.noSuchSession defaultName) k
  | some session =>
      let session := prepareDefault k.options k.world expired plain session
      match Session.connect k.options (!noAuth) (session, k.world) with
      | .error e (session, world) =>
          let session := if keepsTransport e noAuth then session else Channel.close session
          .error (.session e)
            { k with
              sessions := k.sessions.insert defaultName session
              ledger := k.ledger.countFailed
              world }
      | .ok () (session, world) =>
          let id := Session.clientId session
          let k :=
            { k with
              sessions := k.sessions.insert defaultName session
              ledger := k.ledger.countOpened
              world }
          let k := k.publishClientId id
          .ok () (k.printVerbose ("Connected client #" ++ toString id.toNat ++ "\n"))

/-- The options of a named session: user and password are replaced together, and only if a user is
given. -/
def namedOptions (o : Options) (user password schema : String) (noTls : Bool) : Options :=
  { o with
    tls := if noTls then .empty else o.tls
    user := if user.isEmpty then o.user else user
    password := if user.isEmpty then o.password else password
    schema := if schema.isEmpty then o.schema else schema }

/-- Set a new session up for a connect. -/
def prepareNamed (ipMode : IpMode) (o : Options) (world : ω) (session : σ) : σ :=
  Session.countMessages (Session.setTls world o (Session.setIpMode ipMode session))

/-- Create and connect a named session, and make it the active one. -/
def create (name user password schema : String) (noTls : Bool) :
    EStateM KeeperError (Keeper σ ω) Unit := fun k =>
  if k.sessions.contains name then .error (.misuse (.sessionExists name)) k
  else
    let k := k.print "connecting...\n"
    let o := namedOptions k.options user password schema noTls
    let made : σ × ω := Session.create k.world
    let session := prepareNamed k.options.ipMode o made.2 made.1
    match Session.connect o (user != noAuthUser) (session, made.2) with
    | .error e (session, world) =>
        .error (.session e)
          { k with
            ledger := k.ledger.countFailed
            retired := Channel.close session :: k.retired
            world }
    | .ok () (session, world) =>
        let id := Session.clientId session
        let k :=
          { k with
            sessions := k.sessions.insert name session
            active := some name
            ledger := k.ledger.countOpened
            world }
        let k := (k.publishClientId id).print ("active session is now '" ++ name ++ "'\n")
        .ok () (k.printVerbose ("Connected client #" ++ toString id.toNat ++ "\n"))

end SessionKeeper.Keeper
