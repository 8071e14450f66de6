import SessionKeeper.Network.Session
import SessionKeeper.Proofs.Keeper.Steps
import SessionKeeper.Proofs.Network.Opening

/-!
# What sessions over the network are told

Before it connects a session over the network, a keeper replaces the settings of the session by the
ones that its options ask for. Only the capabilities of earlier connects stay, unless they are asked
for again.
-/

namespace SessionKeeper.Keeper

variable {o : Options} {k : Keeper NetworkSession Host} {s : NetworkSession}

/-- The policy of a session that was told the options. -/
def tlsOf (o : Options) (h : Host) : Except SessionError TlsPolicy :=
  (TlsPolicy.ofOptions h.reader h.files o.tls).mapError TlsFault.sessionError

/-- The policy of the options is told to the session as it is. -/
theorem tls_of_eq_ok_iff {h : Host} {policy : TlsPolicy} :
    tlsOf o h = .ok policy ↔ TlsPolicy.ofOptions h.reader h.files o.tls = .ok policy := by
  unfold tlsOf
  cases TlsPolicy.ofOptions h.reader h.files o.tls with
  | error fault => constructor <;> intro hok <;> cases hok
  | ok found =>
      constructor
      · intro hok
        cases hok
        rfl
      · intro hok
        cases hok
        rfl

/-- A fault of the options is told as an error of the session. -/
theorem tls_of_eq_error_iff {h : Host} {e : SessionError} :
    tlsOf o h = .error e ↔
      ∃ fault, TlsPolicy.ofOptions h.reader h.files o.tls = .error fault ∧
        e = fault.sessionError := by
  unfold tlsOf
  cases TlsPolicy.ofOptions h.reader h.files o.tls with
  | error fault =>
      constructor
      · intro herror
        cases herror
        exact ⟨fault, rfl, rfl⟩
      · rintro ⟨_, ⟨⟩, rfl⟩
        rfl
  | ok policy =>
      constructor
      · intro herror
        cases herror
      · rintro ⟨_, ⟨⟩, -⟩

/-- The capabilities of a session that was told whether to ask for the one of expired passwords. -/
def askedFor (expired : Bool) (capabilities : List (Capability × Bool)) :
    List (Capability × Bool) :=
  if expired then
    capabilities.filter (fun entry => entry.1 ≠ .expiredPassword) ++ [(.expiredPassword, true)]
  else capabilities

/-- The default session as it is connected. -/
theorem prepare_default_eq (o : Options) (h : Host) (expired plain : Bool) (s : NetworkSession) :
    prepareDefault o h expired plain s =
      { s with
        received := s.received.or (some [])
        tls := tlsOf o h
        capabilities := askedFor expired s.capabilities
        authMethod := if plain then .plain else .mysql41
        ipMode := o.ipMode } := by
  cases expired <;> rfl

@[simp]
theorem connection_prepare_default (o : Options) (h : Host) (expired plain : Bool)
    (s : NetworkSession) : (prepareDefault o h expired plain s).connection = s.connection := by
  rw [prepare_default_eq]

/-- A new session as it is connected. -/
theorem prepared_eq (user password schema : String) (noTls : Bool) :
    k.prepared user password schema noTls =
      ({ NetworkSession.new with
          received := some []
          tls := tlsOf (namedOptions k.options user password schema noTls) k.world
          ipMode := k.options.ipMode }, k.world) :=
  rfl

/-- A session that is created with TLS follows the keeper's own policy. -/
theorem tls_of_named (user password schema : String) (h : Host) :
    tlsOf (namedOptions o user password schema false) h = tlsOf o h :=
  rfl

/-- The policy depends on the files alone, and on how they are read. -/
theorem tls_of_files {g h : Host} (hfiles : h.SameFiles g) : tlsOf o g = tlsOf o h := by
  rw [tlsOf, tlsOf, hfiles.files, hfiles.reader]

end SessionKeeper.Keeper
