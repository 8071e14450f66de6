import Mathlib.Algebra.BigOperators.Group.Finset.Basic
import Mathlib.Data.UInt
import SessionKeeper.Proofs.Network.Framing
import SessionKeeper.Proofs.Network.Grammar

/-!
# The books of what was received

A session counts twice what it receives: every frame that it reads as traffic, and every message by
its name, as soon as that is asked for. `Chronicle` lists what there is to be counted in the course
of a session: the frames that the server had sent when the session received, whether it received
alone or while it connected. `books_of_receive` compares one receive with its entry in that list,
and the main statement, `receipts_accounted`, all the counters with the whole list.
-/

namespace SessionKeeper

open NetworkSession (send receive)

/-! ## What is entered -/

/-- Something that is entered in the books. -/
inductive Entry where
  /-- From then on messages are counted by name. -/
  | counting
  /-- A frame was read that is a message. -/
  | message (f : Frame)
  /-- A frame was read that is no message. -/
  | scrap (f : Frame)
  deriving DecidableEq

/-- The frame that was read. -/
def Entry.frame? : Entry → Option Frame
  | counting => none
  | message f | scrap f => some f

/-- The frame that is a message. -/
def Entry.message? : Entry → Option Frame
  | message f => some f
  | counting | scrap _ => none

/-- The frames that were read. -/
def framesIn (history : List Entry) : List Frame :=
  history.filterMap Entry.frame?

/-- The frames among them that are messages. -/
def messagesIn (history : List Entry) : List Frame :=
  history.filterMap Entry.message?

/-- The messages from the first time on that counting was asked for, if it was. -/
def countedIn : List Entry → Option (List Frame)
  | [] => none
  | .counting :: history => some (messagesIn history)
  | .message _ :: history | .scrap _ :: history => countedIn history

theorem frames_in_cons (entry : Entry) (history : List Entry) :
    framesIn (entry :: history) = entry.frame?.toList ++ framesIn history := by
  cases entry <;> rfl

/-- The bytes of a frame come next, and its length is accepted. -/
def Connection.Offers (c : Connection) (f : Frame) : Prop :=
  f.payload.length < Frame.maxLength ∧ ∃ rest, c.unread = f.encode ++ rest

/-- What a receive is to be entered as: the frame that comes next, if there is one. -/
inductive Noted (c : Connection) : Except SessionError ServerMessage → List Entry → Prop where
  | message {f : Frame} {m : ServerMessage} (hoffers : c.Offers f)
      (hmessage : ServerMessage.ofFrame f = .ok m) : Noted c (.ok m) [.message f]
  | scrap {f : Frame} {e : SessionError} (hoffers : c.Offers f)
      (hscrap : ServerMessage.ofFrame f = .error e) : Noted c (.error e) [.scrap f]
  | nothing {e : SessionError} (hnone : ∀ f, ¬ c.Offers f) : Noted c (.error e) []

/-- What comes of an event that is a receive. -/
def Event.receipt? : Event → Option (Except SessionError ServerMessage)
  | received m => some (.ok m)
  | missed e => some (.error e)
  | sent _ | unsent .. | secured _ | unsecured .. => none

/-- A dialogue with the entries of its receives. -/
inductive Booked : NetworkSession → List Event → List Entry → NetworkSession → Prop where
  | nil (s : NetworkSession) : Booked s [] [] s
  | receipt {s t u : NetworkSession} {event : Event} {talk : List Event}
      {r : Except SessionError ServerMessage} {entries later : List Entry}
      (hfirst : Happens s event t) (hreceipt : event.receipt? = some r)
      (hnoted : Noted s.connection r entries) (hlater : Booked t talk later u) :
      Booked s (event :: talk) (entries ++ later) u
  | other {s t u : NetworkSession} {event : Event} {talk : List Event} {later : List Entry}
      (hfirst : Happens s event t) (hother : event.receipt? = none)
      (hlater : Booked t talk later u) : Booked s (event :: talk) later u

/-- Something that is done with a session, or that its server does. -/
inductive Move where
  | connect (o : Options) (authenticated : Bool)
  | countMessages
  | occurs (occasion : Occasion)
  | close
  | setTls (o : Options)
  | setCapability (capability : Capability) (value : Bool)
  | setAuthMethod (method : AuthMethod)
  | setIpMode (mode : IpMode)

/-- What a move makes of a session and its host. -/
def Move.after (w : NetworkSession × Host) : Move → NetworkSession × Host
  | connect o authenticated => (NetworkSession.connect o authenticated w).state
  | countMessages => (Session.countMessages w.1, w.2)
  | occurs occasion => (w.1.after occasion, w.2)
  | close => (Channel.close w.1, w.2)
  | setTls o => (Session.setTls w.2 o w.1, w.2)
  | setCapability capability value => (Session.setCapability capability value w.1, w.2)
  | setAuthMethod method => (Session.setAuthMethod method w.1, w.2)
  | setIpMode mode => (Session.setIpMode mode w.1, w.2)

/-- What a move brings to be entered. A connect brings what is received in its talk. -/
inductive Move.Brings (s : NetworkSession) (h : Host) : Move → List Entry → Prop where
  | unopened {o : Options} {authenticated : Bool} {e : SessionError} {g : Host}
      (hopen : Host.openTransport o s.ipMode h = .error e g) :
      Brings s h (.connect o authenticated) []
  | opened {o : Options} {authenticated : Bool} {x : Transport} {g : Host} {talk : List Event}
      {entries : List Entry} (hopen : Host.openTransport o s.ipMode h = .ok x g)
      (hgrammar : establishGrammar o authenticated (s.carriedBy x) talk
        (NetworkSession.connect o authenticated (s, h)).outcome)
      (hbooked : Booked (s.carriedBy x) talk entries
        (NetworkSession.connect o authenticated (s, h)).state.1) :
      Brings s h (.connect o authenticated) entries
  | counting : Brings s h .countMessages [.counting]
  | receives {entries : List Entry}
      (hnoted : Noted s.connection (receive s).outcome entries) :
      Brings s h (.occurs .receives) entries
  | sends (m : ClientMessage) : Brings s h (.occurs (.sends m)) []
  | arrives (bytes : Bytes) : Brings s h (.occurs (.arrives bytes)) []
  | ends : Brings s h (.occurs .ends) []
  | close : Brings s h .close []
  | setTls (o : Options) : Brings s h (.setTls o) []
  | setCapability (capability : Capability) (value : Bool) :
      Brings s h (.setCapability capability value) []
  | setAuthMethod (method : AuthMethod) : Brings s h (.setAuthMethod method) []
  | setIpMode (mode : IpMode) : Brings s h (.setIpMode mode) []

/-- What moves bring to be entered, one after the other. -/
inductive Chronicle : NetworkSession × Host → List Move → List Entry → Prop where
  | nil (w : NetworkSession × Host) : Chronicle w [] []
  | cons {w : NetworkSession × Host} {move : Move} {moves : List Move}
      {entries history : List Entry} (hfirst : move.Brings w.1 w.2 entries)
      (hlater : Chronicle (move.after w) moves history) :
      Chronicle w (move :: moves) (entries ++ history)

/-! ## When counting begins -/

theorem counted_in_eq_none_iff {history : List Entry} :
    countedIn history = none ↔ .counting ∉ history := by
  induction history with
  | nil => exact iff_of_true rfl List.not_mem_nil
  | cons entry history ih =>
      cases entry with
      | counting => exact iff_of_false nofun fun hnone => hnone List.mem_cons_self
      | message | scrap => simpa [countedIn] using ih

theorem Noted.not_counting {c : Connection} {r : Except SessionError ServerMessage}
    {entries : List Entry} (h : Noted c r entries) : .counting ∉ entries := by
  cases h <;> simp

theorem Booked.not_counting {s t : NetworkSession} {talk : List Event} {entries : List Entry}
    (h : Booked s talk entries t) : .counting ∉ entries := by
  induction h with
  | nil => exact List.not_mem_nil
  | receipt _ _ hnoted _ ih =>
      rw [List.mem_append, not_or]
      exact ⟨hnoted.not_counting, ih⟩
  | other _ _ _ ih => exact ih

/-- Counting is asked for by one move alone. -/
theorem Move.Brings.counting_iff {s : NetworkSession} {h : Host} {move : Move}
    {entries : List Entry} (hbrings : move.Brings s h entries) :
    .counting ∈ entries ↔ move = .countMessages := by
  cases hbrings with
  | counting => exact iff_of_true List.mem_cons_self rfl
  | opened _ _ hbooked => exact iff_of_false hbooked.not_counting nofun
  | receives hnoted => exact iff_of_false hnoted.not_counting nofun
  | unopened | sends | arrives | ends | close | setTls | setCapability | setAuthMethod
  | setIpMode =>
      exact iff_of_false List.not_mem_nil nofun

theorem Chronicle.counting_iff {w : NetworkSession × Host} {moves : List Move}
    {history : List Entry} (h : Chronicle w moves history) :
    .counting ∈ history ↔ .countMessages ∈ moves := by
  induction h with
  | nil => exact iff_of_false List.not_mem_nil List.not_mem_nil
  | cons hfirst _ ih =>
      rw [List.mem_append, List.mem_cons, hfirst.counting_iff, ih, eq_comm]

/-! ## The books -/

/-- What a session counts of what it receives. -/
structure Books where
  tally : Option Tally
  messages : UInt64
  bytes : UInt64

/-- The books that a session keeps. -/
def NetworkSession.books (s : NetworkSession) : Books :=
  ⟨s.received, s.traffic.messagesReceived, s.traffic.bytesReceived⟩

namespace Books

/-- Frames are counted as traffic. -/
def countFrame (f : Frame) (b : Books) : Books :=
  { b with messages := b.messages + 1, bytes := b.bytes + UInt64.ofNat f.size }

/-- The books with one more entry. -/
def enter (b : Books) : Entry → Books
  | .counting => { b with tally := b.tally.or (some []) }
  | .message f =>
      { b.countFrame f with tally := b.tally.map (ServerMessage.nameOfId f.type :: ·) }
  | .scrap f => b.countFrame f

variable {b : Books} {history : List Entry}

/-- Whatever is entered, every frame is counted as traffic. -/
theorem traffic_of_enter (b : Books) (entry : Entry) :
    (b.enter entry).messages = b.messages + UInt64.ofNat entry.frame?.toList.length ∧
      (b.enter entry).bytes =
        b.bytes + UInt64.ofNat (entry.frame?.toList.map Frame.size).sum := by
  cases entry <;> simp [enter, countFrame, Entry.frame?]

theorem traffic_of_history (b : Books) (history : List Entry) :
    (history.foldl enter b).messages = b.messages + UInt64.ofNat (framesIn history).length ∧
      (history.foldl enter b).bytes =
        b.bytes + UInt64.ofNat ((framesIn history).map Frame.size).sum := by
  induction history generalizing b with
  | nil => exact ⟨(UInt64.add_zero _).symm, (UInt64.add_zero _).symm⟩
  | cons entry history ih =>
      obtain ⟨hmessages, hbytes⟩ := traffic_of_enter b entry
      obtain ⟨hlater, hlaterBytes⟩ := ih (b.enter entry)
      rw [List.foldl_cons, frames_in_cons]
      constructor
      · rw [hlater, hmessages, List.length_append, UInt64.ofNat_add, UInt64.add_assoc]
      · rw [hlaterBytes, hbytes, List.map_append, List.sum_append, UInt64.ofNat_add,
          UInt64.add_assoc]

/-- Once names are tallied every message adds its name, and counting again changes nothing. -/
theorem tally_of_history (tally : Tally) (htally : b.tally = some tally) :
    (history.foldl enter b).tally =
      some
        (((messagesIn history).map fun f => ServerMessage.nameOfId f.type).reverse ++ tally) := by
  induction history generalizing b tally with
  | nil => exact htally
  | cons entry history ih =>
      rw [List.foldl_cons]
      cases entry with
      | counting => exact ih tally (by simp [enter, htally])
      | message f =>
          -- The latest name is in front, so the tally has the history backwards.
          rw [ih (ServerMessage.nameOfId f.type :: tally) (by simp [enter, htally])]
          simp [messagesIn, Entry.message?]
      | scrap f => exact ih tally htally

/-- Before that nothing is tallied. -/
theorem tally_from_none (hnone : b.tally = none) :
    (history.foldl enter b).tally =
      (countedIn history).map fun frames =>
        (frames.map fun f => ServerMessage.nameOfId f.type).reverse := by
  induction history generalizing b with
  | nil => exact hnone
  | cons entry history ih =>
      rw [List.foldl_cons]
      cases entry with
      | counting =>
          rw [tally_of_history [] (by simp [enter, hnone]), List.append_nil]
          rfl
      | message f => exact ih (by simp [enter, hnone])
      | scrap f => exact ih hnone

end Books

/-! ## Receiving -/

/-- Where nothing is unread no frame comes. -/
theorem Connection.not_offers_of_empty {c : Connection} (hempty : c.unread = []) (f : Frame) :
    ¬ c.Offers f := by
  rintro ⟨-, rest, hunread⟩
  have hlength := congrArg List.length hunread
  rw [hempty, List.length_append, Frame.length_encode, Frame.size, List.length_nil] at hlength
  omega

/-- A frame is read if its bytes come next. -/
theorem Connection.read_frame_iff_offers {c : Connection} {f : Frame} :
    (∃ d, readFrame c = .ok f d) ↔ c.Offers f := by
  cases hcurrent : c.current with
  | none =>
      -- A closed connection has nothing unread, and reading from it fails.
      have hempty : c.unread = [] := by simp only [unread, hcurrent]
      refine iff_of_false ?_ (not_offers_of_empty hempty f)
      rintro ⟨d, hread⟩
      simp only [readFrame, onTransport, hcurrent] at hread
      cases hread
  | some x =>
      have hunread : c.unread = x.unread := by simp only [unread, hcurrent]
      simp only [read_frame_of_open hcurrent, Offers, hunread]
      constructor
      · rintro ⟨d, hsize, rest, hrest, -⟩
        exact ⟨hsize, rest, hrest⟩
      · rintro ⟨hsize, rest, hrest⟩
        exact ⟨_, hsize, rest, hrest, rfl⟩

/-- A message has the id of its frame. -/
theorem ServerMessage.id_of_frame {f : Frame} {m : ServerMessage} (h : ofFrame f = .ok m) :
    m.id = f.type := by
  have hdecode : ∀ {M : Type} {schema : Protobuf.Schema M} {build : M → ServerMessage} {id : UInt8},
      decodePayload schema f.payload build = .ok m → (∀ payload, (build payload).id = id) →
        m.id = id := by
    intro M schema build id hpayload hbuild
    simp only [decodePayload] at hpayload
    split at hpayload <;> cases hpayload
    exact hbuild _
  unfold ofFrame at h
  split_ifs at h with hok herror hcapabilities hcontinue hauthenticated hnotice
  · exact (hdecode h fun _ => rfl).trans hok.symm
  · exact (hdecode h fun _ => rfl).trans herror.symm
  · cases h
    exact hcapabilities.symm
  · exact (hdecode h fun _ => rfl).trans hcontinue.symm
  · cases h
    exact hauthenticated.symm
  · exact (hdecode h fun _ => rfl).trans hnotice.symm
  · cases h
    rfl

namespace NetworkSession

variable {s : NetworkSession} {entries : List Entry}

/-- Every receive can be noted. -/
theorem exists_noted (s : NetworkSession) :
    ∃ entries, Noted s.connection (receive s).outcome entries := by
  simp only [receive]
  cases hread : s.connection.readFrame with
  | error e d =>
      refine ⟨[], .nothing fun f hoffers => ?_⟩
      obtain ⟨d', hok⟩ := Connection.read_frame_iff_offers.mpr hoffers
      cases hread.symm.trans hok
  | ok f d =>
      have hoffers : s.connection.Offers f := Connection.read_frame_iff_offers.mp ⟨d, hread⟩
      simp only
      cases hmessage : ServerMessage.ofFrame f with
      | ok m => exact ⟨_, .message hoffers hmessage⟩
      | error e => exact ⟨_, .scrap hoffers hmessage⟩

/-- A receive is booked as what it is noted as. -/
theorem books_of_receive (h : Noted s.connection (receive s).outcome entries) :
    (receive s).state.books = entries.foldl Books.enter s.books := by
  generalize (receive s).outcome = r at h
  cases h with
  | message hoffers hmessage =>
      obtain ⟨d, hread⟩ := Connection.read_frame_iff_offers.mpr hoffers
      simp only [receive, hread, hmessage, EStateM.Result.state_ok, books, List.foldl_cons,
        List.foldl_nil, Books.enter, Books.countFrame, Traffic.countReceived, ServerMessage.name,
        ServerMessage.id_of_frame hmessage]
  | scrap hoffers hscrap =>
      obtain ⟨d, hread⟩ := Connection.read_frame_iff_offers.mpr hoffers
      simp only [receive, hread, hscrap, EStateM.Result.state_error, books, List.foldl_cons,
        List.foldl_nil, Books.enter, Books.countFrame, Traffic.countReceived]
  | nothing hnone =>
      cases hread : s.connection.readFrame with
      | ok f d => exact absurd (Connection.read_frame_iff_offers.mp ⟨d, hread⟩) (hnone f)
      | error e d =>
          simp only [receive, hread, EStateM.Result.state_error, books, List.foldl_nil]

@[simp]
theorem books_learn (s : NetworkSession) (m : ServerMessage) : (s.learn m).books = s.books := by
  unfold learn
  split <;> rfl

@[simp]
theorem books_send (m : ClientMessage) (s : NetworkSession) :
    (send m s).state.books = s.books := by
  simp only [send]
  split <;> rfl

@[simp]
theorem books_encrypt (config : TlsConfig) (s : NetworkSession) :
    (encrypt config s).state.books = s.books := by
  simp only [encrypt]
  split <;> rfl

end NetworkSession

/-! ## Talks -/

variable {s t u : NetworkSession} {event : Event} {talk : List Event} {entries : List Entry}
  {r : Except SessionError ServerMessage}

/-- An event that is a receive is the one that the session has. -/
theorem Happens.receipt (h : Happens s event t) (hreceipt : event.receipt? = some r) :
    (receive s).outcome = r ∧ t.books = (receive s).state.books := by
  cases h with
  | received hreceive | missed hreceive =>
      cases hreceipt
      rw [hreceive]
      simp
  | sent | unsent | secured | unsecured => cases hreceipt

/-- Other events are not booked. -/
theorem Happens.books_of_other (h : Happens s event t) (hother : event.receipt? = none) :
    t.books = s.books := by
  cases h with
  | @sent m _ h | @unsent m _ _ h =>
      rw [← NetworkSession.books_send m s, h]
      rfl
  | @secured config _ h | @unsecured config _ _ h =>
      rw [← NetworkSession.books_encrypt config s, h]
      rfl
  | received | missed => cases hother

/-- Every dialogue has its entries. -/
theorem Dialogue.exists_booked (h : Dialogue s talk t) : ∃ entries, Booked s talk entries t := by
  induction h with
  | nil s => exact ⟨[], .nil s⟩
  | @cons s t u event talk hfirst _ ih =>
      obtain ⟨later, hlater⟩ := ih
      cases hreceipt : event.receipt? with
      | none => exact ⟨later, .other hfirst hreceipt hlater⟩
      | some r =>
          obtain ⟨entries, hnoted⟩ := NetworkSession.exists_noted s
          rw [(hfirst.receipt hreceipt).1] at hnoted
          exact ⟨entries ++ later, .receipt hfirst hreceipt hnoted hlater⟩

/-- A dialogue is booked as its receives are. -/
theorem Booked.books (h : Booked s talk entries t) :
    t.books = entries.foldl Books.enter s.books := by
  induction h with
  | nil s => rfl
  | receipt hfirst hreceipt hnoted _ ih =>
      obtain ⟨rfl, hbooks⟩ := hfirst.receipt hreceipt
      rw [ih, hbooks, NetworkSession.books_of_receive hnoted, List.foldl_append]
  | other hfirst hother _ ih => rw [ih, hfirst.books_of_other hother]

/-! ## Courses -/

namespace Move

variable {w : NetworkSession × Host} {move : Move}

/-- Every move brings something to be entered, if only nothing. -/
theorem exists_brings (w : NetworkSession × Host) (move : Move) :
    ∃ entries, move.Brings w.1 w.2 entries := by
  obtain ⟨s, h⟩ := w
  cases move with
  | connect o authenticated =>
      cases hopen : Host.openTransport o s.ipMode h with
      | error e g => exact ⟨[], .unopened hopen⟩
      | ok x g =>
          obtain ⟨houtcome, hstate⟩ :=
            @NetworkSession.connect_of_opened o authenticated _ _ _ _ hopen
          obtain ⟨talk, hgrammar, htalk⟩ :=
            (establish_follows o authenticated (s.carriedBy x)).spoken
          obtain ⟨entries, hbooked⟩ := htalk.exists_booked
          rw [← houtcome] at hgrammar
          refine ⟨entries, .opened hopen hgrammar ?_⟩
          rwa [hstate]
  | countMessages => exact ⟨_, .counting⟩
  | occurs occasion =>
      cases occasion with
      | receives =>
          obtain ⟨entries, hnoted⟩ := NetworkSession.exists_noted s
          exact ⟨entries, .receives hnoted⟩
      | sends m => exact ⟨_, .sends m⟩
      | arrives bytes => exact ⟨_, .arrives bytes⟩
      | ends => exact ⟨_, .ends⟩
  | close => exact ⟨_, .close⟩
  | setTls o => exact ⟨_, .setTls o⟩
  | setCapability capability value => exact ⟨_, .setCapability capability value⟩
  | setAuthMethod method => exact ⟨_, .setAuthMethod method⟩
  | setIpMode mode => exact ⟨_, .setIpMode mode⟩

/-- A move is booked as what it brings. -/
theorem books_after (h : move.Brings w.1 w.2 entries) :
    (move.after w).1.books = entries.foldl Books.enter w.1.books := by
  obtain ⟨s, h⟩ := w
  cases h with
  | unopened hopen =>
      simp only [after, NetworkSession.connect_of_unopened hopen]
      rfl
  | opened _ _ hbooked => exact hbooked.books
  | receives hnoted => exact NetworkSession.books_of_receive hnoted
  | sends m => exact NetworkSession.books_send m s
  | counting | arrives | ends | close | setTls | setCapability | setAuthMethod | setIpMode => rfl

end Move

namespace Chronicle

variable {w : NetworkSession × Host} {moves : List Move} {history : List Entry}

/-- Every course has its chronicle. -/
theorem exists_history (w : NetworkSession × Host) (moves : List Move) :
    ∃ history, Chronicle w moves history := by
  induction moves generalizing w with
  | nil => exact ⟨[], .nil w⟩
  | cons move moves ih =>
      obtain ⟨entries, hfirst⟩ := move.exists_brings w
      obtain ⟨history, hlater⟩ := ih (move.after w)
      exact ⟨entries ++ history, .cons hfirst hlater⟩

/-- What a session counts is what the chronicle lists. -/
theorem books (h : Chronicle w moves history) :
    (moves.foldl Move.after w).1.books = history.foldl Books.enter w.1.books := by
  induction h with
  | nil w => rfl
  | cons hfirst _ ih => rw [List.foldl_cons, ih, Move.books_after hfirst, List.foldl_append]

end Chronicle

/-! ## Names -/

namespace ServerMessage

/-- The names that messages have. -/
def names : List String :=
  ["Mysqlx.Ok", "Mysqlx.Error", "Mysqlx.Connection.Capabilities",
    "Mysqlx.Session.AuthenticateContinue", "Mysqlx.Session.AuthenticateOk", "Mysqlx.Notice.Frame",
    "Mysqlx.Resultset.ColumnMetaData", "Mysqlx.Resultset.Row", "Mysqlx.Resultset.FetchDone",
    "Mysqlx.Resultset.FetchSuspended", "Mysqlx.Resultset.FetchDoneMoreResultsets",
    "Mysqlx.Sql.StmtExecuteOk", "Mysqlx.Resultset.FetchDoneMoreOutParams", "Mysqlx.Unknown"]

theorem nodup_names : names.Nodup := by
  decide

theorem nameOfId_mem_names (id : UInt8) : nameOfId id ∈ names := by
  unfold nameOfId
  split <;> simp [names]

end ServerMessage

namespace Tally

/-- The counts of names among which all names of a tally are add up to the number of its names. -/
theorem sum_of_names {names : List String} (hnodup : names.Nodup) {tally : Tally}
    (hnames : ∀ name ∈ tally, name ∈ names) :
    (names.map tally.of).sum = UInt64.ofNat tally.length := by
  have hcounts : (names.map tally.count).sum = tally.length := by
    have hcard := Multiset.sum_count_eq_card (m := (tally : Multiset String)) fun name hname =>
      List.mem_toFinset.mpr (hnames name (Multiset.mem_coe.mp hname))
    rw [List.sum_toFinset _ hnodup] at hcard
    simpa only [Multiset.coe_count, Multiset.coe_card] using hcard
  rw [← hcounts]
  clear hcounts hnames hnodup
  induction names with
  | nil => rfl
  | cons name names ih =>
      simp only [List.map_cons, List.sum_cons, UInt64.ofNat_add, ih]
      rfl

end Tally

/-! ## What is counted -/

/-- Whatever is done with a session, what it counts is what it was offered when it received, while
it connected or alone. No message is counted by name until that is asked for; then the messages that
were received since then are, each under the name of its id, over all connections, and the counts of
all names add up to their number. As traffic every frame counts, with all its bytes, and nothing
else, whether or not the frame is a message. All counters have 64 bits. -/
theorem receipts_accounted (h : Host) (moves : List Move) :
    let s := (moves.foldl Move.after (.new, h)).1
    (∃ history, Chronicle (.new, h) moves history) ∧
    ∀ history, Chronicle (.new, h) moves history →
      (∀ name, Session.receivedCount s name = none ↔ .countMessages ∉ moves) ∧
      (∀ name, Session.receivedCount s name =
        (countedIn history).map fun frames =>
          UInt64.ofNat ((frames.map fun f => ServerMessage.nameOfId f.type).count name)) ∧
      (∀ frames, countedIn history = some frames →
        (ServerMessage.names.map fun name => (Session.receivedCount s name).getD 0).sum =
          UInt64.ofNat frames.length) ∧
      (Session.traffic s).messagesReceived = UInt64.ofNat (framesIn history).length ∧
      (Session.traffic s).bytesReceived =
        UInt64.ofNat ((framesIn history).map Frame.size).sum := by
  intro s
  refine ⟨Chronicle.exists_history _ _, fun history hhistory => ?_⟩
  have hbooks : s.books = history.foldl Books.enter NetworkSession.new.books := hhistory.books
  have htally : s.received = (countedIn history).map fun frames =>
      (frames.map fun f => ServerMessage.nameOfId f.type).reverse :=
    (congrArg Books.tally hbooks).trans (Books.tally_from_none rfl)
  obtain ⟨hmessages, hbytes⟩ := Books.traffic_of_history NetworkSession.new.books history
  have hcount : ∀ name, Session.receivedCount s name = s.received.map (Tally.of · name) :=
    fun _ => rfl
  refine ⟨fun name => ?_, fun name => ?_, fun frames hframes => ?_, ?_, ?_⟩
  · rw [hcount, htally, Option.map_eq_none_iff, Option.map_eq_none_iff, counted_in_eq_none_iff,
      hhistory.counting_iff]
  · rw [hcount, htally, Option.map_map]
    refine congrArg (Option.map · _) (funext fun frames => ?_)
    simp only [Function.comp_apply, Tally.of, List.count_reverse]
  · rw [hframes] at htally
    simp only [hcount, htally, Option.map_some, Option.getD_some]
    rw [Tally.sum_of_names ServerMessage.nodup_names, List.length_reverse, List.length_map]
    intro name hname
    obtain ⟨f, -, rfl⟩ := List.mem_map.mp (List.mem_reverse.mp hname)
    exact ServerMessage.nameOfId_mem_names f.type
  · exact (congrArg Books.messages hbooks).trans (hmessages.trans (UInt64.zero_add _))
  · exact (congrArg Books.bytes hbooks).trans (hbytes.trans (UInt64.zero_add _))

/-- A host with a server that sends three frames, one of them no message, and another server that
admits whoever asks. -/
def talkativeHost : Host :=
  (Host.new .empty .empty).listenAt "s"
    [.plain (Frame.encode ⟨4, []⟩ ++ Frame.encode ⟨0, [255]⟩ ++ Frame.encode ⟨99, []⟩) false,
      .plain (Frame.encode ⟨4, []⟩) false]

/-- A client that begins to count behind the first message of the first server, and once more before
it authenticates with the second. -/
def lateCounting : List Move :=
  let o : Options := { socket := "s" }
  [.connect o false, .occurs .receives, .countMessages, .occurs .receives, .occurs .receives,
    .occurs .receives, .countMessages, .setAuthMethod .plain, .connect o true]

/-- Four frames are read. One of them is no message, and one comes too early to be counted. -/
theorem receipts_accounted_from_late_counting :
    ∃ history frames, Chronicle (.new, talkativeHost) lateCounting history ∧
      countedIn history = some frames ∧
      UInt64.ofNat ((frames.map fun f => ServerMessage.nameOfId f.type).count
        "Mysqlx.Unknown") = 1 ∧
      UInt64.ofNat frames.length = 2 ∧
      UInt64.ofNat (framesIn history).length = 4 ∧
      UInt64.ofNat ((framesIn history).map Frame.size).sum = 21 := by
  obtain ⟨⟨history, hhistory⟩, haccounted⟩ := receipts_accounted talkativeHost lateCounting
  obtain ⟨-, hcounts, hsum, hmessages, hbytes⟩ := haccounted history hhistory
  have hunknown : Session.receivedCount
      (lateCounting.foldl Move.after (.new, talkativeHost)).1 "Mysqlx.Unknown" = some 1 := by
    decide +kernel
  have htotal : (ServerMessage.names.map fun name => (Session.receivedCount
      (lateCounting.foldl Move.after (.new, talkativeHost)).1 name).getD 0).sum = 2 := by
    decide +kernel
  have hread : (Session.traffic
      (lateCounting.foldl Move.after (.new, talkativeHost)).1).messagesReceived = 4 := by
    decide +kernel
  have hsize : (Session.traffic
      (lateCounting.foldl Move.after (.new, talkativeHost)).1).bytesReceived = 21 := by
    decide +kernel
  rw [hcounts] at hunknown
  obtain ⟨frames, hframes, hone⟩ := Option.map_eq_some_iff.mp hunknown
  refine ⟨history, frames, hhistory, hframes, hone, ?_, ?_, ?_⟩
  · rw [← hsum frames hframes, htotal]
  · rw [← hmessages, hread]
  · rw [← hbytes, hsize]

end SessionKeeper
