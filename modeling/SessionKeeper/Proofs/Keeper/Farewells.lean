import Mathlib.Data.List.Induction
import SessionKeeper.Proofs.Keeper.Inheritance
import SessionKeeper.Proofs.Keeper.Leakage
import SessionKeeper.Proofs.Keeper.Preparation
import SessionKeeper.Proofs.Network.Traces

/-!
# Where the farewell is said

`Turnover.origin` says where each session of a keeper comes from when an operation was carried out,
and `step_trace` what that means for the trace of each transport: it is left, it is new, or the
farewell was added to it. Along a run these add up to a story of each transport, which
`farewell_said_last` tells: the connect that opened it, then at most one farewell, then nothing.
-/

namespace SessionKeeper

open NetworkSession (connect)

namespace Keeper

/-! ## Where sessions come from -/

section Sessions

variable {σ ω : Type} {k next : Keeper σ ω} {operation : Operation}

variable [Session σ ω]

/-- Where a session comes from that is there after an operation. -/
inductive Origin (k : Keeper σ ω) (operation : Operation) : σ → Prop where
  | left {s : σ} (h : s ∈ k.everySession) : Origin k operation s
  | treated (name : String) (s : σ) (htarget : name ∈ k.targets operation)
      (h : k.sessions.get? name = some s) :
      Origin k operation (treat k.options operation (s, k.world)).1
  | created : Origin k operation (Session.create k.world : σ × ω).1
  | entered (name user password schema : String) (noTls : Bool)
      (hoperation : operation = .create name user password schema noTls) :
      Origin k operation (k.attempt user password schema noTls).state.1
  | missed (name user password schema : String) (noTls : Bool)
      (hoperation : operation = .create name user password schema noTls) :
      Origin k operation (Channel.close (k.attempt user password schema noTls).state.1)

/-- What every session comes from that is there after an operation. -/
theorem Turnover.origin (h : Turnover k operation next) :
    ∀ s ∈ next.everySession, Origin k operation s := by
  have hk : k.Upholds k.options (Origin k operation) fun _ => True :=
    ⟨rfl, fun name s hs => .left (mem_every_session_iff.mpr (.inl ⟨name, hs⟩)),
      fun s hs => .left (mem_every_session_iff.mpr (.inr hs)), trivial⟩
  intro s hs
  rw [mem_every_session_iff] at hs
  cases h with
  | idle _ hsessions hretired =>
      rw [hsessions, hretired] at hs
      exact .left (mem_every_session_iff.mpr hs)
  | used name before htargets _ hbefore hsessions hretired =>
      rw [hsessions, hretired] at hs
      have hused : Origin k operation (treat k.options operation (before, k.world)).1 :=
        .treated name before (by rw [htargets]; exact List.mem_cons_self) hbefore
      obtain ⟨other, hother⟩ | hs := hs
      · exact hk.insert hused other s hother
      · exact hk.retired s hs
  | dismissed name before htargets _ hbefore hsessions hretired =>
      rw [hsessions, hretired, List.mem_cons] at hs
      obtain ⟨other, hother⟩ | rfl | hs := hs
      · exact hk.erase other s hother
      · exact .treated name before (by rw [htargets]; exact List.mem_cons_self) hbefore
      · exact hk.retired s hs
  | renewed before htargets _ hbefore hsessions hretired =>
      rw [hsessions, hretired, List.mem_cons] at hs
      obtain ⟨other, hother⟩ | rfl | hs := hs
      · rw [Table.get?_insert] at hother
        split at hother
        · cases hother
          exact .created
        · exact hk.erase other s hother
      · exact .treated defaultName before (by rw [htargets]; exact List.mem_cons_self) hbefore
      · exact hk.retired s hs
  | entered name user password schema noTls hoperation _ hsessions hretired =>
      rw [hsessions, hretired] at hs
      obtain ⟨other, hother⟩ | hs := hs
      · exact hk.insert (.entered name user password schema noTls hoperation) other s hother
      · exact hk.retired s hs
  | missed name user password schema noTls hoperation hsessions hretired =>
      rw [hsessions, hretired, List.mem_cons] at hs
      obtain ⟨other, hother⟩ | rfl | hs := hs
      · exact hk.registered other s hother
      · exact .missed name user password schema noTls hoperation
      · exact hk.retired s hs
  | ended arrangement hoperation hsessions hretired =>
      rw [hsessions, hretired.mem_iff, List.mem_append] at hs
      obtain ⟨other, hother⟩ | hs | hs := hs
      · cases hother
      · obtain ⟨before, hbefore, rfl⟩ := List.mem_map.mp hs
        obtain ⟨name, hname⟩ := Table.mem_values_iff.mp hbefore
        have htarget : name ∈ k.targets operation := by
          rw [hoperation]
          exact Table.contains_iff_mem_names.mp (Table.contains_iff_exists.mpr ⟨before, hname⟩)
        exact .treated name before htarget hname
      · exact hk.retired s hs

end Sessions

/-! ## What an operation leaves of a transport -/

variable {k : Keeper NetworkSession Host} {operation : Operation} {r : Trace} {s : NetworkSession}
  {x : Transport}

/-- Every transport that there was. -/
def transports (k : Keeper NetworkSession Host) : List Transport :=
  k.everySession.flatMap fun s => s.connection.transports

/-- The traces of all transports. -/
def traces (k : Keeper NetworkSession Host) : List Trace :=
  k.everySession.flatMap fun s => s.connection.traces

/-- The operation says farewell over a transport: it is the current one of a session that is to be
closed. -/
structure Parts (k : Keeper NetworkSession Host) (operation : Operation) (x : Transport) :
    Prop where
  saysFarewell : operation.saysFarewell = true
  registered : ∃ name s, name ∈ k.targets operation ∧ k.sessions.get? name = some s ∧
    s.connection.current = some x

/-- Where the trace of a transport comes from that is there after an operation. -/
inductive TraceOrigin (k : Keeper NetworkSession Host) (operation : Operation) (r : Trace) :
    Prop where
  | kept (q : Trace) (hq : q ∈ k.traces) (hstays : q.Stays r)
  /-- The transport was opened. -/
  | opened (hconnects : operation.connects = true) (hnumber : r.number = k.world.opened)
      (hsilent : NoFarewell r.written)
  /-- The farewell was said, and the transport is closed. -/
  | parted (x : Transport) (hparts : k.Parts operation x) (hnumber : r.number = x.number)
      (hclosed : r.isOpen = false) (hwritten : r.written = x.written ++ [x.farewell])

theorem mem_traces_of_session (hs : s ∈ k.everySession) (hr : r ∈ s.connection.traces) :
    r ∈ k.traces :=
  List.mem_flatMap.mpr ⟨s, hs, hr⟩

/-- Nothing is opened or written when a transport is closed. -/
theorem TraceOrigin.stays {next : Trace} (h : TraceOrigin k operation r) (hstays : r.Stays next) :
    TraceOrigin k operation next := by
  cases h with
  | kept q hq hfirst => exact .kept q hq (hfirst.trans hstays)
  | opened hconnects hnumber hsilent =>
      exact .opened hconnects (hstays.number.trans hnumber) (by rw [hstays.written]; exact hsilent)
  | parted x hparts hnumber hclosed hwritten =>
      refine .parted x hparts (hstays.number.trans hnumber) ?_ (hstays.written.trans hwritten)
      cases hopen : next.isOpen with
      | false => rfl
      | true => rw [hstays.isOpen hopen] at hclosed; cases hclosed

/-- What a connect makes of a session. -/
theorem trace_of_connected {o : Options} {authenticated : Bool}
    (hconnects : operation.connects = true)
    (hs : ∀ q ∈ s.connection.traces, q ∈ k.traces)
    (hr : r ∈ (connect o authenticated (s, k.world)).state.1.connection.traces) :
    TraceOrigin k operation r := by
  obtain ⟨q, hq, hstays⟩ | ⟨hnumber, hsilent⟩ := trace_of_connect o authenticated s k.world hr
  · exact .kept q (hs q hq) hstays
  · exact .opened hconnects hnumber hsilent

/-- What an operation makes of a session that it targets. -/
theorem trace_of_treated (hraw : ∀ message, operation ≠ .send message) {name : String}
    (htarget : name ∈ k.targets operation) (hs : k.sessions.get? name = some s)
    (hr : r ∈ (treat k.options operation (s, k.world)).1.connection.traces) :
    TraceOrigin k operation r := by
  have hthere : ∀ q ∈ s.connection.traces, q ∈ k.traces := fun q =>
    mem_traces_of_session (mem_every_session_iff.mpr (.inl ⟨name, hs⟩))
  have hclosed : ∀ {t : NetworkSession}, (∀ q ∈ t.connection.traces, TraceOrigin k operation q) →
      ∀ q ∈ (Channel.close t).connection.traces, TraceOrigin k operation q := by
    intro t ht q hq
    obtain ⟨p, hp, hstays⟩ := Connection.Keeps.of_close t.connection q hq
    exact (ht p hp).stays hstays
  have hkept : ∀ q ∈ s.connection.traces, TraceOrigin k operation q := fun q hq =>
    .kept q (hthere q hq) (.refl q)
  have hparted : operation.saysFarewell = true → ∀ wait,
      ∀ q ∈ (Closing.departed wait s).connection.traces, TraceOrigin k operation q := by
    intro hfarewell wait q hq
    obtain ⟨p, hp, hstays⟩ | ⟨x, hx, hnumber, hclosed, hwritten⟩ := trace_of_departed wait s hq
    · exact .kept p (hthere p hp) hstays
    · exact .parted x ⟨hfarewell, name, s, htarget, hs, hx⟩ hnumber hclosed hwritten
  cases operation with
  | send message => exact absurd rfl (hraw message)
  | create | setActive => exact hkept r hr
  | closeTransport | abortActive => exact hclosed hkept r hr
  | closeActive | safeClose | destroy => exact hclosed (hparted rfl _) r hr
  | receive =>
      obtain ⟨q, hq, hstays⟩ := Connection.Keeps.of_receive s r hr
      exact .kept q (hthere q hq) hstays
  | connectDefault expired noAuth plain =>
      have hconnected : ∀ q ∈ (connect k.options (!noAuth)
          (prepareDefault k.options k.world expired plain s, k.world)).state.1.connection.traces,
          TraceOrigin k (.connectDefault expired noAuth plain) q := by
        intro q hq
        refine trace_of_connected rfl (fun p hp => hthere p ?_) hq
        rwa [connection_prepare_default] at hp
      rw [treat, show Session.connect k.options (!noAuth)
        (prepareDefault k.options k.world expired plain s, k.world) =
          connect k.options (!noAuth) (prepareDefault k.options k.world expired plain s, k.world)
        from rfl] at hr
      cases hconnect : connect k.options (!noAuth)
          (prepareDefault k.options k.world expired plain s, k.world) with
      | ok _ left =>
          rw [hconnect] at hconnected hr
          exact hconnected r hr
      | error e left =>
          rw [hconnect] at hconnected hr
          dsimp only at hr
          split at hr
          · exact hconnected r hr
          · exact hclosed hconnected r hr

/-- What a session is left with that was to be created. -/
theorem trace_of_attempt {name user password schema : String} {noTls : Bool}
    (hoperation : operation = .create name user password schema noTls)
    (hr : r ∈ (k.attempt user password schema noTls).state.1.connection.traces) :
    TraceOrigin k operation r := by
  refine trace_of_connected (s := (k.prepared user password schema noTls).1)
    (by rw [hoperation]; rfl) (fun q hq => ?_) hr
  -- The session is new, so it has had no transport.
  rw [prepared_eq] at hq
  cases hq

/-- What an operation leaves of the trace of each transport. -/
theorem step_trace (hraw : ∀ message, operation ≠ .send message) :
    ∀ r ∈ (k.step operation).traces, TraceOrigin k operation r := by
  intro r hr
  obtain ⟨s, hs, hr⟩ := List.mem_flatMap.mp hr
  cases (step_turnover operation).origin s hs with
  | left hs => exact .kept r (mem_traces_of_session hs hr) (.refl r)
  | treated name before htarget hbefore => exact trace_of_treated hraw htarget hbefore hr
  | created => cases hr
  | entered name user password schema noTls hoperation => exact trace_of_attempt hoperation hr
  | missed name user password schema noTls hoperation =>
      obtain ⟨q, hq, hstays⟩ := Connection.Keeps.of_close _ r hr
      exact (trace_of_attempt hoperation hq).stays hstays

/-! ## The story of a transport -/

/-- What happened to a transport after the operation that opened it, which left it as `y`: nothing
was written on it, or only the farewell, and then it is closed. -/
inductive Sequel (start : Keeper NetworkSession Host) (earlier : List Operation)
    (later : List Operation) (y r : Trace) : Prop where
  | unsaid (h : r.written = y.written)
  | said (between after : List Operation) (closing : Operation) (x : Transport)
      (hlater : later = between ++ closing :: after)
      (hparts : (start.run (earlier ++ between)).Parts closing x) (hnumber : x.number = r.number)
      (hbefore : x.written = y.written) (hclosed : r.isOpen = false)
      (hwritten : r.written = y.written ++ [x.farewell])

/-- How a transport came to its trace along a run. -/
structure Story (start : Keeper NetworkSession Host) (operations earlier later : List Operation)
    (opening : Operation) (y r : Trace) : Prop where
  split : operations = earlier ++ opening :: later
  connects : opening.connects = true
  opened : r.number = (start.run earlier).world.opened
  made : y ∈ (start.run (earlier ++ [opening])).traces
  number : y.number = r.number
  silent : NoFarewell y.written
  sequel : Sequel start (earlier ++ [opening]) later y r

variable {start : Keeper NetworkSession Host} {operations : List Operation}

theorem Sequel.later {earlier later : List Operation} {y q r : Trace}
    (h : Sequel start earlier later y q) (hstays : q.Stays r) (last : Operation) :
    Sequel start earlier (later ++ [last]) y r := by
  cases h with
  | unsaid h => exact .unsaid (hstays.written.trans h)
  | said between after closing x hlater hparts hnumber hbefore hclosed hwritten =>
      have hstill : r.isOpen = false := by
        cases hopen : r.isOpen with
        | false => rfl
        | true => rw [hstays.isOpen hopen] at hclosed; cases hclosed
      exact .said between (after ++ [last]) closing x (by rw [hlater]; simp) hparts
        (hnumber.trans hstays.number.symm) hbefore hstill (hstays.written.trans hwritten)

/-- Every transport has a story. -/
theorem exists_story (options : Options) (console : Console) (world : Host)
    (hraw : ∀ message, .send message ∉ operations) :
    let start : Keeper NetworkSession Host := new options console world
    ∀ r ∈ (start.run operations).traces, ∃ earlier opening later y,
      Story start operations earlier later opening y r := by
  intro start
  -- Induction on the run: its last operation leaves a story as it is, begins one or ends one.
  induction operations using List.reverseRecOn with
  | nil => exact nofun
  | append_singleton operations last ih =>
      have hearlier := ih fun message hmem => hraw message (List.mem_append_left _ hmem)
      have hlast : ∀ message, last ≠ .send message := by
        rintro message rfl
        exact hraw message (List.mem_append_right _ List.mem_cons_self)
      intro r hr
      rw [run_concat] at hr
      cases step_trace hlast r hr with
      | kept q hq hstays =>
          obtain ⟨earlier, opening, later, y, h⟩ := hearlier q hq
          exact ⟨earlier, opening, later ++ [last], y, by rw [h.split]; simp, h.connects,
            hstays.number.trans h.opened, h.made, h.number.trans hstays.number.symm, h.silent,
            h.sequel.later hstays last⟩
      | opened hconnects hnumber hsilent =>
          exact ⟨operations, last, [], r, rfl, hconnects, hnumber, by rw [run_concat]; exact hr,
            rfl, hsilent, .unsaid rfl⟩
      | parted x hparts hnumber hclosed hwritten =>
          obtain ⟨name, s, -, hs, hx⟩ := hparts.registered
          have htrace : x.trace true ∈ (start.run operations).traces :=
            mem_traces_of_session (mem_every_session_iff.mpr (.inl ⟨name, hs⟩))
              (Connection.mem_traces_iff.mpr (.inl ⟨x, hx, rfl⟩))
          obtain ⟨earlier, opening, later, y, h⟩ := hearlier _ htrace
          -- The transport was open, so no farewell had been said on it.
          have hunsaid : x.written = y.written := by
            cases h.sequel with
            | unsaid hsame => exact hsame
            | said _ _ _ _ _ _ _ _ hclosed => cases hclosed
          refine ⟨earlier, opening, later ++ [last], y, by rw [h.split]; simp, h.connects,
            hnumber.trans h.opened, h.made, h.number.trans hnumber.symm, h.silent, ?_⟩
          have hrun : earlier ++ [opening] ++ later = operations := by rw [h.split]; simp
          refine .said later [] last x rfl ?_ hnumber.symm hunsaid hclosed
            (by rw [hwritten, hunsaid])
          rw [hrun]
          exact hparts

/-! ## The farewell on every transport -/

theorem exists_trace_of_transport (hx : x ∈ k.transports) :
    ∃ isOpen, x.trace isOpen ∈ k.traces := by
  obtain ⟨s, hs, hx⟩ := List.mem_flatMap.mp hx
  obtain ⟨isOpen, hr⟩ := Connection.exists_trace hx
  exact ⟨isOpen, mem_traces_of_session hs hr⟩

theorem exists_transport_of_trace (hr : r ∈ k.traces) :
    ∃ x ∈ k.transports, x.number = r.number ∧ x.written = r.written := by
  obtain ⟨s, hs, hr⟩ := List.mem_flatMap.mp hr
  obtain ⟨x, hx, hsame⟩ := Connection.exists_transport hr
  exact ⟨x, List.mem_flatMap.mpr ⟨s, hs, hx⟩, hsame⟩

/-- All transports that were opened are there, each of them once. -/
theorem transports_perm (options : Options) (console : Console) (world : Host)
    (operations : List Operation) :
    let k : Keeper NetworkSession Host := (new options console world).run operations
    (k.transports.map Transport.number ++ List.range world.opened).Perm
      (List.range k.world.opened) := by
  intro k
  have hperm := NetworkSession.custody.run_perm options console world operations
  rw [transports, List.map_flatMap]
  exact hperm

/-- Along every run in which no message is sent by hand, and whatever the servers do, every
transport was opened by one connect, which wrote no farewell on it. All that was written on it since
is at most one farewell. It was written by an operation that closes sessions, when the transport was
the current one of a session that was to be closed, and nothing was written after it. Any other
operation writes no farewell: it leaves on each transport what was there, or it is a connect, on
whose own transport there is none. -/
theorem farewell_said_last (options : Options) (console : Console) (world : Host)
    (operations : List Operation) (hraw : ∀ message, .send message ∉ operations) :
    let start : Keeper NetworkSession Host := new options console world
    let k := start.run operations
    (k.transports.map Transport.number ++ List.range world.opened).Perm
        (List.range k.world.opened) ∧
      (∀ x ∈ k.transports, ∃ earlier opening later,
        operations = earlier ++ opening :: later ∧ opening.connects = true ∧
        x.number = (start.run earlier).world.opened ∧
        ∃ y ∈ (start.run (earlier ++ [opening])).transports,
          y.number = x.number ∧ NoFarewell y.written ∧
          (x.written = y.written ∨
            ∃ between closing after z, later = between ++ closing :: after ∧
              (start.run (earlier ++ opening :: between)).Parts closing z ∧
              z.number = x.number ∧ z.written = y.written ∧
              x.written = y.written ++ [z.farewell])) ∧
      ∀ operation, operation.saysFarewell = false → (∀ message, operation ≠ .send message) →
        ∀ x ∈ (k.step operation).transports,
          (∃ y ∈ k.transports, y.number = x.number ∧ y.written = x.written) ∨
            operation.connects = true ∧ x.number = k.world.opened ∧ NoFarewell x.written := by
  intro start k
  refine ⟨transports_perm options console world operations, fun x hx => ?_, ?_⟩
  · obtain ⟨isOpen, htrace⟩ := exists_trace_of_transport hx
    obtain ⟨earlier, opening, later, q, h⟩ := exists_story options console world hraw _ htrace
    obtain ⟨y, hy, hnumber, hwritten⟩ := exists_transport_of_trace h.made
    refine ⟨earlier, opening, later, h.split, h.connects, h.opened, y, hy,
      hnumber.trans h.number, by rw [hwritten]; exact h.silent, ?_⟩
    rw [hwritten]
    cases h.sequel with
    | unsaid hsame => exact .inl hsame
    | said between after closing z hlater hparts hz hbefore _ hsaid =>
        rw [List.append_assoc] at hparts
        exact .inr ⟨between, closing, after, z, hlater, hparts, hz, hbefore, hsaid⟩
  · intro operation hsilent hoperation x hx
    obtain ⟨isOpen, htrace⟩ := exists_trace_of_transport hx
    cases step_trace hoperation _ htrace with
    | kept q hq hstays =>
        obtain ⟨y, hy, hnumber, hwritten⟩ := exists_transport_of_trace hq
        exact .inl ⟨y, hy, hnumber.trans hstays.number.symm, hwritten.trans hstays.written.symm⟩
    | opened hconnects hnumber hsaid => exact .inr ⟨hconnects, hnumber, hsaid⟩
    | parted z hparts =>
        have hfarewell := hparts.saysFarewell
        rw [hsilent] at hfarewell
        cases hfarewell

/-- A server that refuses with the code of wrong TLS options leaves the default transport open. The
first one gives way to a second connect, and only on the second one the farewell is said, though the
keeper is destroyed after that. -/
theorem farewell_said_on_open_transport :
    let refusal : Frame := ⟨1, [8, 0, 16, 199, 19, 26, 2, 110, 111, 34, 5, 72, 89, 48, 48, 48]⟩
    let peer : Peer := .plain refusal.encode false
    let operations : List Operation :=
      [.connectDefault false false true, .connectDefault false false true, .closeActive true true,
        .destroy ⟨id, List.Perm.refl⟩]
    let start : Keeper NetworkSession Host :=
      new { socket := "s", password := "secret" } (Console.new false)
        ((Host.new .empty .empty).listenAt "s" [peer, peer])
    let k := start.run operations
    (∀ message, .send message ∉ operations) ∧
      k.transports.map (fun x => x.written.map Written.isFarewell) = [[false, true], [false]] ∧
      ∀ x ∈ k.transports, ∃ earlier opening later,
        operations = earlier ++ opening :: later ∧ opening.connects = true ∧
        x.number = (start.run earlier).world.opened := by
  intro refusal peer operations start k
  have hraw : ∀ message, .send message ∉ operations := by simp [operations]
  have hwritten :
      k.transports.map (fun x => x.written.map Written.isFarewell) = [[false, true], [false]] := by
    decide +kernel
  obtain ⟨-, hstories, -⟩ := farewell_said_last _ (Console.new false) _ operations hraw
  refine ⟨hraw, hwritten, fun x hx => ?_⟩
  obtain ⟨earlier, opening, later, hsplit, hconnects, hopened, -⟩ := hstories x hx
  exact ⟨earlier, opening, later, hsplit, hconnects, hopened⟩

end Keeper

end SessionKeeper
