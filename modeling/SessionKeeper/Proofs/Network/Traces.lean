import SessionKeeper.Proofs.Closing.Ending
import SessionKeeper.Proofs.Message.Recovery
import SessionKeeper.Proofs.Network.Connecting

/-!
# What transports are left with

The trace of a transport is its number and what was written on it, beside whether it is still open.
Whatever is done with a session leaves the traces that there were, but for two things: a connect may
open a transport, on which no farewell is written (`trace_of_connect`), and taking leave may write
one on the transport that is open, as the last thing (`trace_of_departed`).
-/

namespace SessionKeeper

open Closing (departed)
open NetworkSession (connect receive send connect_of_unopened)

/-- Whether it is the farewell that was written. -/
def Written.isFarewell : Written → Bool
  | clear bytes | encrypted bytes => decide (bytes = ClientMessage.close.frame.encode)
  | hello _ => false

/-- No farewell was written. -/
def NoFarewell (written : List Written) : Prop :=
  ∀ part ∈ written, part.isFarewell = false

/-- The farewell as it is written on a transport. -/
def Transport.farewell (x : Transport) : Written :=
  if x.encrypted then .encrypted ClientMessage.close.frame.encode
  else .clear ClientMessage.close.frame.encode

/-- What is known of a transport. -/
structure Trace where
  number : Nat
  written : List Written
  isOpen : Bool

/-- What is known of a transport, open or closed. -/
def Transport.trace (isOpen : Bool) (x : Transport) : Trace :=
  ⟨x.number, x.written, isOpen⟩

/-- The traces of the transports of a connection. -/
def Connection.traces (c : Connection) : List Trace :=
  c.current.toList.map (Transport.trace true) ++ c.past.map (Transport.trace false)

/-- Nothing was written, but the transport may have been closed. -/
structure Trace.Stays (r next : Trace) : Prop where
  number : next.number = r.number
  written : next.written = r.written
  isOpen : next.isOpen = true → r.isOpen = true

/-- The traces of the second connection are those of the first, or of fewer. -/
def Connection.Keeps (c d : Connection) : Prop :=
  ∀ next ∈ d.traces, ∃ r ∈ c.traces, r.Stays next

variable {c d : Connection} {s : NetworkSession} {h : Host} {x : Transport} {r : Trace}
  {o : Options} {authenticated : Bool}

theorem Trace.Stays.refl (r : Trace) : r.Stays r :=
  ⟨rfl, rfl, id⟩

theorem Trace.Stays.trans {next last : Trace} (h : r.Stays next) (hlater : next.Stays last) :
    r.Stays last :=
  ⟨hlater.number.trans h.number, hlater.written.trans h.written, fun hopen =>
    h.isOpen (hlater.isOpen hopen)⟩

/-! ## Traces and transports -/

theorem Connection.mem_traces_iff :
    r ∈ c.traces ↔
      (∃ x, c.current = some x ∧ x.trace true = r) ∨ ∃ x ∈ c.past, x.trace false = r := by
  simp [traces, Option.mem_toList]

/-- Every transport has a trace. -/
theorem Connection.exists_trace (hx : x ∈ c.transports) :
    ∃ isOpen, x.trace isOpen ∈ c.traces := by
  obtain hcurrent | hpast := List.mem_append.mp hx
  · exact ⟨true, mem_traces_iff.mpr (.inl ⟨x, Option.mem_toList.mp hcurrent, rfl⟩)⟩
  · exact ⟨false, mem_traces_iff.mpr (.inr ⟨x, hpast, rfl⟩)⟩

/-- Every trace is the one of a transport. -/
theorem Connection.exists_transport (hr : r ∈ c.traces) :
    ∃ x ∈ c.transports, x.number = r.number ∧ x.written = r.written := by
  obtain ⟨x, hcurrent, rfl⟩ | ⟨x, hpast, rfl⟩ := mem_traces_iff.mp hr
  · exact ⟨x, List.mem_append_left _ (Option.mem_toList.mpr hcurrent), rfl, rfl⟩
  · exact ⟨x, List.mem_append_right _ hpast, rfl, rfl⟩

namespace Connection.Keeps

theorem refl (c : Connection) : c.Keeps c :=
  fun r hr => ⟨r, hr, .refl r⟩

theorem trans {e : Connection} (h : c.Keeps d) (hlater : d.Keeps e) : c.Keeps e := by
  intro last hlast
  obtain ⟨next, hnext, hstays⟩ := hlater last hlast
  obtain ⟨r, hr, hfirst⟩ := h next hnext
  exact ⟨r, hr, hfirst.trans hstays⟩

/-- Closing a connection writes nothing. -/
theorem of_close (c : Connection) : c.Keeps c.close := by
  intro next hnext
  rw [transports_of_close] at hnext
  obtain ⟨x, hcurrent, -⟩ | ⟨x, hpast, rfl⟩ := mem_traces_iff.mp hnext
  · cases hcurrent
  · obtain ⟨isOpen, hr⟩ := exists_trace hpast
    exact ⟨x.trace isOpen, hr, rfl, rfl, nofun⟩

/-- Receiving writes nothing. -/
theorem of_receive (s : NetworkSession) : s.connection.Keeps (receive s).state.connection := by
  cases hcurrent : s.connection.current with
  | none =>
      have hsame : (receive s).state.connection = s.connection := by
        cases hreceive : receive s with
        | ok m t =>
            have hlearned := (Happens.received hreceive).on_closed hcurrent
            rwa [NetworkSession.connection_learn] at hlearned
        | error e t => exact (Happens.missed hreceive).on_closed hcurrent
      rw [hsame]
      exact refl _
  | some x =>
      obtain ⟨unread, later, hconnection⟩ := NetworkSession.receive_on_transport hcurrent
      rw [hconnection]
      intro next hnext
      obtain ⟨y, hy, rfl⟩ | ⟨y, hpast, rfl⟩ := mem_traces_iff.mp hnext
      · cases hy
        exact ⟨x.trace true, mem_traces_iff.mpr (.inl ⟨x, hcurrent, rfl⟩), rfl, rfl, id⟩
      · exact ⟨y.trace false, mem_traces_iff.mpr (.inr ⟨y, hpast, rfl⟩), rfl, rfl, id⟩

end Connection.Keeps

/-! ## What a connect writes -/

/-- Whatever is written in a talk is a greeting or a message that is sent in it. -/
theorem mem_written_in {talk : List Event} {encrypted : Bool} {part : Written}
    (hpart : part ∈ writtenIn encrypted talk) :
    (∃ config, part = .hello config) ∨
      ∃ m ∈ sentIn talk, part = .clear m.frame.encode ∨ part = .encrypted m.frame.encode := by
  obtain ⟨event, hevent, e, hpart⟩ := exists_event_of_mem_parts_in hpart
  cases event with
  | sent m =>
      refine .inr ⟨m, List.mem_filterMap.mpr ⟨_, hevent, rfl⟩, ?_⟩
      obtain rfl := List.mem_singleton.mp hpart
      cases e with
      | true => exact .inr rfl
      | false => exact .inl rfl
  | secured config =>
      cases e with
      | true => cases hpart
      | false => exact .inl ⟨config, List.mem_singleton.mp hpart⟩
  | unsecured config => exact .inl ⟨config, List.mem_singleton.mp hpart⟩
  | unsent | received | missed => cases hpart

/-- A connect requests no farewell. -/
theorem close_not_planned {method : AuthMethod} {wanted : List (Capability × Bool)}
    {challenge : Bytes} : .close ∉ plannedRequests o authenticated method wanted challenge := by
  intro hmem
  obtain ⟨entry, -, hcapability⟩ | hstart | hanswer := planned_request_cases hmem
  · cases hcapability
  · cases hstart
  · cases hanswer

/-- No farewell is written on a transport by the connect that opens it. -/
theorem Spoken.no_farewell {talk : List Event} {y : Transport}
    (hspoken : Spoken o authenticated s h x talk y) : NoFarewell y.written := by
  intro part hpart
  rw [hspoken.written] at hpart
  obtain ⟨config, rfl⟩ | ⟨m, hm, hmessage⟩ := mem_written_in hpart
  · rfl
  · have hother : m ≠ .close := by
      rintro rfl
      obtain hrequest | ⟨challenge, hplanned⟩ := requests_of_establish hspoken.grammar _ hm
      · cases hrequest
      · exact close_not_planned hplanned
    have hbytes : m.frame.encode ≠ ClientMessage.close.frame.encode := fun hsame =>
      hother (ClientMessage.eq_of_encode_eq ClientMessage.accepted_close hsame)
    obtain rfl | rfl := hmessage
    · exact decide_eq_false hbytes
    · exact decide_eq_false hbytes

/-- Of the transports that there are only the first may be open. -/
theorem Connection.trace_cases {y : Transport} {others : List Transport}
    (htransports : c.transports = y :: others) (hr : r ∈ c.traces) :
    (∃ isOpen, r = y.trace isOpen) ∨ ∃ z ∈ others, r = z.trace false := by
  obtain ⟨x, hcurrent, rfl⟩ | ⟨x, hpast, rfl⟩ := mem_traces_iff.mp hr
  · rw [transports, hcurrent] at htransports
    cases htransports
    exact .inl ⟨true, rfl⟩
  · have hx : x ∈ y :: others := htransports ▸ List.mem_append_right _ hpast
    obtain rfl | hother := List.mem_cons.mp hx
    · exact .inl ⟨false, rfl⟩
    · exact .inr ⟨x, hother, rfl⟩

/-- A connect leaves the traces that there were, and that of the transport that it opened. -/
theorem trace_of_connect (o : Options) (authenticated : Bool) (s : NetworkSession) (h : Host)
    (hr : r ∈ (connect o authenticated (s, h)).state.1.connection.traces) :
    (∃ q ∈ s.connection.traces, q.Stays r) ∨ r.number = h.opened ∧ NoFarewell r.written := by
  cases hopen : Host.openTransport o s.ipMode h with
  | error e g =>
      rw [connect_of_unopened hopen] at hr
      have hclosed : s.stranded.connection = s.connection.close :=
        (Connection.transports_of_close _).symm
      exact .inl (Connection.Keeps.of_close s.connection r (hclosed ▸ hr))
  | ok x g =>
      obtain ⟨talk, y, hspoken⟩ := connect_spoken o authenticated hopen
      obtain ⟨isOpen, rfl⟩ | ⟨z, hz, rfl⟩ := Connection.trace_cases hspoken.transports hr
      · exact .inr ⟨hspoken.number, hspoken.no_farewell⟩
      · obtain ⟨isOpen, hq⟩ := Connection.exists_trace hz
        exact .inl ⟨z.trace isOpen, hq, rfl, rfl, nofun⟩

/-! ## What taking leave writes -/

/-- The farewell is written on the transport that is open, and nothing else is written. -/
theorem trace_of_farewell (hcurrent : s.connection.current = some x)
    (hr : r ∈ (send .close s).state.connection.traces) :
    (∃ q ∈ s.connection.traces, q.Stays r) ∨
      r.number = x.number ∧ r.written = x.written ++ [x.farewell] := by
  have hpast {y : Transport} (hy : y ∈ s.connection.past) :
      ∃ q ∈ s.connection.traces, q.Stays (y.trace false) :=
    ⟨y.trace false, Connection.mem_traces_iff.mpr (.inr ⟨y, hy, rfl⟩), .refl _⟩
  rw [NetworkSession.send_of_open _ hcurrent] at hr
  cases hfailure : x.sendFailure? 0 with
  | some failure =>
      rw [hfailure] at hr
      obtain ⟨y, hy, rfl⟩ | ⟨y, hy, rfl⟩ := Connection.mem_traces_iff.mp hr
      · cases hy
        exact .inl ⟨x.trace true, Connection.mem_traces_iff.mpr (.inl ⟨x, hcurrent, rfl⟩),
          .refl _⟩
      · exact .inl (hpast hy)
  | none =>
      rw [hfailure] at hr
      obtain ⟨y, hy, rfl⟩ | ⟨y, hy, rfl⟩ := Connection.mem_traces_iff.mp hr
      · cases hy
        refine .inr ⟨rfl, ?_⟩
        cases hencrypted : x.encrypted <;>
          simp [Transport.trace, Transport.farewell, Event.written, hencrypted]
      · exact .inl (hpast hy)

/-- After the farewell nothing is written. -/
theorem keeps_of_departed (wait : Bool) (hopen : Channel.isOpen s = true) :
    (send .close s).state.connection.Keeps (departed wait s).connection := by
  have hreceive : ∀ t : NetworkSession, t.connection.Keeps (Channel.receive t).state.connection :=
    Connection.Keeps.of_receive
  unfold departed
  rw [if_pos hopen, show Channel.send .close s = send .close s from rfl]
  cases send .close s with
  | error e t => exact .of_close t.connection
  | ok _ t =>
      have hreply := hreceive t
      dsimp only
      cases hresult : Channel.receive t with
      | error e u =>
          rw [hresult] at hreply
          exact hreply.trans (.of_close u.connection)
      | ok reply u =>
          rw [hresult] at hreply
          refine hreply.trans (Connection.Keeps.trans ?_ (.of_close _))
          split
          · exact hreceive u
          · exact .refl u.connection

/-- What is left of a session that took leave: the traces that there were, or at most the farewell
is written on the transport that was open, and it is closed. -/
theorem trace_of_departed (wait : Bool) (s : NetworkSession)
    (hr : r ∈ (departed wait s).connection.traces) :
    (∃ q ∈ s.connection.traces, q.Stays r) ∨
      ∃ x, s.connection.current = some x ∧ r.number = x.number ∧ r.isOpen = false ∧
        r.written = x.written ++ [x.farewell] := by
  cases hcurrent : s.connection.current with
  | none =>
      have hclosed : Channel.isOpen s = false := by
        show s.connection.current.isSome = false
        rw [hcurrent]
        rfl
      have hsame : departed wait s = s := by simp [departed, hclosed]
      rw [hsame] at hr
      exact .inl ⟨r, hr, .refl r⟩
  | some x =>
      have hopen : Channel.isOpen s = true := by
        show s.connection.current.isSome = true
        rw [hcurrent]
        rfl
      obtain ⟨q, hq, hstays⟩ := keeps_of_departed wait hopen r hr
      obtain ⟨old, hold, hfirst⟩ | ⟨hnumber, hwritten⟩ := trace_of_farewell hcurrent hq
      · exact .inl ⟨old, hold, hfirst.trans hstays⟩
      · refine .inr ⟨x, rfl, hstays.number.trans hnumber, ?_, hstays.written.trans hwritten⟩
        -- Whatever came of it, the transport is closed in the end.
        have hdeparted : (departed wait s).connection.current = none :=
          Option.not_isSome_iff_eq_none.mp
            (Bool.eq_false_iff.mp (Closing.is_open_departed wait s))
        obtain ⟨y, hy, -⟩ | ⟨y, -, rfl⟩ := Connection.mem_traces_iff.mp hr
        · rw [hdeparted] at hy
          cases hy
        · rfl

end SessionKeeper
