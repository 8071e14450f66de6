import SessionKeeper.Proofs.Network.Boundaries

/-!
# Frames on a stream

Writing frames and reading them undo each other. The main statement, `framing_exact`, says what
reading any number of frames yields and leaves, which bytes a frame takes, which lengths are
refused, and where the end of the stream is met.
-/

namespace SessionKeeper

/-! ## Lengths -/

/-- What is refused as a length is malformed. -/
theorem Frame.body_length_error_code {header : Bytes} {e : SessionError}
    (h : bodyLength header = .error e) : e.code = Code.malformedPacket := by
  simp only [bodyLength] at h
  split at h
  · cases h
    rfl
  · split at h
    · cases h
      rfl
    · cases h

/-- A frame begins with its length, as long as four bytes can hold it. -/
theorem Frame.toNat_header {f : Frame} (h : f.payload.length + 1 < Nat.pow 256 headerLength) :
    Bytes.toNat (f.encode.take headerLength) = f.payload.length + 1 := by
  rw [encode, List.take_left' (Bytes.length_littleEndian _ _), Bytes.toNat_littleEndian h]

/-- The length of a frame beyond the limit is refused. -/
theorem Frame.body_length_of_long {f : Frame} (hlong : maxLength ≤ f.payload.length)
    (hfits : f.payload.length + 1 < Nat.pow 256 headerLength) :
    ∃ e, bodyLength (f.encode.take headerLength) = .error e ∧ e.code = Code.malformedPacket := by
  cases hlength : bodyLength (f.encode.take headerLength) with
  | ok length =>
      have haccepted := body_length_eq_ok_iff.mp hlength
      rw [toNat_header hfits] at haccepted
      omega
  | error e => exact ⟨e, rfl, body_length_error_code hlength⟩

/-! ## One frame -/

namespace Transport

variable {x : Transport}

/-- The stream stops before the end of a frame whose length is accepted, if it has a length. -/
def StopsShort (unread : Bytes) : Prop :=
  unread.length < Frame.headerLength ∨
    ∃ length, Frame.bodyLength (unread.take Frame.headerLength) = .ok length ∧
      unread.length < Frame.headerLength + length

/-- A stream that stops short yields no frame. -/
theorem read_frame_of_short (h : StopsShort x.unread) :
    readFrame x = .error (.ofTransport x.shortage) x.interrupted := by
  obtain hheader | ⟨length, hlength, hbody⟩ := h
  · rw [readFrame, read_of_length_lt hheader]
  · by_cases hheader : x.unread.length < Frame.headerLength
    · rw [readFrame, read_of_length_lt hheader]
    · have hfirst := read_append (List.take_append_drop Frame.headerLength x.unread).symm
        (List.length_take_of_le (Nat.not_lt.mp hheader))
      have hrest : (x.unread.drop Frame.headerLength).length < length := by
        rw [List.length_drop]
        omega
      simp only [readFrame, hfirst, hlength]
      rw [read_of_length_lt (x := { x with unread := x.unread.drop Frame.headerLength }) hrest,
        interrupted_with_unread]
      rfl

/-- Any other stream yields a frame, or begins with a length that is refused. -/
theorem read_frame_of_enough (h : ¬ StopsShort x.unread) :
    (∃ f y, readFrame x = .ok f y) ∨
      ∃ e y, readFrame x = .error e y ∧ e.code = Code.malformedPacket := by
  obtain ⟨hheader, hbody⟩ := not_or.mp h
  have hfirst := read_append (List.take_append_drop Frame.headerLength x.unread).symm
    (List.length_take_of_le (Nat.not_lt.mp hheader))
  simp only [readFrame, hfirst]
  cases hlength : Frame.bodyLength (x.unread.take Frame.headerLength) with
  | error e => exact .inr ⟨e, _, rfl, Frame.body_length_error_code hlength⟩
  | ok length =>
      have henough : length ≤ (x.unread.drop Frame.headerLength).length := by
        have hlong : ¬ x.unread.length < Frame.headerLength + length :=
          fun hlt => hbody ⟨length, hlength, hlt⟩
        rw [List.length_drop]
        omega
      have hsecond := read_append (x := { x with unread := x.unread.drop Frame.headerLength })
        (List.take_append_drop length _).symm (List.length_take_of_le henough)
      simp only [hsecond]
      cases hbytes : (x.unread.drop Frame.headerLength).take length with
      | nil => exact .inr ⟨_, _, rfl, rfl⟩
      | cons type payload => exact .inl ⟨_, _, rfl⟩

end Transport

/-! ## A series of frames -/

namespace Connection

variable {c d : Connection} {x : Transport}

/-- A frame is read from an open connection if its bytes come next. -/
theorem read_frame_of_open (hopen : c.current = some x) {f : Frame} :
    readFrame c = .ok f d ↔
      f.payload.length < Frame.maxLength ∧
        ∃ rest, x.unread = f.encode ++ rest ∧
          d = { c with current := some { x with unread := rest } } := by
  simp only [readFrame, onTransport, hopen]
  constructor
  · intro h
    split at h
    · next hread =>
        cases h
        obtain ⟨hsize, hunread, hrest⟩ := Transport.read_frame_eq_ok_iff.mp hread
        exact ⟨hsize, _, hunread, by rw [← hrest]⟩
    · cases h
  · rintro ⟨hsize, rest, hunread, rfl⟩
    have hread : Transport.readFrame x = .ok f { x with unread := rest } :=
      Transport.read_frame_eq_ok_iff.mpr ⟨hsize, hunread, rfl⟩
    rw [hread]

/-- Read a number of frames, one after the other. -/
def readFrames : Nat → EStateM SessionError Connection (List Frame)
  | 0 => fun c => .ok [] c
  | count + 1 => fun c =>
      match readFrame c with
      | .error e c => .error e c
      | .ok f c =>
          match readFrames count c with
          | .error e c => .error e c
          | .ok frames c => .ok (f :: frames) c

/-- A series of frames is read if the first one is, and then the others. -/
theorem read_frames_succ {count : Nat} {frames : List Frame} :
    readFrames (count + 1) c = .ok frames d ↔
      ∃ f later between, frames = f :: later ∧ readFrame c = .ok f between ∧
        readFrames count between = .ok later d := by
  simp only [readFrames]
  constructor
  · intro h
    split at h
    · cases h
    · next hfirst =>
        split at h
        · cases h
        · next hlater =>
            cases h
            exact ⟨_, _, _, rfl, hfirst, hlater⟩
  · rintro ⟨f, later, between, rfl, hfirst, hlater⟩
    simp only [hfirst, hlater]

/-- A series of frames is read if their bytes come next, and it takes nothing else. -/
theorem read_frames_of_open (hopen : c.current = some x) {count : Nat} {frames : List Frame} :
    readFrames count c = .ok frames d ↔
      frames.length = count ∧ (∀ f ∈ frames, f.payload.length < Frame.maxLength) ∧
        ∃ rest, x.unread = frames.flatMap Frame.encode ++ rest ∧
          d = { c with current := some { x with unread := rest } } := by
  induction count generalizing c x frames with
  | zero =>
      have hsame : { c with current := some x } = c := by rw [← hopen]
      constructor
      · intro h
        cases h
        exact ⟨rfl, nofun, x.unread, rfl, hsame.symm⟩
      · rintro ⟨hlength, -, rest, hunread, rfl⟩
        obtain rfl := List.eq_nil_of_length_eq_zero hlength
        obtain rfl : x.unread = rest := hunread
        rw [hsame]
        rfl
  | succ count ih =>
      rw [read_frames_succ]
      constructor
      · rintro ⟨f, later, between, rfl, hfirst, hlater⟩
        obtain ⟨hsize, middle, hunread, rfl⟩ := (read_frame_of_open hopen).mp hfirst
        obtain ⟨rfl, hsizes, rest, hmiddle, rfl⟩ := (ih rfl).mp hlater
        obtain rfl : middle = _ := hmiddle
        refine ⟨rfl, List.forall_mem_cons.mpr ⟨hsize, hsizes⟩, rest, ?_, rfl⟩
        rw [hunread, List.flatMap_cons, List.append_assoc]
      · rintro ⟨hlength, hsizes, rest, hunread, rfl⟩
        cases frames with
        | nil => cases hlength
        | cons f later =>
            obtain ⟨hsize, hsizes⟩ := List.forall_mem_cons.mp hsizes
            rw [List.flatMap_cons, List.append_assoc] at hunread
            exact ⟨f, later, _, rfl, (read_frame_of_open hopen).mpr ⟨hsize, _, hunread, rfl⟩,
              (ih (x := { x with unread := _ }) rfl).mpr
                ⟨Nat.succ.inj hlength, hsizes, rest, rfl, rfl⟩⟩

/-- Reading any number of frames yields the frames whose bytes come next, as far as they are shorter
than 64 MiB, and leaves what is behind them. A frame takes its own bytes and nothing else. A length
of more than 64 MiB is malformed, and if the peer has ended its stream, it is gone exactly where the
stream stops short of a header or of a frame whose length is accepted. -/
theorem framing_exact (hopen : c.current = some x) :
    (∀ count frames d, readFrames count c = .ok frames d ↔
      frames.length = count ∧ (∀ f ∈ frames, f.payload.length < Frame.maxLength) ∧
        ∃ rest, x.unread = frames.flatMap Frame.encode ++ rest ∧
          d = { c with current := some { x with unread := rest } }) ∧
    (∀ f d, readFrame c = .ok f d →
      f.size = 5 + f.payload.length ∧ x.unread.take f.size = f.encode ∧
        d.unread = x.unread.drop f.size) ∧
    (∀ f : Frame, 64 * 1024 * 1024 ≤ f.payload.length → f.payload.length ≤ Nat.pow 2 32 - 2 →
      ∃ e, Frame.bodyLength (f.encode.take Frame.headerLength) = .error e ∧ e.code = 2027) ∧
    (x.later = [] → x.ended = true →
      ((∃ e, (readFrame c).outcome = .error e ∧ e.code = 2006) ↔
        Transport.StopsShort x.unread)) := by
  refine ⟨fun count frames d => read_frames_of_open hopen, fun f d h => ?_, fun f hlong hfits => ?_,
    fun hlater hended => ⟨?_, fun hshort => ?_⟩⟩
  · obtain ⟨-, rest, hunread, rfl⟩ := (read_frame_of_open hopen).mp h
    refine ⟨rfl, ?_, ?_⟩
    · rw [hunread, List.take_left' f.length_encode]
    · rw [hunread, List.drop_left' f.length_encode]
      rfl
  · refine Frame.body_length_of_long hlong ?_
    have hpow : Nat.pow 2 32 = Nat.pow 256 Frame.headerLength := by decide
    omega
  · rintro ⟨e, houtcome, hcode⟩
    simp only [readFrame, onTransport, hopen] at houtcome
    by_cases hshort : Transport.StopsShort x.unread
    · exact hshort
    · obtain ⟨f, y, hread⟩ | ⟨e', y, hread, hmalformed⟩ := Transport.read_frame_of_enough hshort
      · rw [hread] at houtcome
        cases houtcome
      · rw [hread] at houtcome
        cases houtcome
        cases hmalformed.symm.trans hcode
  · have hgone : x.shortage = .disconnected := by
      simp only [Transport.shortage, hlater, hended, if_true]
    refine ⟨.gone, ?_, rfl⟩
    simp only [readFrame, onTransport, hopen, Transport.read_frame_of_short hshort, hgone]
    rfl

/-- Two frames are read and the byte behind them is left. A stream that ends in the middle of a
frame says that the peer is gone. -/
theorem framing_exact_two_frames :
    let frames : List Frame := [⟨0, [10, 1, 7]⟩, ⟨4, []⟩]
    let x := NetworkSession.holding (frames.flatMap Frame.encode ++ [9])
    let y := { NetworkSession.holding [5, 0, 0, 0, 1] with ended := true }
    (⟨some x, []⟩ : Connection).current = some x ∧
      readFrames 2 ⟨some x, []⟩ = .ok frames ⟨some (NetworkSession.holding [9]), []⟩ ∧
      y.later = [] ∧ y.ended = true ∧
        ∃ e, (readFrame ⟨some y, []⟩).outcome = .error e ∧ e.code = 2006 := by
  intro frames x y
  refine ⟨rfl, ?_, rfl, rfl, ?_⟩
  · have hsizes : ∀ f ∈ frames, f.payload.length < Frame.maxLength := by decide
    exact ((framing_exact (c := ⟨some x, []⟩) rfl).1 2 frames _).mpr ⟨rfl, hsizes, [9], rfl, rfl⟩
  · have hshort : Transport.StopsShort y.unread := .inr ⟨5, rfl, by decide⟩
    exact ((framing_exact (c := ⟨some y, []⟩) rfl).2.2.2 rfl rfl).mpr hshort

end Connection

end SessionKeeper
