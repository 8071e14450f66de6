import SessionKeeper.Protobuf.Varint

/-!
# Fields that are not known

A field whose number the message does not have is read over and lost. A group holds fields of its
own up to its end key; open groups are kept on a stack, and each one uses up one level of the
nesting that is allowed.
-/

namespace SessionKeeper.Protobuf

/-- The bytes behind the next `count` ones. -/
def skipBytes (count : Nat) (bytes : Bytes) : Except DecodeError Bytes :=
  if bytes.length < count then .error Fault.underflow else .ok (bytes.drop count)

/-- The bytes behind a value that is no group. -/
def skipPlain (wireType : WireType) (bytes : Bytes) : Except DecodeError Bytes :=
  match wireType with
  | .varint => (readVarint bytes).map Prod.snd
  | .fixed32 => skipBytes 4 bytes
  | .fixed64 => skipBytes 8 bytes
  | .delimited =>
      match readVarint bytes with
      | .error e => .error e
      | .ok (length, rest) => skipBytes length rest
  | .startGroup | .endGroup => .error Fault.unexpectedEndGroup

theorem length_skipBytes {count : Nat} {bytes rest : Bytes}
    (h : skipBytes count bytes = .ok rest) : rest.length ≤ bytes.length := by
  simp only [skipBytes] at h
  split at h
  · cases h
  · cases h
    simp

/-- Reading over a value never lengthens the input. -/
theorem length_skipPlain {wireType : WireType} {bytes rest : Bytes}
    (h : skipPlain wireType bytes = .ok rest) : rest.length ≤ bytes.length := by
  cases wireType with
  | varint =>
      simp only [skipPlain] at h
      cases hread : readVarint bytes with
      | error e => simp [hread, Except.map] at h
      | ok read =>
          simp only [hread, Except.map, Except.ok.injEq] at h
          exact h ▸ Nat.le_of_lt (length_readVarint hread)
  | fixed32 => exact length_skipBytes h
  | fixed64 => exact length_skipBytes h
  | delimited =>
      simp only [skipPlain] at h
      split at h
      · cases h
      · rename_i hread
        exact Nat.le_trans (length_skipBytes h) (Nat.le_of_lt (length_readVarint hread))
  | startGroup => simp [skipPlain] at h
  | endGroup => simp [skipPlain] at h

/-- The bytes behind the open groups, given by their field numbers, innermost first. `depth` is
the nesting still allowed inside the innermost one. -/
def skipGroups (depth : Nat) (openGroups : List Nat) (bytes : Bytes) : Except DecodeError Bytes :=
  match openGroups with
  | [] => .ok bytes
  | innermost :: outer =>
      match _ : readKey bytes with
      | .error e => .error e
      | .ok ((number, wireType), rest) =>
          if wireType = .endGroup then
            if number = innermost then skipGroups (depth + 1) outer rest
            else .error Fault.unexpectedEndGroup
          else if depth = 0 then .error Fault.recursionLimit
          else if wireType = .startGroup then
            skipGroups (depth - 1) (number :: innermost :: outer) rest
          else
            match _ : skipPlain wireType rest with
            | .error e => .error e
            | .ok behind => skipGroups depth (innermost :: outer) behind
termination_by bytes.length
decreasing_by
  · exact length_readKey ‹readKey bytes = _›
  · exact length_readKey ‹readKey bytes = _›
  · exact Nat.lt_of_le_of_lt (length_skipPlain ‹skipPlain _ _ = _›)
      (length_readKey ‹readKey bytes = _›)

/-- The bytes behind the value of a field that is not known. -/
def skipField (depth number : Nat) (wireType : WireType) (bytes : Bytes) :
    Except DecodeError Bytes :=
  if depth = 0 then .error Fault.recursionLimit
  else if wireType = .startGroup then skipGroups (depth - 1) [number] bytes
  else skipPlain wireType bytes

/-- Leaving groups never lengthens the input. -/
theorem length_skipGroups {depth : Nat} {openGroups : List Nat} {bytes rest : Bytes}
    (h : skipGroups depth openGroups bytes = .ok rest) : rest.length ≤ bytes.length := by
  fun_induction skipGroups depth openGroups bytes generalizing rest with
  | case1 => cases h; exact Nat.le_refl _
  | case2 => cases h
  | case3 depth bytes innermost outer behind hkey ih =>
      exact Nat.le_trans (ih h) (Nat.le_of_lt (length_readKey hkey))
  | case4 => cases h
  | case5 => cases h
  | case6 depth bytes innermost outer number behind hdepth hkey _ ih =>
      exact Nat.le_trans (ih h) (Nat.le_of_lt (length_readKey hkey))
  | case7 => simp_all
  | case8 depth bytes innermost outer number wireType behind hkey _ hdepth _ after hskip ih =>
      exact Nat.le_trans (ih h)
        (Nat.le_trans (length_skipPlain hskip) (Nat.le_of_lt (length_readKey hkey)))

/-- Reading over a field never lengthens the input. -/
theorem length_skipField {depth number : Nat} {wireType : WireType} {bytes rest : Bytes}
    (h : skipField depth number wireType bytes = .ok rest) : rest.length ≤ bytes.length := by
  simp only [skipField] at h
  split at h
  · cases h
  · split at h
    · exact length_skipGroups h
    · exact length_skipPlain h

end SessionKeeper.Protobuf
