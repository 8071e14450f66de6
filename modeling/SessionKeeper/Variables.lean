import SessionKeeper.Table

/-!
# Script variables

The keeper publishes connection parameters and the id of the active client as variables, for the
script around it to substitute. Substitution reads a text once, from left to right; where several
names fit, the longest one counts, and substituted values are not read again.
-/

namespace SessionKeeper

/-- The values of script variables. -/
abbrev Variables := Table String

namespace Variables

/-- The variable that holds the user. -/
def clientUser : String := "%OPTION_CLIENT_USER%"

/-- The variable that holds the password. -/
def clientPassword : String := "%OPTION_CLIENT_PASSWORD%"

/-- The variable that holds the host. -/
def clientHost : String := "%OPTION_CLIENT_HOST%"

/-- The variable that holds the path of the local socket. -/
def clientSocket : String := "%OPTION_CLIENT_SOCKET%"

/-- The variable that holds the schema. -/
def clientSchema : String := "%OPTION_CLIENT_SCHEMA%"

/-- The variable that holds the port. -/
def clientPort : String := "%OPTION_CLIENT_PORT%"

/-- The variable that holds the TLS mode. -/
def tlsMode : String := "%OPTION_SSL_MODE%"

/-- The variable that holds the client id of the active session. -/
def activeClientId : String := "%ACTIVE_CLIENT_ID%"

/-! ### Substitution -/

/-- The number of bytes of a text. -/
def width : List Char → Nat
  | [] => 0
  | c :: text => c.utf8Size + width text

/-- What is left of a text behind the given number of its bytes; nothing if these end inside a
character, or if there are not so many. -/
def behind : (count : Nat) → List Char → Option (List Char)
  | 0, text => some text
  | _ + 1, [] => none
  | count + 1, c :: text =>
      if c.utf8Size ≤ count + 1 then behind (count + 1 - c.utf8Size) text else none

/-- A key that may be found in a text, with its value. -/
structure Candidate where
  key : String
  value : String
  key_ne_empty : key ≠ ""
  deriving DecidableEq, Repr

/-- The candidate of an entry; the empty key makes none. -/
def Candidate.ofEntry? (entry : String × String) : Option Candidate :=
  if h : entry.1 = "" then none else some ⟨entry.1, entry.2, h⟩

/-- Whether a candidate is tried no later than another one: the longer key comes first, and equally
long ones come in ascending order. -/
def Candidate.precedes (a b : Candidate) : Bool :=
  if width a.key.toList = width b.key.toList then decide (a.key ≤ b.key)
  else decide (width b.key.toList < width a.key.toList)

/-- The candidates in the order in which they are tried. -/
def candidates (v : Variables) : List Candidate :=
  (v.entries.filterMap Candidate.ofEntry?).mergeSort Candidate.precedes

/-- What comes in place of the front of a text, and the number of bytes that it replaces: the value
of the first candidate whose key begins the text, or else the first character itself. -/
def replacement (candidates : List Candidate) (c : Char) (rest : List Char) : List Char × Nat :=
  match candidates.find? fun candidate => candidate.key.toList.isPrefixOf (c :: rest) with
  | some candidate => (candidate.value.toList, width candidate.key.toList)
  | none => ([c], c.utf8Size)

@[simp]
theorem width_cons (c : Char) (text : List Char) : width (c :: text) = c.utf8Size + width text :=
  rfl

/-- A front of a text can be left behind by the number of its bytes. -/
theorem behind_width (front left : List Char) :
    behind (width front) (front ++ left) = some left := by
  induction front with
  | nil =>
      show behind 0 left = some left
      cases left <;> rfl
  | cons c front ih =>
      obtain ⟨size, hsize⟩ := Nat.exists_eq_add_one.mpr c.utf8Size_pos
      rw [width_cons, List.cons_append, show c.utf8Size + width front = size + width front + 1 by
        omega, behind, if_pos (by omega), show size + width front + 1 - c.utf8Size = width front by
        omega, ih]

/-- The bytes that are left behind are those of a front of the text. -/
theorem exists_front_of_behind {count : Nat} {text left : List Char}
    (h : behind count text = some left) : ∃ front, text = front ++ left ∧ width front = count := by
  fun_induction behind count text with
  | case1 text =>
      cases h
      exact ⟨[], rfl, rfl⟩
  | case2 => cases h
  | case3 count c text hle ih =>
      obtain ⟨front, rfl, hwidth⟩ := ih h
      refine ⟨c :: front, rfl, ?_⟩
      rw [width_cons, hwidth]
      omega
  | case4 => cases h

/-- A text that is not empty has bytes. -/
theorem width_pos {text : List Char} (h : text ≠ []) : 0 < width text := by
  cases text with
  | nil => exact absurd rfl h
  | cons c text =>
      have hpos := c.utf8Size_pos
      rw [width_cons]
      omega

theorem Candidate.toList_key_ne_nil (candidate : Candidate) : candidate.key.toList ≠ [] :=
  fun h => candidate.key_ne_empty (String.toList_eq_nil_iff.mp h)

/-- What is replaced is a front of the text that is not empty. -/
theorem exists_front (candidates : List Candidate) (c : Char) (rest : List Char) :
    ∃ front left, c :: rest = front ++ left ∧ front ≠ [] ∧
      width front = (replacement candidates c rest).2 := by
  unfold replacement
  split
  · next candidate hfound =>
      have hbegins := List.find?_some hfound
      obtain ⟨left, hleft⟩ := List.isPrefixOf_iff_prefix.mp hbegins
      exact ⟨candidate.key.toList, left, hleft.symm, candidate.toList_key_ne_nil, rfl⟩
  · exact ⟨[c], rest, rfl, List.cons_ne_nil _ _, by simp [width]⟩

/-- Leaving behind what is replaced shortens the text. -/
theorem length_behind_replacement {candidates : List Candidate} {c : Char} {rest left : List Char}
    (h : behind (replacement candidates c rest).2 (c :: rest) = some left) :
    left.length < (c :: rest).length := by
  obtain ⟨front, hfront, hwidth⟩ := exists_front_of_behind h
  obtain ⟨other, -, -, hother, hsame⟩ := exists_front candidates c rest
  have hpos := width_pos hother
  have hnonempty : front ≠ [] := by
    rintro rfl
    rw [hsame, ← hwidth] at hpos
    exact Nat.lt_irrefl 0 hpos
  have hlength := List.length_pos_iff.mpr hnonempty
  rw [hfront, List.length_append]
  omega

/-- Replace keys in a text, reading it from the left: what was replaced is left behind by counting
its bytes. Nothing comes of it if that would cut a character. -/
def scan (candidates : List Candidate) (text : List Char) : Option (List Char) :=
  match text with
  | [] => some []
  | c :: rest =>
      let first := replacement candidates c rest
      match _ : behind first.2 (c :: rest) with
      | none => none
      | some left => (scan candidates left).map (first.1 ++ ·)
termination_by text.length
decreasing_by exact length_behind_replacement ‹_›

/-- No character is ever cut. -/
theorem isSome_scan (candidates : List Candidate) (text : List Char) :
    (scan candidates text).isSome = true := by
  fun_induction scan candidates text with
  | case1 => rfl
  | case2 c rest first hcut =>
      obtain ⟨front, left, hfront, -, hwidth⟩ := exists_front candidates c rest
      have hleft := behind_width front left
      rw [hwidth, ← hfront] at hleft
      cases hcut.symm.trans hleft
  | case3 c rest first left hleft ih => rw [Option.isSome_map, ih]

/-- Replace every name of a variable in a text by its value. -/
def substitute (v : Variables) (text : String) : String :=
  String.ofList ((scan v.candidates text.toList).get (isSome_scan _ _))

end Variables

end SessionKeeper
