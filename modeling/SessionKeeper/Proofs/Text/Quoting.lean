import Mathlib.Data.List.Basic
import SessionKeeper.Text.Quoted

/-!
# Reading quoted text back

An escape is known by its first characters and ends by itself, so a quoted text can be read
character by character. `read_escape_escape` says that what is read is the character that was
written, and that nothing behind it is touched. From it follows `quote_injective`: different texts
have different quoted forms. A quoted form has only characters that a terminal shows.
-/

namespace SessionKeeper.Text

variable {c d : Char} {cs ds rest : List Char} {m n : Nat}

/-! ## Hexadecimal digits -/

/-- The number that a hexadecimal digit stands for. -/
def hexValue (c : Char) : Nat :=
  if c.toNat < 58 then c.toNat - 48 else c.toNat - 87

/-- The number that hexadecimal digits spell. -/
def readHex (digits : List Char) : Nat :=
  digits.foldl (fun n c => n * 16 + hexValue c) 0

theorem hex_value_hex_digit : ∀ n < 16, hexValue (hexDigit n) = n := by
  decide

/-- Every digit of a number is one of the sixteen. -/
theorem exists_of_mem_hex_digits (h : c ∈ hexDigits n) : ∃ d < 16, c = hexDigit d := by
  induction n using hexDigits.induct with
  | case1 n hsmall =>
      rw [hexDigits, if_pos hsmall, List.mem_singleton] at h
      exact ⟨n, hsmall, h⟩
  | case2 n hlarge ih =>
      rw [hexDigits, if_neg hlarge, List.mem_append, List.mem_singleton] at h
      obtain h | h := h
      · exact ih h
      · exact ⟨n % 16, Nat.mod_lt n (by decide), h⟩

/-- A number is read back from its digits. -/
theorem read_hex_hex_digits (n : Nat) : readHex (hexDigits n) = n := by
  induction n using hexDigits.induct with
  | case1 n hsmall =>
      rw [hexDigits, if_pos hsmall, readHex, List.foldl_cons, List.foldl_nil,
        hex_value_hex_digit n hsmall]
      omega
  | case2 n hlarge ih =>
      rw [readHex] at ih
      rw [hexDigits, if_neg hlarge, readHex, List.foldl_append, ih, List.foldl_cons,
        List.foldl_nil, hex_value_hex_digit _ (Nat.mod_lt n (by decide))]
      omega

/-- No digit closes an escape. -/
theorem hex_digit_ne_brace : ∀ n < 16, hexDigit n ≠ '\x7d' := by
  decide

/-! ## Reading an escape -/

/-- The character that a letter behind a backslash stands for. -/
def ofLetter (letter : Char) : Char :=
  if letter = '0' then '\x00'
  else if letter = 't' then '\t'
  else if letter = 'n' then '\n'
  else if letter = 'r' then '\r'
  else letter

/-- Read the form of one character inside quotes; a quote is the form of none. -/
def readEscape : List Char → Option (Char × List Char)
  | [] => none
  | first :: rest =>
      if first = '"' then none
      else if first = '\\' then
        match rest with
        | [] => none
        | letter :: rest =>
            if letter = 'u' then
              some (Char.ofNat (readHex ((rest.drop 1).takeWhile (· ≠ '\x7d'))),
                (rest.dropWhile (· ≠ '\x7d')).drop 1)
            else some (ofLetter letter, rest)
      else some (first, rest)

/-- A code point between braces is read, and nothing behind the closing one. -/
theorem read_escape_code (c : Char) (rest : List Char) :
    readEscape ('\\' :: 'u' :: '\x7b' :: (hexDigits c.toNat ++ '\x7d' :: rest)) =
      some (c, rest) := by
  have hdigits : ∀ x ∈ hexDigits c.toNat, decide (x ≠ '\x7d') = true := by
    intro x hx
    obtain ⟨d, hd, rfl⟩ := exists_of_mem_hex_digits hx
    exact decide_eq_true (hex_digit_ne_brace d hd)
  have htake :
      (hexDigits c.toNat ++ '\x7d' :: rest).takeWhile (· ≠ '\x7d') = hexDigits c.toNat := by
    rw [List.takeWhile_append_of_pos hdigits]
    simp
  have hdrop : ('\x7b' :: (hexDigits c.toNat ++ '\x7d' :: rest)).dropWhile (· ≠ '\x7d') =
      '\x7d' :: rest := by
    rw [List.dropWhile_cons_of_pos (by decide), List.dropWhile_append_of_pos hdigits]
    simp
  simp only [readEscape, if_neg (show ¬ '\\' = '"' by decide), if_true, List.drop_succ_cons,
    List.drop_zero, htake, hdrop, read_hex_hex_digits, Char.ofNat_toNat]

/-- The form of a character is read back, whatever comes behind it. -/
theorem read_escape_escape (c : Char) (rest : List Char) :
    readEscape (escape c ++ rest) = some (c, rest) := by
  unfold escape
  split_ifs with hzero htab hnewline hreturn hquote hbackslash hunprintable
  · rw [hzero]; rfl
  · rw [htab]; rfl
  · rw [hnewline]; rfl
  · rw [hreturn]; rfl
  · rw [hquote]; rfl
  · rw [hbackslash]; rfl
  · rw [List.append_assoc, List.append_assoc]
    exact read_escape_code c rest
  · simp only [List.singleton_append, readEscape, if_neg hquote, if_neg hbackslash]

/-- The forms of characters can be told apart where they come one after the other. -/
theorem flat_map_escape_injective (h : cs.flatMap escape = ds.flatMap escape) : cs = ds := by
  induction cs generalizing ds with
  | nil =>
      cases ds with
      | nil => rfl
      | cons d ds =>
          have hread := read_escape_escape d (ds.flatMap escape)
          rw [← List.flatMap_cons, ← h] at hread
          cases hread
  | cons c cs ih =>
      have hread := read_escape_escape c (cs.flatMap escape)
      rw [← List.flatMap_cons, h] at hread
      cases ds with
      | nil => cases hread
      | cons d ds =>
          rw [List.flatMap_cons, read_escape_escape] at hread
          obtain ⟨rfl, hlater⟩ : d = c ∧ ds.flatMap escape = cs.flatMap escape := by
            simpa using hread
          rw [ih hlater.symm]

/-- Different texts have different quoted forms. -/
theorem quote_injective {s t : String} (h : quote s = quote t) : s = t := by
  have hchars : quoteChars s.toList = quoteChars t.toList := String.ofList_injective h
  rw [quoteChars, quoteChars, List.cons.injEq] at hchars
  exact String.toList_inj.mp (flat_map_escape_injective (List.append_cancel_right hchars.2))

/-! ## What a terminal shows -/

/-- A terminal shows the character as it is. -/
def IsShown (c : Char) : Prop :=
  Unprintable.contains c.toNat = false

instance (c : Char) : Decidable (IsShown c) :=
  inferInstanceAs (Decidable (_ = _))

/-- A newline is not shown. -/
theorem IsShown.ne_newline (h : IsShown c) : c ≠ '\n' := by
  rintro rfl
  exact absurd h (by decide)

/-- Blanks, and what is printed of the ASCII characters, are shown. -/
theorem is_shown_of_ascii (h : 32 ≤ c.toNat ∧ c.toNat < 127) : IsShown c := by
  have hranges : ∀ range ∈ Unprintable.alphabets, range.2 < 32 ∨ 127 ≤ range.1 := by
    decide +kernel
  rw [IsShown, Unprintable.contains, Unprintable.rangesNear, if_pos (by omega), List.any_eq_false]
  intro range hrange
  rw [Bool.and_eq_true, decide_eq_true_eq, decide_eq_true_eq]
  have houtside := hranges range hrange
  omega

/-- Every character is a blank, or one that is printed of the ASCII characters. -/
def allAscii (cs : List Char) : Bool :=
  cs.all fun c => 32 ≤ c.toNat && c.toNat < 127

theorem is_shown_of_all_ascii (h : allAscii cs = true) (hc : c ∈ cs) : IsShown c := by
  have hrange := List.all_eq_true.mp h c hc
  rw [Bool.and_eq_true, decide_eq_true_eq, decide_eq_true_eq] at hrange
  exact is_shown_of_ascii hrange

theorem is_shown_hex_digit : ∀ n < 16, IsShown (hexDigit n) := by
  have hascii : ∀ n < 16, 32 ≤ (hexDigit n).toNat ∧ (hexDigit n).toNat < 127 := by decide
  exact fun n hn => is_shown_of_ascii (hascii n hn)

/-- Whatever a character is, its form inside quotes is shown. -/
theorem is_shown_of_mem_escape (h : d ∈ escape c) : IsShown d := by
  unfold escape at h
  split_ifs at h with hzero htab hnewline hreturn hquote hbackslash hunprintable
  · exact is_shown_of_all_ascii (by decide) h
  · exact is_shown_of_all_ascii (by decide) h
  · exact is_shown_of_all_ascii (by decide) h
  · exact is_shown_of_all_ascii (by decide) h
  · exact is_shown_of_all_ascii (by decide) h
  · exact is_shown_of_all_ascii (by decide) h
  · rw [List.mem_append, List.mem_append] at h
    obtain (hopening | hdigit) | hclosing := h
    · exact is_shown_of_all_ascii (by decide) hopening
    · obtain ⟨n, hn, rfl⟩ := exists_of_mem_hex_digits hdigit
      exact is_shown_hex_digit n hn
    · exact is_shown_of_all_ascii (by decide) hclosing
  · rw [List.mem_singleton.mp h]
    exact eq_false_of_ne_true hunprintable

/-- Whatever a text is, its quoted form is shown. -/
theorem is_shown_of_mem_quote {s : String} (h : c ∈ (quote s).toList) : IsShown c := by
  have hquote : IsShown '"' := by decide
  rw [quote, String.toList_ofList, quoteChars, List.mem_cons, List.mem_append, List.mem_flatMap,
    List.mem_singleton] at h
  obtain rfl | ⟨d, -, hd⟩ | rfl := h
  · exact hquote
  · exact is_shown_of_mem_escape hd
  · exact hquote

end SessionKeeper.Text
