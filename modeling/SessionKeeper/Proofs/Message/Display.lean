import SessionKeeper.Message.Server
import SessionKeeper.Proofs.Text.Quoting
import SessionKeeper.Proofs.Text.Tokens

/-!
# Displayed messages

A message is displayed on the lines of its form. What a server wrote stands in quotes there, where
no newline and nothing that a terminal does not show is left of it. So a server cannot bring about
a line of its own. The main statement, `display_unforgeable`, says this for every message, and that
replies that differ are displayed differently.
-/

namespace SessionKeeper

namespace Text

variable {s t : String}

/-! ## Texts of several lines -/

/-- A terminal shows every character of the text as it is. -/
def AllShown (s : String) : Prop :=
  ∀ c ∈ s.toList, IsShown c

theorem AllShown.append (hs : AllShown s) (ht : AllShown t) : AllShown (s ++ t) := by
  intro c hc
  rw [String.toList_append, List.mem_append] at hc
  exact hc.elim (hs c) (ht c)

theorem all_shown_of_ascii (h : allAscii s.toList = true) : AllShown s :=
  fun _ hc => is_shown_of_all_ascii h hc

theorem AllShown.newline_not_mem (h : AllShown s) : '\n' ∉ s.toList :=
  fun hmem => (h '\n' hmem).ne_newline rfl

/-- A decimal number is shown. -/
theorem all_shown_number (n : Nat) : AllShown (toString n) := by
  intro c hc
  rw [Nat.toString_eq_repr, Nat.toList_repr] at hc
  have hdigit := Nat.isDigit_of_mem_toDigits (by decide) (by decide) hc
  obtain ⟨hlow, hhigh⟩ := Char.isDigit_iff_toNat.mp hdigit
  exact is_shown_of_ascii
    ⟨Nat.le_trans (by decide) hlow, Nat.lt_of_le_of_lt hhigh (by decide)⟩

/-- Different numbers are written differently. -/
theorem number_injective {n k : Nat} (h : toString n = toString k) : n = k := by
  have hdigits := congrArg String.toList h
  rw [Nat.toString_eq_repr, Nat.toString_eq_repr, Nat.toList_repr, Nat.toList_repr] at hdigits
  rw [← Nat.ofDigitChars_ten_toDigits (n := n), hdigits, Nat.ofDigitChars_ten_toDigits]

/-- The lines as a text, each with a newline behind it. -/
def ofLines (lines : List String) : String :=
  String.join (lines.map (· ++ "\n"))

theorem to_list_of_lines_cons (line : String) (lines : List String) :
    (ofLines (line :: lines)).toList = line.toList ++ '\n' :: (ofLines lines).toList := by
  simp [ofLines]

/-- Between its newlines a text has its lines, and nothing is behind the last newline. -/
theorem split_of_lines {lines : List String} (h : ∀ line ∈ lines, AllShown line) :
    split '\n' (ofLines lines) = lines ++ [""] := by
  rw [split, split_chars_eq_split_on]
  induction lines with
  | nil => rfl
  | cons line lines ih =>
      obtain ⟨hline, hlater⟩ := List.forall_mem_cons.mp h
      rw [to_list_of_lines_cons, List.splitOn_append_cons_self_of_not_mem hline.newline_not_mem,
        List.map_cons, ih hlater, String.ofList_toList, List.cons_append]

/-- There are as many newlines as lines. -/
theorem count_newline_of_lines {lines : List String} (h : ∀ line ∈ lines, AllShown line) :
    (ofLines lines).toList.count '\n' = lines.length := by
  induction lines with
  | nil => rfl
  | cons line lines ih =>
      obtain ⟨hline, hlater⟩ := List.forall_mem_cons.mp h
      rw [to_list_of_lines_cons, List.count_append, List.count_cons_self, ih hlater,
        List.count_eq_zero_of_not_mem hline.newline_not_mem, List.length_cons, Nat.zero_add]

/-- Nothing in a text of shown lines but the newlines is not shown. -/
theorem is_shown_of_mem_of_lines {lines : List String} (h : ∀ line ∈ lines, AllShown line)
    {c : Char} (hc : c ∈ (ofLines lines).toList) : c = '\n' ∨ IsShown c := by
  induction lines with
  | nil => cases hc
  | cons line lines ih =>
      obtain ⟨hline, hlater⟩ := List.forall_mem_cons.mp h
      rw [to_list_of_lines_cons, List.mem_append, List.mem_cons] at hc
      obtain hc | rfl | hc := hc
      · exact .inr (hline c hc)
      · exact .inl rfl
      · exact ih hlater hc

end Text

namespace ServerMessage

open Text

variable {m m' : ServerMessage}

/-! ## The lines of a message -/

/-- The lines on which a message is displayed: its name, its fields, and the closing brace. -/
def displayLines (m : ServerMessage) : List String :=
  (m.name ++ " \x7b") :: (m.shownFields.map fun field => "  " ++ field.1 ++ ": " ++ field.2) ++
    ["\x7d"]

theorem display_eq_of_lines (m : ServerMessage) : m.display = ofLines m.displayLines := by
  apply String.toList_inj.mp
  simp [display, ofLines, displayLines, List.flatMap_map, Function.comp_def]

/-- The names of messages are shown. -/
theorem all_shown_name (m : ServerMessage) : AllShown m.name := by
  unfold name nameOfId
  split <;> exact all_shown_of_ascii (by decide +kernel)

/-- The names of fields are shown, and so are their values. -/
theorem all_shown_fields (m : ServerMessage) :
    ∀ field ∈ m.shownFields, AllShown field.1 ∧ AllShown field.2 := by
  have hquote : ∀ text, AllShown (quote text) := fun text _ => is_shown_of_mem_quote
  unfold shownFields
  split
  · next text =>
      simp only [List.forall_mem_cons]
      exact ⟨⟨all_shown_of_ascii (by decide), hquote text⟩, nofun⟩
  · next severity code sqlState text =>
      have hseverity : AllShown severity.name := by
        cases severity <;> exact all_shown_of_ascii (by decide)
      simp only [List.forall_mem_cons]
      exact ⟨⟨all_shown_of_ascii (by decide), hseverity⟩,
        ⟨all_shown_of_ascii (by decide), all_shown_number _⟩,
        ⟨all_shown_of_ascii (by decide), hquote text⟩,
        ⟨all_shown_of_ascii (by decide), hquote sqlState⟩, nofun⟩
  · next type isLocal payload =>
      have hscope : AllShown (if isLocal then "LOCAL" else "GLOBAL") := by
        cases isLocal <;> exact all_shown_of_ascii (by decide)
      simp only [List.forall_mem_cons]
      exact ⟨⟨all_shown_of_ascii (by decide), all_shown_number _⟩,
        ⟨all_shown_of_ascii (by decide), hscope⟩, nofun⟩
  · next id payload =>
      simp only [List.forall_mem_cons]
      exact ⟨⟨all_shown_of_ascii (by decide), all_shown_number _⟩,
        ⟨all_shown_of_ascii (by decide), all_shown_number _⟩, nofun⟩
  · exact nofun
  · exact nofun
  · exact nofun

theorem all_shown_lines (m : ServerMessage) : ∀ line ∈ m.displayLines, AllShown line := by
  have hopening : AllShown " \x7b" := all_shown_of_ascii (by decide)
  have hclosing : AllShown "\x7d" := all_shown_of_ascii (by decide)
  have hindent : AllShown "  " := all_shown_of_ascii (by decide)
  have hcolon : AllShown ": " := all_shown_of_ascii (by decide)
  intro line hline
  rw [displayLines, List.mem_append, List.mem_cons, List.mem_map, List.mem_singleton] at hline
  obtain (rfl | ⟨field, hfield, rfl⟩) | rfl := hline
  · exact m.all_shown_name.append hopening
  · obtain ⟨hname, hvalue⟩ := m.all_shown_fields field hfield
    exact ((hindent.append hname).append hcolon).append hvalue
  · exact hclosing

/-! ## Replies -/

/-- The message replies to a request, and its form has that many lines. -/
inductive IsReply : ServerMessage → Nat → Prop where
  | ok (text : String) : IsReply (.ok text) 3
  | error (severity : Severity) (code : UInt32) (sqlState text : String) :
      IsReply (.error severity code sqlState text) 6

theorem IsReply.length_display_lines {count : Nat} (h : m.IsReply count) :
    m.displayLines.length = count := by
  cases h <;> rfl

/-- Replies on the same lines are the same. -/
theorem IsReply.eq_of_display_lines {count count' : Nat} (h : m.IsReply count)
    (h' : m'.IsReply count') (hlines : m.displayLines = m'.displayLines) : m = m' := by
  cases h with
  | ok text =>
      cases h' with
      | ok text' =>
          simp only [displayLines, shownFields, List.map_cons, List.map_nil, List.cons_append,
            List.cons.injEq, String.append_right_inj] at hlines
          rw [quote_injective hlines.2.1]
      | error severity' code' sqlState' text' => cases congrArg List.length hlines
  | error severity code sqlState text =>
      cases h' with
      | ok text' => cases congrArg List.length hlines
      | error severity' code' sqlState' text' =>
          simp only [displayLines, shownFields, List.map_cons, List.map_nil, List.cons_append,
            List.cons.injEq, String.append_right_inj] at hlines
          obtain ⟨-, hseverity, hcode, htext, hsqlState, -⟩ := hlines
          have hsame : severity = severity' := by
            revert hseverity
            cases severity <;> cases severity' <;> decide
          rw [hsame, UInt32.toNat_inj.mp (number_injective hcode), quote_injective htext,
            quote_injective hsqlState]

/-- Whatever a server wrote, a message is displayed on the lines of its form, and apart from the
newlines behind them nothing is written that a terminal does not show. Replies have three lines or
six, and those that differ are displayed differently. -/
theorem display_unforgeable :
    (∀ m : ServerMessage, split '\n' m.display = m.displayLines ++ [""] ∧
      ∀ c ∈ m.display.toList, c = '\n' ∨ IsShown c) ∧
    (∀ (m : ServerMessage) (count : Nat), m.IsReply count →
      m.displayLines.length = count ∧ m.display.toList.count '\n' = count) ∧
    ∀ (m m' : ServerMessage) (count count' : Nat), m.IsReply count → m'.IsReply count' →
      m.display = m'.display → m = m' := by
  have hsplit : ∀ m : ServerMessage, split '\n' m.display = m.displayLines ++ [""] := by
    intro m
    rw [display_eq_of_lines]
    exact split_of_lines m.all_shown_lines
  refine ⟨fun m => ⟨hsplit m, fun c hc => ?_⟩, fun m count hm => ⟨hm.length_display_lines, ?_⟩,
    fun m m' count count' hm hm' hdisplay => ?_⟩
  · rw [display_eq_of_lines] at hc
    exact is_shown_of_mem_of_lines m.all_shown_lines hc
  · rw [display_eq_of_lines, count_newline_of_lines m.all_shown_lines, hm.length_display_lines]
  · have hlines := congrArg (split '\n') hdisplay
    rw [hsplit, hsplit] at hlines
    exact hm.eq_of_display_lines hm' (List.append_cancel_right hlines)

/-- A newline and a closing brace in a text make no line, and an escape that was sent is not taken
for one that was written. -/
theorem display_unforgeable_by_newline :
    let forged := ServerMessage.ok "bye!\n\x7d\nMysqlx.Error \x7b"
    let escaped := ServerMessage.ok "bye!\\n\x7d\\nMysqlx.Error \x7b"
    let failed := ServerMessage.error .fatal 1045 "28000" "\u2028\x1b[2J"
    forged.IsReply 3 ∧ escaped.IsReply 3 ∧ failed.IsReply 6 ∧
      forged.display.toList.count '\n' = 3 ∧ failed.display.toList.count '\n' = 6 ∧
      forged.display ≠ escaped.display ∧ forged.display ≠ failed.display := by
  intro forged escaped failed
  have hforged : forged.IsReply 3 := .ok _
  have hescaped : escaped.IsReply 3 := .ok _
  have hfailed : failed.IsReply 6 := .error _ _ _ _
  obtain ⟨-, hcount, hinjective⟩ := display_unforgeable
  refine ⟨hforged, hescaped, hfailed, (hcount forged 3 hforged).2, (hcount failed 6 hfailed).2,
    fun h => ?_, fun h => ?_⟩
  · exact absurd (hinjective _ _ _ _ hforged hescaped h) (by decide)
  · exact nomatch hinjective _ _ _ _ hforged hfailed h

end ServerMessage

end SessionKeeper
