import Mathlib.Data.List.DropRight
import SessionKeeper.Text.Blank

/-!
# Tokens of a list

A text lists tokens: it is divided at every separator, and the blank characters at both ends of
each piece do not count. `Trims` and `Token` say so without regard to how blank characters are
dropped and pieces are found; `trim_chars_eq_iff` and `mem_map_trim_split_iff` say that `trim` and
`split` agree with them.
-/

namespace SessionKeeper.Text

variable {cs token : List Char} {separator : Char} {s t : String}

/-! ## Blank characters -/

/-- The second text is what is left of the first one without the blank characters at both ends. -/
structure Trims (cs token : List Char) : Prop where
  split : ∃ front back, cs = front ++ (token ++ back) ∧
    (∀ c ∈ front, isBlank c = true) ∧ ∀ c ∈ back, isBlank c = true
  first : ∀ c ∈ token.head?, isBlank c = false
  last : ∀ c ∈ token.getLast?, isBlank c = false

theorem trim_chars_eq_drop : trimChars cs = (cs.dropWhile isBlank).rdropWhile isBlank :=
  rfl

/-- Nothing else is dropped than the blank characters in front. -/
theorem drop_while_blank_append {front : List Char} (rest : List Char)
    (hfront : ∀ c ∈ front, isBlank c = true)
    (hrest : ∀ c ∈ rest.head?, isBlank c = false) :
    (front ++ rest).dropWhile isBlank = rest := by
  rw [List.dropWhile_append_of_pos hfront]
  cases rest with
  | nil => rfl
  | cons c rest => simp [hrest c rfl]

/-- What is left in front of dropped blank characters begins with none. -/
theorem head_drop_while_blank (cs : List Char) :
    ∀ c ∈ (cs.dropWhile isBlank).head?, isBlank c = false := by
  intro c hc
  have hfirst := List.head?_dropWhile_not isBlank cs
  rw [Option.mem_def.mp hc] at hfirst
  simpa using hfirst

theorem trims_trim_chars (cs : List Char) : Trims cs (trimChars cs) := by
  let rest := cs.dropWhile isBlank
  have hrest : rest.rdropWhile isBlank ++ rest.rtakeWhile isBlank = rest :=
    List.rdropWhile_append_rtakeWhile
  refine ⟨⟨cs.takeWhile isBlank, rest.rtakeWhile isBlank, ?_, ?_, ?_⟩, ?_, ?_⟩
  · rw [trim_chars_eq_drop, hrest, List.takeWhile_append_dropWhile]
  · exact fun c => List.mem_takeWhile_imp
  · exact fun c => List.mem_rtakeWhile_imp
  · intro c hc
    obtain ⟨left, hleft⟩ := List.head?_eq_some_iff.mp hc
    refine head_drop_while_blank cs c (Option.mem_def.mpr ?_)
    rw [show cs.dropWhile isBlank = rest from rfl, ← hrest,
      show rest.rdropWhile isBlank = c :: left from hleft]
    rfl
  · intro c hc
    rw [trim_chars_eq_drop, List.rdropWhile, List.getLast?_reverse] at hc
    exact head_drop_while_blank rest.reverse c hc

theorem Trims.trim_chars_eq (h : Trims cs token) : trimChars cs = token := by
  obtain ⟨front, back, rfl, hfront, hback⟩ := h.split
  rw [trim_chars_eq_drop]
  cases token with
  | nil =>
      have hall : ∀ c ∈ front ++ back, isBlank c = true := by
        intro c hc
        exact (List.mem_append.mp hc).elim (hfront c) (hback c)
      have hnone := drop_while_blank_append [] hall nofun
      rw [List.append_nil] at hnone
      rw [List.nil_append, hnone, List.rdropWhile_nil]
  | cons c token =>
      have hblank : ∀ c ∈ back.reverse, isBlank c = true := by simpa using hback
      have hleft := drop_while_blank_append (c :: token ++ back) hfront h.first
      have hright := drop_while_blank_append (c :: token).reverse hblank
        (by rw [List.head?_reverse]; exact h.last)
      rw [hleft, List.rdropWhile, List.reverse_append, hright, List.reverse_reverse]

/-- What `trim` leaves is what is left without the blank characters at both ends. -/
theorem trim_chars_eq_iff : trimChars cs = token ↔ Trims cs token :=
  ⟨fun h => h ▸ trims_trim_chars cs, Trims.trim_chars_eq⟩

/-- Nothing is left of a text exactly if all of it is blank. -/
theorem trim_eq_empty_iff : trim s = "" ↔ ∀ c ∈ s.toList, isBlank c = true := by
  rw [trim, String.ofList_eq_empty_iff, trim_chars_eq_iff]
  constructor
  · intro h c hc
    obtain ⟨front, back, hsplit, hfront, hback⟩ := h.split
    rw [hsplit, List.nil_append] at hc
    exact (List.mem_append.mp hc).elim (hfront c) (hback c)
  · intro h
    exact ⟨⟨s.toList, [], by simp, h, nofun⟩, nofun, nofun⟩

/-! ## Tokens -/

/-- A token is listed in a text, between separators or an end of the text. -/
def Token (separator : Char) (text token : String) : Prop :=
  ∃ piece ∈ text.toList.splitOn separator, Trims piece token.toList

/-- The pieces between separators are those that the list library finds. -/
theorem split_chars_eq_split_on (separator : Char) (cs : List Char) :
    splitChars separator cs = cs.splitOn separator := by
  induction cs with
  | nil => rfl
  | cons c cs ih =>
      rw [splitChars, ih, List.splitOn_cons_eq_if_modifyHead]
      by_cases hc : c = separator
      · simp [hc]
      · cases hpieces : cs.splitOn separator with
        | nil => exact absurd hpieces (List.splitOn_ne_nil separator cs)
        | cons piece pieces => simp [hc]

/-- A text lists exactly the trimmed pieces. -/
theorem mem_map_trim_split_iff : t ∈ (split separator s).map trim ↔ Token separator s t := by
  simp only [split, split_chars_eq_split_on, List.map_map, List.mem_map, Function.comp_apply, trim,
    String.toList_ofList, Token, ← trim_chars_eq_iff, ← String.toList_inj]

end SessionKeeper.Text
