import Mathlib.Data.List.Infix
import SessionKeeper.Variables

/-!
# Leftmost-longest substitution

A text is read as a row of pieces: from the left, each piece is the longest key that begins what is
left of the text, or else its first character. `Factors` says so without regard to how keys are
looked for. The main statement, `substitute_leftmost_longest`, says that every text has exactly one
such row, that substitution puts the image of each piece in its place and never cuts a character,
and that nothing but the value of each key matters.
-/

namespace SessionKeeper.Variables

/-- A part of a text that is replaced as a whole. -/
inductive Piece where
  | key (name : String)
  | char (c : Char)
  deriving DecidableEq, Repr

namespace Piece

/-- The piece as it stands in a text. -/
def text : Piece → List Char
  | key name => name.toList
  | char c => [c]

/-- What a piece is replaced by: a key by its value, and a character by itself. -/
def image (v : Variables) : Piece → List Char
  | key name => ((v.get? name).getD "").toList
  | char c => [c]

end Piece

/-- A key that is not empty begins a text. -/
structure Begins (v : Variables) (name : String) (text : List Char) : Prop where
  nonempty : name ≠ ""
  known : v.contains name = true
  isPrefix : name.toList <+: text

/-- The first piece of a text. -/
inductive First (v : Variables) : Piece → List Char → Prop where
  /-- The longest of the keys that begin the text. -/
  | key {name : String} {text : List Char} (hbegins : Begins v name text)
      (hlongest : ∀ other, Begins v other text → other.toList.length ≤ name.toList.length) :
      First v (.key name) text
  /-- No key begins the text. -/
  | char {c : Char} {rest : List Char} (hnone : ∀ other, ¬ Begins v other (c :: rest)) :
      First v (.char c) (c :: rest)

/-- The pieces of a text, from the left. -/
inductive Factors (v : Variables) : List Char → List Piece → Prop where
  | nil : Factors v [] []
  | cons {piece : Piece} {text rest : List Char} {pieces : List Piece}
      (hfirst : First v piece text) (hsplit : text = piece.text ++ rest)
      (hrest : Factors v rest pieces) : Factors v text (piece :: pieces)

variable {v w : Variables} {name other : String} {text front left : List Char}
  {piece second : Piece} {pieces : List Piece} {candidate : Candidate}

/-! ## Widths and lengths -/

theorem width_append (front left : List Char) :
    width (front ++ left) = width front + width left := by
  induction front with
  | nil => exact (Nat.zero_add _).symm
  | cons c front ih => rw [List.cons_append, width_cons, width_cons, ih, Nat.add_assoc]

/-- Of two fronts of one text the one with fewer bytes has fewer characters. -/
theorem length_le_of_width_le (hfront : front <+: text) (hleft : left <+: text)
    (hwidth : width front ≤ width left) : front.length ≤ left.length := by
  rcases List.prefix_or_prefix_of_prefix hfront hleft with hshort | ⟨more, rfl⟩
  · exact hshort.length_le
  · rw [width_append] at hwidth
    have hmore : more = [] := by
      by_contra hne
      have hpos := width_pos hne
      omega
    rw [hmore, List.append_nil]

/-! ## The candidates -/

/-- The candidates are the keys that are not empty, each with its value. -/
theorem mem_candidates_iff :
    candidate ∈ v.candidates ↔ v.get? candidate.key = some candidate.value := by
  simp only [candidates, List.mem_mergeSort, List.mem_filterMap]
  constructor
  · rintro ⟨⟨key, value⟩, hentry, hmade⟩
    simp only [Candidate.ofEntry?] at hmade
    split at hmade
    · cases hmade
    · cases hmade
      exact Table.get?_of_mem_entries hentry
  · intro hget
    exact ⟨_, Table.mem_entries_of_get? hget, dif_neg candidate.key_ne_empty⟩

/-- A key that begins a text is a candidate that does. -/
theorem Begins.exists_candidate (h : Begins v name text) :
    ∃ candidate ∈ v.candidates, candidate.key = name ∧
      candidate.key.toList.isPrefixOf text = true := by
  obtain ⟨value, hvalue⟩ := Table.contains_iff_exists.mp h.known
  exact ⟨⟨name, value, h.nonempty⟩, mem_candidates_iff.mpr hvalue, rfl,
    List.isPrefixOf_iff_prefix.mpr h.isPrefix⟩

/-- A candidate that begins a text is a key that does. -/
theorem begins_of_candidate (h : candidate ∈ v.candidates)
    (hbegins : candidate.key.toList.isPrefixOf text = true) : Begins v candidate.key text :=
  ⟨candidate.key_ne_empty, Table.contains_iff_exists.mpr ⟨_, mem_candidates_iff.mp h⟩,
    List.isPrefixOf_iff_prefix.mp hbegins⟩

theorem Candidate.precedes_trans (a b c : Candidate) (hab : a.precedes b = true)
    (hbc : b.precedes c = true) : a.precedes c = true := by
  simp only [precedes] at hab hbc ⊢
  split at hab <;> split at hbc <;> split <;> simp only [decide_eq_true_eq] at hab hbc ⊢
  all_goals first | omega | exact String.le_trans hab hbc

theorem Candidate.precedes_total (a b : Candidate) :
    (a.precedes b || b.precedes a) = true := by
  simp only [precedes, Bool.or_eq_true]
  split <;> split <;> simp only [decide_eq_true_eq]
  all_goals first | omega | exact String.le_total a.key b.key

theorem candidates_pairwise (v : Variables) :
    v.candidates.Pairwise fun a b => a.precedes b = true := by
  unfold candidates
  exact List.pairwise_mergeSort Candidate.precedes_trans Candidate.precedes_total _

theorem Candidate.width_le_of_precedes {a b : Candidate} (h : a.precedes b = true) :
    width b.key.toList ≤ width a.key.toList := by
  simp only [precedes] at h
  split at h
  · omega
  · simp only [decide_eq_true_eq] at h
    omega

/-- The first candidate that begins a text is the longest that does. -/
theorem longest_of_find?
    (h : v.candidates.find? (fun c => c.key.toList.isPrefixOf text) = some candidate)
    (hbegins : Begins v other text) : other.toList.length ≤ candidate.key.toList.length := by
  obtain ⟨found, hmem, rfl, hfound⟩ := hbegins.exists_candidate
  obtain ⟨hcandidate, before, after, hsplit, hnone⟩ := List.find?_eq_some_iff_append.mp h
  have hfront := List.isPrefixOf_iff_prefix.mp hcandidate
  rw [hsplit, List.mem_append, List.mem_cons] at hmem
  obtain hearlier | rfl | hlater := hmem
  · -- Whoever is tried before it does not begin the text.
    have hnot := hnone found hearlier
    rw [hfound] at hnot
    cases hnot
  · exact Nat.le_refl _
  · have hsorted := candidates_pairwise v
    rw [hsplit] at hsorted
    have hprecedes := List.rel_of_pairwise_cons (List.pairwise_append.mp hsorted).2.1 hlater
    exact length_le_of_width_le hbegins.isPrefix hfront
      (Candidate.width_le_of_precedes hprecedes)

/-! ## One piece -/

/-- The piece that comes first is replaced by its image, and left behind by its bytes. -/
theorem exists_first (v : Variables) (c : Char) (rest : List Char) :
    ∃ piece left, First v piece (c :: rest) ∧ c :: rest = piece.text ++ left ∧
      (replacement v.candidates c rest).1 = piece.image v ∧
      behind (replacement v.candidates c rest).2 (c :: rest) = some left := by
  unfold replacement
  split
  · next candidate hfound =>
      have hmem := List.mem_of_find?_eq_some hfound
      have hfront := List.find?_some hfound
      have hbegins := begins_of_candidate hmem hfront
      obtain ⟨left, hleft⟩ := hbegins.isPrefix
      refine ⟨.key candidate.key, left, .key hbegins fun other => longest_of_find? hfound,
        hleft.symm, ?_, ?_⟩
      · rw [Piece.image, mem_candidates_iff.mp hmem]
        rfl
      · rw [← hleft]
        exact behind_width _ left
  · next hnone =>
      refine ⟨.char c, rest, .char fun other hbegins => ?_, rfl, rfl, behind_width [c] rest⟩
      obtain ⟨candidate, hmem, -, hfound⟩ := hbegins.exists_candidate
      exact List.find?_eq_none.mp hnone candidate hmem hfound

theorem First.text_ne_nil (h : First v piece text) : text ≠ [] := by
  cases h with
  | key hbegins =>
      rintro rfl
      exact hbegins.nonempty (String.toList_eq_nil_iff.mp (List.prefix_nil.mp hbegins.isPrefix))
  | char => exact List.cons_ne_nil _ _

/-- A text has one first piece. -/
theorem First.unique (h : First v piece text) (hsecond : First v second text) :
    piece = second := by
  cases h with
  | @key name _ hbegins hlongest =>
      cases hsecond with
      | @key other _ hother hlongestOther =>
          have hlength := Nat.le_antisymm (hlongestOther name hbegins) (hlongest other hother)
          have hsame := (List.prefix_of_prefix_length_le hbegins.isPrefix hother.isPrefix
            hlength.le).eq_of_length hlength
          rw [String.toList_injective hsame]
      | char hnone => exact absurd hbegins (hnone name)
  | char hnone =>
      cases hsecond with
      | @key other _ hother => exact absurd hother (hnone other)
      | char => rfl

/-! ## All pieces -/

/-- A text has one row of pieces. -/
theorem Factors.unique {others : List Piece} (h : Factors v text pieces)
    (hothers : Factors v text others) : pieces = others := by
  induction h generalizing others with
  | nil =>
      cases hothers with
      | nil => rfl
      | cons hfirst => exact absurd rfl hfirst.text_ne_nil
  | cons hfirst hsplit _ ih =>
      cases hothers with
      | nil => exact absurd rfl hfirst.text_ne_nil
      | cons hsecond hsplitOther hrest =>
          obtain rfl := hfirst.unique hsecond
          obtain rfl := List.append_cancel_left (hsplit.symm.trans hsplitOther)
          rw [ih hrest]

/-- The pieces make up the text. -/
theorem Factors.text_eq (h : Factors v text pieces) : text = pieces.flatMap Piece.text := by
  induction h with
  | nil => rfl
  | cons _ hsplit _ ih => rw [hsplit, List.flatMap_cons, ← ih]

/-- Scanning a text finds its pieces, and cuts the text between them only. -/
theorem exists_factors (v : Variables) (text : List Char) :
    ∃ pieces, Factors v text pieces ∧
      scan v.candidates text = some (pieces.flatMap (Piece.image v)) := by
  fun_induction scan v.candidates text with
  | case1 => exact ⟨[], .nil, rfl⟩
  | case2 c rest first hcut =>
      obtain ⟨piece, left, -, -, -, hleft⟩ := exists_first v c rest
      cases hcut.symm.trans hleft
  | case3 c rest first left hleft ih =>
      obtain ⟨piece, other, hpiece, hsplit, himage, hother⟩ := exists_first v c rest
      obtain rfl : left = other := Option.some.inj (hleft.symm.trans hother)
      obtain ⟨pieces, hpieces, hscan⟩ := ih
      refine ⟨piece :: pieces, .cons hpiece hsplit hpieces, ?_⟩
      rw [hscan, Option.map_some, show first.1 = piece.image v from himage, List.flatMap_cons]

/-! ## What the pieces depend on -/

theorem Begins.of_same (h : Begins v name text) (hsame : ∀ key, v.get? key = w.get? key) :
    Begins w name text :=
  ⟨h.nonempty, by rw [Table.contains, ← hsame name]; exact h.known, h.isPrefix⟩

/-- Where the keys have the same values, texts have the same pieces. -/
theorem Factors.of_same (h : Factors v text pieces) (hsame : ∀ key, v.get? key = w.get? key) :
    Factors w text pieces := by
  induction h with
  | nil => exact .nil
  | cons hfirst hsplit _ ih =>
      refine .cons ?_ hsplit ih
      cases hfirst with
      | key hbegins hlongest =>
          exact .key (hbegins.of_same hsame) fun other hother =>
            hlongest other (hother.of_same fun key => (hsame key).symm)
      | char hnone =>
          exact .char fun other hother => hnone other (hother.of_same fun key => (hsame key).symm)

theorem image_of_same (hsame : ∀ key, v.get? key = w.get? key) (piece : Piece) :
    piece.image v = piece.image w := by
  cases piece with
  | key name => rw [Piece.image, Piece.image, hsame]
  | char c => rfl

/-- The variables after they were set one after the other. -/
def assigned (settings : List (String × String)) : Variables :=
  settings.foldl (fun v setting => v.insert setting.1 setting.2) .empty

/-- A key has the value that it was given last. -/
theorem get?_assigned (settings : List (String × String)) (key : String) :
    (assigned settings).get? key = settings.reverse.lookup key := by
  induction settings using List.reverseRecOn with
  | nil => rfl
  | append_singleton settings last ih =>
      rw [assigned, List.foldl_append, List.foldl_cons, List.foldl_nil, Table.get?_insert,
        List.reverse_append, List.reverse_singleton, List.singleton_append, List.lookup_cons]
      by_cases hkey : key = last.1
      · simp [hkey]
      · rw [if_neg hkey, beq_false_of_ne hkey]
        exact ih

theorem scan_of_factors (h : Factors v text pieces) :
    scan v.candidates text = some (pieces.flatMap (Piece.image v)) := by
  obtain ⟨found, hfound, hscan⟩ := exists_factors v text
  rw [h.unique hfound, hscan]

theorem toList_substitute {text : String} (h : Factors v text.toList pieces) :
    (substitute v text).toList = pieces.flatMap (Piece.image v) := by
  simp [substitute, scan_of_factors h]

theorem substitute_of_same (hsame : ∀ key, v.get? key = w.get? key) (text : String) :
    substitute v text = substitute w text := by
  obtain ⟨pieces, hpieces, -⟩ := exists_factors v text.toList
  apply String.toList_injective
  rw [toList_substitute hpieces, toList_substitute (hpieces.of_same hsame)]
  exact List.flatMap_congr fun piece _ => image_of_same hsame piece

/-- Every text is in exactly one way a row of pieces in which, from the left, each piece is the
longest key that begins the rest of the text, or else its first character. Scanning the text never
cuts a character, and substitution yields the images of the pieces. Where two stores give every key
the same value, the order of their entries does not show, and neither does anything about the order
in which variables were set but which value a key was given last. -/
theorem substitute_leftmost_longest (v : Variables) (text : String) :
    (∃! pieces, Factors v text.toList pieces) ∧
      (∀ pieces, Factors v text.toList pieces →
        text.toList = pieces.flatMap Piece.text ∧
          scan v.candidates text.toList = some (pieces.flatMap (Piece.image v)) ∧
          (substitute v text).toList = pieces.flatMap (Piece.image v)) ∧
      (∀ w : Variables, (∀ key, v.get? key = w.get? key) →
        substitute v text = substitute w text) ∧
      ∀ settings others : List (String × String),
        (∀ key, settings.reverse.lookup key = others.reverse.lookup key) →
          substitute (assigned settings) text = substitute (assigned others) text := by
  obtain ⟨pieces, hpieces, -⟩ := exists_factors v text.toList
  refine ⟨⟨pieces, hpieces, fun others hothers => hothers.unique hpieces⟩, fun others hothers =>
    ⟨hothers.text_eq, scan_of_factors hothers, toList_substitute hothers⟩, fun w hsame =>
      substitute_of_same hsame text, fun settings others hsame => ?_⟩
  refine substitute_of_same (fun key => ?_) text
  rw [get?_assigned, get?_assigned, hsame]

/-- Of two keys that begin the text the longer one counts, its value is not read again, and the
empty key is never found. It does not matter that a key had another value before, or when it was
set. -/
theorem substitute_overlapping_keys :
    let settings := [("a", "1"), ("ab", "%"), ("", "x"), ("a", "ab")]
    let others := [("ab", "%"), ("a", "ab"), ("", "x")]
    let v := assigned settings
    (∀ key, settings.reverse.lookup key = others.reverse.lookup key) ∧
      Factors v "abéa".toList [.key "ab", .char 'é', .key "a"] ∧
      substitute v "abéa" = "%éab" ∧
      substitute (assigned others) "abéa" = "%éab" := by
  intro settings others v
  have hsame : ∀ key, settings.reverse.lookup key = others.reverse.lookup key := by
    intro key
    simp only [settings, others, List.reverse_cons, List.reverse_nil, List.nil_append,
      List.cons_append, List.lookup_cons, List.lookup_nil]
    by_cases ha : key = "a"
    · simp [ha]
    · by_cases hab : key = "ab"
      · simp [hab]
      · simp [beq_false_of_ne ha, beq_false_of_ne hab]
  have hnames : ∀ {name text}, Begins v name text → name = "a" ∨ name = "ab" := by
    intro name text hbegins
    have hname : name ∈ ["a", "ab", ""] := Table.contains_iff_mem_names.mp hbegins.known
    simpa [hbegins.nonempty] using hname
  have hlast : Factors v ['a'] [.key "a"] := by
    refine .cons (.key ⟨by decide, by decide, by decide⟩ fun other hother => ?_) ?_ .nil
    · obtain rfl | rfl := hnames hother
      · decide
      · exact absurd hother.isPrefix (by decide)
    · decide
  have hmiddle : Factors v ['é', 'a'] [.char 'é', .key "a"] := by
    refine .cons (.char fun other hother => ?_) rfl hlast
    obtain rfl | rfl := hnames hother
    · exact absurd hother.isPrefix (by decide)
    · exact absurd hother.isPrefix (by decide)
  have hpieces : Factors v "abéa".toList [.key "ab", .char 'é', .key "a"] := by
    refine .cons (.key ⟨by decide, by decide, by decide⟩ fun other hother => ?_) ?_ hmiddle
    · obtain rfl | rfl := hnames hother <;> decide
    · decide
  obtain ⟨-, himages, -, hsettings⟩ := substitute_leftmost_longest v "abéa"
  have hresult : substitute v "abéa" = "%éab" := by
    apply String.toList_injective
    rw [(himages _ hpieces).2.2]
    decide
  refine ⟨hsame, hpieces, hresult, ?_⟩
  rw [← hsettings settings others hsame]
  exact hresult

end SessionKeeper.Variables
