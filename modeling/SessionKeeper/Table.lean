/-!
# Tables of named entries

A table holds at most one value under each name, in the order in which the names first came.
`get?` is its view: one lemma says what each operation does to it.
-/

namespace SessionKeeper

/-- Values under distinct names. -/
structure Table (α : Type u) where
  entries : List (String × α)
  nodup : (entries.map Prod.fst).Nodup

namespace Table

variable {α : Type u}

/-- The table without entries. -/
def empty : Table α := ⟨[], List.nodup_nil⟩

/-- The names, in the order in which they first came. -/
def names (t : Table α) : List String :=
  t.entries.map Prod.fst

/-- The number of entries. -/
def size (t : Table α) : Nat :=
  t.entries.length

/-- The value of the first entry under a name. -/
def find? (entries : List (String × α)) (name : String) : Option α :=
  match entries with
  | [] => none
  | entry :: entries => if name = entry.1 then some entry.2 else find? entries name

/-- The value under a name. -/
def get? (t : Table α) (name : String) : Option α :=
  find? t.entries name

/-- Whether there is a value under a name. -/
def contains (t : Table α) (name : String) : Bool :=
  (t.get? name).isSome

/-- The entries with the value under a name that is there replaced. -/
def replaceIn (name : String) (value : α) (entries : List (String × α)) : List (String × α) :=
  entries.map fun entry => if entry.1 = name then (name, value) else entry

theorem fst_replaceIn (name : String) (value : α) (entries : List (String × α)) :
    (replaceIn name value entries).map Prod.fst = entries.map Prod.fst := by
  induction entries with
  | nil => rfl
  | cons entry entries ih =>
      simp only [replaceIn, List.map_cons, List.cons.injEq] at ih ⊢
      refine ⟨?_, ih⟩
      split
      · next h => exact h.symm
      · rfl

/-- A name without a value is not among the names. -/
theorem get?_eq_none_iff {t : Table α} {name : String} :
    t.get? name = none ↔ name ∉ t.names := by
  unfold get? names
  induction t.entries with
  | nil => simp [find?]
  | cons entry entries ih =>
      by_cases h : name = entry.1
      · simp [find?, h]
      · simp only [find?, if_neg h, ih, List.map_cons, List.mem_cons, not_or]
        exact ⟨fun hrest => ⟨h, hrest⟩, And.right⟩

/-- Put a value under a name; a value that is there is replaced. -/
def insert (t : Table α) (name : String) (value : α) : Table α :=
  if h : t.get? name = none then
    ⟨t.entries ++ [(name, value)], by
      have hfresh : name ∉ t.entries.map Prod.fst := get?_eq_none_iff.mp h
      rw [List.map_append]
      refine List.nodup_append.mpr ⟨t.nodup, by simp, ?_⟩
      intro first hfirst second hsecond
      simp only [List.map_cons, List.map_nil, List.mem_singleton] at hsecond
      exact fun heq => hfresh (hsecond ▸ heq ▸ hfirst)⟩
  else ⟨replaceIn name value t.entries, by rw [fst_replaceIn]; exact t.nodup⟩

/-- Remove the value under a name. -/
def erase (t : Table α) (name : String) : Table α :=
  ⟨t.entries.filter fun entry => entry.1 ≠ name,
    t.nodup.sublist (List.filter_sublist.map Prod.fst)⟩

/-- The names in ascending order. -/
def sortedNames (t : Table α) : List String :=
  t.names.mergeSort fun a b => decide (a ≤ b)

@[simp]
theorem get?_empty (name : String) : (empty : Table α).get? name = none :=
  rfl

theorem find?_append_singleton (entries : List (String × α)) (name other : String) (value : α)
    (h : find? entries name = none) :
    find? (entries ++ [(name, value)]) other =
      if other = name then some value else find? entries other := by
  induction entries with
  | nil => simp [find?]
  | cons entry entries ih =>
      by_cases hname : name = entry.1
      · simp [find?, hname] at h
      · have hrest : find? entries name = none := by simpa [find?, hname] using h
        by_cases hentry : other = entry.1
        · have hother : other ≠ name := fun heq => hname (heq.symm.trans hentry)
          simp only [List.cons_append, find?, if_pos hentry, if_neg hother]
        · simp only [List.cons_append, find?, if_neg hentry, ih hrest]

theorem find?_replaceIn (entries : List (String × α)) (name other : String) (value : α) :
    find? (replaceIn name value entries) other =
      if other = name ∧ find? entries name ≠ none then some value else find? entries other := by
  induction entries with
  | nil => simp [replaceIn, find?]
  | cons entry entries ih =>
      have hcons : replaceIn name value (entry :: entries) =
          (if entry.1 = name then (name, value) else entry) :: replaceIn name value entries := rfl
      rw [hcons]
      by_cases hentry : entry.1 = name
      · by_cases hother : other = name
        · simp [find?, hentry, hother]
        · simp [find?, hentry, hother, ih]
      · by_cases hother : other = entry.1
        · have hne : other ≠ name := fun h => hentry (hother ▸ h)
          simp [find?, hentry, hother]
        · have hname : name ≠ entry.1 := fun h => hentry h.symm
          simp [find?, hentry, hother, hname, ih]

/-- A value put under a name is found there, and no other name is affected. -/
theorem get?_insert (t : Table α) (name other : String) (value : α) :
    (t.insert name value).get? other = if other = name then some value else t.get? other := by
  unfold insert
  split
  · next h => exact find?_append_singleton t.entries name other value h
  · next h =>
      have hfound : find? t.entries name ≠ none := h
      simp [get?, find?_replaceIn, hfound]

theorem get?_insert_self (t : Table α) (name : String) (value : α) :
    (t.insert name value).get? name = some value :=
  (get?_insert t name name value).trans (if_pos rfl)

/-- A value put under a new name comes last. -/
theorem entries_insert_of_absent {t : Table α} {name : String} (value : α)
    (h : t.get? name = none) : (t.insert name value).entries = t.entries ++ [(name, value)] := by
  rw [insert, dif_pos h]

/-- A value put under a name that is there leaves the names as they are. -/
theorem names_insert_of_present {t : Table α} {name : String} {old : α} (value : α)
    (h : t.get? name = some old) : (t.insert name value).names = t.names := by
  have hthere : t.get? name ≠ none := by simp [h]
  rw [insert, dif_neg hthere]
  exact fst_replaceIn name value t.entries

/-- A removed name has no value, and no other name is affected. -/
theorem get?_erase (t : Table α) (name other : String) :
    (t.erase name).get? other = if other = name then none else t.get? other := by
  simp only [get?, erase]
  induction t.entries with
  | nil => simp [find?]
  | cons entry entries ih =>
      by_cases hentry : entry.1 = name
      · rw [List.filter_cons_of_neg (by simp [hentry]), ih]
        by_cases hother : other = name
        · simp [hother]
        · simp [find?, hother, hentry]
      · rw [List.filter_cons_of_pos (by simp [hentry])]
        by_cases hother : other = entry.1
        · simp [find?, hother, hentry]
        · simp only [find?, if_neg hother, ih]

/-! ### Names and entries -/

variable {t : Table α} {name other : String}

theorem contains_iff_mem_names : t.contains name = true ↔ name ∈ t.names := by
  rw [contains, Option.isSome_iff_ne_none, ne_eq, get?_eq_none_iff, Decidable.not_not]

theorem contains_iff_exists : t.contains name = true ↔ ∃ value, t.get? name = some value :=
  Option.isSome_iff_exists

theorem contains_eq_false_iff : t.contains name = false ↔ t.get? name = none := by
  rw [contains, Option.isSome_eq_false_iff, Option.isNone_iff_eq_none]

theorem contains_insert (value : α) :
    (t.insert name value).contains other = (decide (other = name) || t.contains other) := by
  by_cases h : other = name <;> simp [contains, get?_insert, h]

theorem contains_erase :
    (t.erase name).contains other = (!decide (other = name) && t.contains other) := by
  by_cases h : other = name <;> simp [contains, get?_erase, h]

theorem eq_of_entries_eq {s t : Table α} (h : s.entries = t.entries) : s = t := by
  cases s
  cases t
  cases h
  rfl

/-- Only entries under the name are replaced. -/
theorem filter_replaceIn (value : α) (entries : List (String × α)) :
    (replaceIn name value entries).filter (fun entry => entry.1 ≠ name) =
      entries.filter fun entry => entry.1 ≠ name := by
  induction entries with
  | nil => rfl
  | cons entry entries ih =>
      simp only [replaceIn, List.map_cons] at ih ⊢
      by_cases h : entry.1 = name
      · rw [if_pos h, List.filter_cons_of_neg (by simp), List.filter_cons_of_neg (by simp [h]), ih]
      · rw [if_neg h, List.filter_cons_of_pos (by simp [h]), List.filter_cons_of_pos (by simp [h]),
          ih]

theorem replaceIn_of_absent (value : α) {entries : List (String × α)}
    (h : name ∉ entries.map Prod.fst) : replaceIn name value entries = entries := by
  have hsame : ∀ entry ∈ entries, (if entry.1 = name then (name, value) else entry) = entry := by
    intro entry hentry
    have hne : entry.1 ≠ name := fun heq => h (heq ▸ List.mem_map_of_mem hentry)
    exact if_neg hne
  exact (List.map_congr_left hsame).trans (List.map_id' entries)

/-- Removing a name undoes what was put under it. -/
theorem erase_insert (t : Table α) (name : String) (value : α) :
    (t.insert name value).erase name = t.erase name := by
  apply eq_of_entries_eq
  unfold insert
  split
  · simp [erase]
  · exact filter_replaceIn value t.entries

/-- Of two values put under one name the later one stays. -/
theorem insert_insert (t : Table α) (name : String) (first second : α) :
    (t.insert name first).insert name second = t.insert name second := by
  have hthere : (t.insert name first).get? name ≠ none := by simp [get?_insert]
  apply eq_of_entries_eq
  rw [insert, dif_neg hthere]
  by_cases h : t.get? name = none
  · have habsent : name ∉ t.entries.map Prod.fst := get?_eq_none_iff.mp h
    simp only [insert, dif_pos h]
    have hleft := replaceIn_of_absent second habsent
    simp only [replaceIn, List.map_append] at hleft ⊢
    simp [hleft]
  · simp only [insert, dif_neg h, replaceIn, List.map_map]
    apply List.map_congr_left
    intro entry _
    by_cases hentry : entry.1 = name <;> simp [hentry]

/-- The entry under a name is the one that is found. -/
theorem get?_of_mem_entries {value : α} (h : (name, value) ∈ t.entries) :
    t.get? name = some value := by
  have hnodup := t.nodup
  unfold get?
  generalize t.entries = entries at h hnodup
  induction entries with
  | nil => cases h
  | cons entry entries ih =>
      simp only [List.map_cons, List.nodup_cons] at hnodup
      rcases List.mem_cons.mp h with rfl | hrest
      · simp [find?]
      · have hne : name ≠ entry.1 := fun heq =>
          hnodup.1 (heq ▸ List.mem_map_of_mem (f := Prod.fst) hrest)
        simpa [find?, hne] using ih hrest hnodup.2

theorem values_perm_of_find? {value : α} {entries : List (String × α)}
    (hnodup : (entries.map Prod.fst).Nodup) (h : find? entries name = some value) :
    (entries.map Prod.snd).Perm
      (value :: (entries.filter fun entry => entry.1 ≠ name).map Prod.snd) := by
  induction entries with
  | nil => cases h
  | cons entry entries ih =>
      simp only [List.map_cons, List.nodup_cons] at hnodup
      by_cases hentry : name = entry.1
      · -- The name comes once only, so nothing else is taken out.
        subst hentry
        have hrest : entries.filter (fun other => other.1 ≠ entry.1) = entries := by
          refine List.filter_eq_self.mpr fun other hother => ?_
          simp only [ne_eq, decide_not, Bool.not_eq_true', decide_eq_false_iff_not]
          exact fun heq => hnodup.1 (heq ▸ List.mem_map_of_mem hother)
        obtain rfl : entry.2 = value := by simpa [find?] using h
        rw [List.filter_cons_of_neg (by simp), hrest]
        exact List.Perm.refl _
      · have hfound : find? entries name = some value := by simpa [find?, hentry] using h
        rw [List.filter_cons_of_pos (by simpa using Ne.symm hentry), List.map_cons, List.map_cons]
        exact ((ih hnodup.2 hfound).cons entry.2).trans (List.Perm.swap ..)

/-- A value that is found is one of the values, beside those that are left without it. -/
theorem values_perm {value : α} (h : t.get? name = some value) :
    (t.entries.map Prod.snd).Perm (value :: (t.erase name).entries.map Prod.snd) :=
  values_perm_of_find? t.nodup h

/-- A value that is put under a name comes to those that are left without that name. -/
theorem values_insert_perm (t : Table α) (name : String) (value : α) :
    ((t.insert name value).entries.map Prod.snd).Perm
      (value :: (t.erase name).entries.map Prod.snd) := by
  have h := values_perm (get?_insert_self t name value)
  rwa [erase_insert] at h

/-- Removing a name that is not there changes nothing. -/
theorem erase_of_absent (h : t.get? name = none) : t.erase name = t := by
  refine eq_of_entries_eq (List.filter_eq_self.mpr fun entry hentry => ?_)
  simp only [ne_eq, decide_not, Bool.not_eq_true', decide_eq_false_iff_not]
  exact fun heq => get?_eq_none_iff.mp h (heq ▸ List.mem_map_of_mem hentry)

/-- A table in which nothing is found has no entries. -/
theorem entries_eq_nil_of_get? (h : ∀ name, t.get? name = none) : t.entries = [] := by
  cases hentries : t.entries with
  | nil => rfl
  | cons entry entries =>
      have hfound : t.get? entry.1 = some entry.2 :=
        get?_of_mem_entries (by rw [hentries]; exact List.mem_cons_self)
      rw [h] at hfound
      cases hfound

/-- The values in their order are those found under the names in theirs. -/
theorem filterMap_get?_names (t : Table α) :
    t.names.filterMap t.get? = t.entries.map Prod.snd := by
  have hfound : ∀ entry ∈ t.entries, t.get? entry.1 = some entry.2 :=
    fun entry hentry => get?_of_mem_entries (show (entry.1, entry.2) ∈ t.entries from hentry)
  rw [names]
  generalize t.entries = entries at hfound ⊢
  induction entries with
  | nil => rfl
  | cons entry entries ih =>
      simp only [List.map_cons]
      rw [List.filterMap_cons_some (hfound entry (by simp)),
        ih fun other hother => hfound other (List.mem_cons_of_mem _ hother)]

/-- What is found is an entry. -/
theorem mem_entries_of_get? {value : α} (h : t.get? name = some value) :
    (name, value) ∈ t.entries := by
  have hmem : name ∈ t.names := contains_iff_mem_names.mp (contains_iff_exists.mpr ⟨value, h⟩)
  obtain ⟨entry, hentry, rfl⟩ := List.mem_map.mp hmem
  have hfound : t.get? entry.1 = some entry.2 := get?_of_mem_entries hentry
  obtain rfl : entry.2 = value := Option.some.inj (hfound.symm.trans h)
  exact hentry

/-- What is found is the value of an entry. -/
theorem mem_of_get? {value : α} (h : t.get? name = some value) :
    value ∈ t.entries.map Prod.snd :=
  List.mem_map_of_mem (f := Prod.snd) (mem_entries_of_get? h)

/-- The values of the entries are those that can be found. -/
theorem mem_values_iff {value : α} :
    value ∈ t.entries.map Prod.snd ↔ ∃ name, t.get? name = some value := by
  constructor
  · rw [← filterMap_get?_names]
    intro h
    obtain ⟨name, -, hfound⟩ := List.mem_filterMap.mp h
    exact ⟨name, hfound⟩
  · rintro ⟨name, h⟩
    exact mem_of_get? h

theorem length_names (t : Table α) : t.names.length = t.size :=
  List.length_map _

theorem size_insert_of_absent (value : α) (h : t.get? name = none) :
    (t.insert name value).size = t.size + 1 := by
  rw [size, entries_insert_of_absent value h, List.length_append]
  rfl

theorem size_insert_of_present {old : α} (value : α) (h : t.get? name = some old) :
    (t.insert name value).size = t.size := by
  rw [← length_names, names_insert_of_present value h, length_names]

theorem size_erase_of_present {old : α} (h : t.get? name = some old) :
    (t.erase name).size + 1 = t.size := by
  have hlength := (values_perm h).length_eq
  rw [List.length_map, List.length_cons, List.length_map] at hlength
  exact hlength.symm

end Table

end SessionKeeper
