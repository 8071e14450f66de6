import SessionKeeper.Proofs.Protobuf.Entries
import SessionKeeper.Proofs.Protobuf.ReadBack

/-!
# Messages with fields that are not declared

A sender may know more fields of a message than its schema declares. `Padded` says that one encoding
comes from another one by putting entries of undeclared fields between the others, and, where a
field is a message again, also between the fields of that one. `Alike` and `EndAlike` say that two
encodings are read with the same outcome, whatever comes behind them. `Tolerates.ends_alike` says
that padding does not change the outcome; the relation in it is equality, except where what is in a
message is kept as bytes, which padding does change.
-/

namespace SessionKeeper.Protobuf

/-! ## Reading with the same outcome -/

/-- Two readers, each with bytes of its own, end alike whatever comes behind the bytes: they read
related values up to the end of their bytes, or they fail with the same error. -/
inductive Alike {α : Type} (rel : α → α → Prop) (read read' : Bytes → Decoded α)
    (bytes bytes' : Bytes) : Prop where
  | read {a a' : α} (hrel : rel a a') (h : ∀ rest, read (bytes ++ rest) = .ok (a, rest))
      (h' : ∀ rest, read' (bytes' ++ rest) = .ok (a', rest))
  | refused {e : DecodeError} (h : ∀ rest, read (bytes ++ rest) = .error e)
      (h' : ∀ rest, read' (bytes' ++ rest) = .error e)

/-! ## Kinds -/

namespace Kind

variable {α : Type} {depth : Nat}

/-- A complete value is read at once: whatever there was before, the outcome is the same. -/
def AtOnce (kind : Kind α) : Prop :=
  ∀ (depth needed number : Nat) (old old' : α) (value : Bytes),
    IsValue needed number kind.wireType value →
      Alike Eq (kind.merge depth old) (kind.merge depth old') value value

/-- Values behind their lengths are read alike if they are related, as values that stay related. -/
def ReadsAlike (kind : Kind α) (depth : Nat) (related : Bytes → Bytes → Prop)
    (relPart : α → α → Prop) (old old' : α) : Prop :=
  ∀ {length length' value value' : Bytes}, related value value' →
    IsVarint length value.length → IsVarint length' value'.length →
      Alike relPart (kind.merge depth old) (kind.merge depth old') (length ++ value)
        (length' ++ value')

theorem of_varint_at_once {empty : α} {toNat : α → Nat} {ofNat : Nat → α} :
    (ofVarint empty toNat ofNat).AtOnce := by
  intro depth needed number old old' value hvalue
  cases hvalue with
  | plain h =>
      cases h with
      | @varint _ n h =>
          have hread (rest : Bytes) : (readVarint (value ++ rest)).map
              (fun read => (ofNat read.1, read.2)) = .ok (ofNat n, rest) := by
            rw [h.read]
            rfl
          exact .read rfl hread hread

theorem read_delimited_of_varint {length content : Bytes} (h : IsVarint length content.length)
    (rest : Bytes) : readDelimited (length ++ content ++ rest) = .ok (content, rest) := by
  simp only [readDelimited, List.append_assoc, h.read]
  rw [if_neg (by simp), List.take_left, List.drop_left]

theorem bytes_at_once : bytes.AtOnce := by
  intro depth needed number old old' value hvalue
  cases hvalue with
  | plain h =>
      cases h with
      | delimited h => exact .read rfl (read_delimited_of_varint h) (read_delimited_of_varint h)

theorem string_at_once : string.AtOnce := by
  intro depth needed number old old' value hvalue
  cases hvalue with
  | plain h =>
      cases h with
      | @delimited length content h =>
          cases htext : Text.ofUtf8? content with
          | none =>
              have hread (old : String) (rest : Bytes) :
                  string.merge depth old (length ++ content ++ rest) =
                    .error Fault.invalidString := by
                simp only [string, read_delimited_of_varint h, htext]
              exact .refused (hread old) (hread old')
          | some text =>
              have hread (old : String) (rest : Bytes) :
                  string.merge depth old (length ++ content ++ rest) = .ok (text, rest) := by
                simp only [string, read_delimited_of_varint h, htext]
              exact .read rfl (hread old) (hread old')

end Kind

/-! ## Padding -/

/-- For each number of a field that is to be padded inside, how the value there may be padded. -/
abbrev Inside := Nat → Option (Bytes → Bytes → Prop)

/-- Nothing is padded inside. -/
def Inside.nowhere : Inside := fun _ => none

/-- The second encoding is the first one with complete entries of fields that the schema does not
declare put in between the others, each of them nested no deeper than `depth`. A value of a field
that is padded inside has a length of its own in each of the two. -/
inductive Padded {M : Type} (schema : Schema M) (inside : Inside) (depth : Nat) :
    Bytes → Bytes → Prop where
  | nil : Padded schema inside depth [] []
  | insert {plain padded : Bytes} (e : Entry)
      (hundeclared : e.number ∉ schema.fields.map Field.number) (hcomplete : e.IsComplete depth)
      (h : Padded schema inside depth plain padded) :
      Padded schema inside depth plain (e.bytes ++ padded)
  | keep {needed : Nat} {plain padded : Bytes} (e : Entry) (hcomplete : e.IsComplete needed)
      (hwhole : e.wireType = .delimited → inside e.number = none)
      (h : Padded schema inside depth plain padded) :
      Padded schema inside depth (e.bytes ++ plain) (e.bytes ++ padded)
  | nested {number : Nat} {key length length' value value' plain padded : Bytes}
      {related : Bytes → Bytes → Prop} (hkey : IsKey key number .delimited)
      (hlength : IsVarint length value.length) (hlength' : IsVarint length' value'.length)
      (hinside : inside number = some related) (hvalue : related value value')
      (h : Padded schema inside depth plain padded) :
      Padded schema inside depth (key ++ (length ++ value) ++ plain)
        (key ++ (length' ++ value') ++ padded)

/-! ## Fields -/

namespace Field

variable {M α : Type} {f : Field M} {kind : Kind α} {inside : Inside} {depth : Nat}
  {wireType : WireType} {rel : M → M → Prop} {relPart : α → α → Prop}

/-- Related messages stay related when a value of the field is merged into both of them: the same
value, or, if the field is padded inside, a value and a padded one. -/
structure Tolerates (f : Field M) (inside : Inside) (depth : Nat) (rel : M → M → Prop) :
    Prop where
  kept : ∀ {needed : Nat} {wireType : WireType} {value : Bytes} {m m' : M}, rel m m' →
    IsValue needed f.number wireType value →
      (wireType = .delimited → inside f.number = none) →
        Alike rel (f.merge depth wireType m) (f.merge depth wireType m') value value
  nested : ∀ {length length' value value' : Bytes} {related : Bytes → Bytes → Prop} {m m' : M},
    rel m m' → inside f.number = some related → related value value' →
      IsVarint length value.length → IsVarint length' value'.length →
        Alike rel (f.merge depth .delimited m) (f.merge depth .delimited m') (length ++ value)
          (length' ++ value')

theorem merge_with_alike {old old' : α} {put put' : α → M} {value value' : Bytes}
    (h : Alike relPart (kind.merge depth old) (kind.merge depth old') value value')
    (hput : ∀ {a a'}, relPart a a' → rel (put a) (put' a')) :
    Alike rel (mergeWith kind old put depth kind.wireType)
      (mergeWith kind old' put' depth kind.wireType) value value' := by
  have hmerge (old : α) (put : α → M) (bytes : Bytes) :
      mergeWith kind old put depth kind.wireType bytes =
        (kind.merge depth old bytes).map fun read => (put read.1, read.2) := if_pos rfl
  cases h with
  | read hrel h h' =>
      exact .read (hput hrel) (fun rest => by rw [hmerge, h]; rfl)
        fun rest => by rw [hmerge, h']; rfl
  | @refused e h h' =>
      exact .refused (e := e) (fun rest => by rw [hmerge, h]; rfl)
        fun rest => by rw [hmerge, h']; rfl

theorem merge_with_mismatch {old old' : α} {put put' : α → M} (h : wireType ≠ kind.wireType)
    (value value' : Bytes) :
    Alike rel (mergeWith kind old put depth wireType) (mergeWith kind old' put' depth wireType)
      value value' :=
  .refused (fun _ => if_neg h) fun _ => if_neg h

/-- A field whose values are read at once keeps messages related if setting it does. -/
theorem tolerates_at_once {get : M → α} {put : M → α → M}
    (hmerge : ∀ wireType m,
      f.merge depth wireType m = mergeWith kind (get m) (put m) depth wireType)
    (hkind : kind.AtOnce) (hinside : inside f.number = none)
    (hput : ∀ {m m'} a, rel m m' → rel (put m a) (put m' a)) : f.Tolerates inside depth rel where
  kept {_ wireType value m m'} hrel hvalue _ := by
    rw [hmerge, hmerge]
    by_cases h : wireType = kind.wireType
    · subst h
      exact merge_with_alike (hkind depth _ _ (get m) (get m') value hvalue)
        (by rintro a _ rfl; exact hput a hrel)
    · exact merge_with_mismatch h value value
  nested _ h := by cases hinside.symm.trans h

theorem required_tolerates {number : Nat} {name : String} {get : M → α} {set : α → M → M}
    (hkind : kind.AtOnce) (hinside : inside number = none)
    (hset : ∀ {m m'} a, rel m m' → rel (set a m) (set a m')) :
    (required number name kind get set).Tolerates inside depth rel := by
  have hmerge (wireType : WireType) (m : M) :
      (required number name kind get set).merge depth wireType m =
        mergeWith kind (get m) (fun a => set a m) depth wireType := rfl
  exact tolerates_at_once hmerge hkind hinside hset

theorem optional_tolerates {number : Nat} {name : String} {get : M → Option α}
    {set : Option α → M → M} (hkind : kind.AtOnce) (hinside : inside number = none)
    (hset : ∀ {m m'} a, rel m m' → rel (set (some a) m) (set (some a) m')) :
    (optional number name kind get set).Tolerates inside depth rel := by
  have hmerge (wireType : WireType) (m : M) :
      (optional number name kind get set).merge depth wireType m =
        mergeWith kind ((get m).getD kind.empty) (fun a => set (some a) m) depth wireType := rfl
  exact tolerates_at_once hmerge hkind hinside hset

/-- A field whose values are padded inside keeps messages related if values that are related are
read alike, and setting them does. -/
theorem tolerates_nested {get : M → α} {put : M → α → M} {related : Bytes → Bytes → Prop}
    (hmerge : ∀ wireType m,
      f.merge depth wireType m = mergeWith kind (get m) (put m) depth wireType)
    (hdelimited : kind.wireType = .delimited) (hinside : inside f.number = some related)
    (hkind : ∀ {m m'}, rel m m' → kind.ReadsAlike depth related relPart (get m) (get m'))
    (hput : ∀ {m m' a a'}, rel m m' → relPart a a' → rel (put m a) (put m' a')) :
    f.Tolerates inside depth rel where
  kept {_ wireType value m m'} _ _ hwhole := by
    rw [hmerge, hmerge]
    refine merge_with_mismatch (fun h => ?_) value value
    cases hinside.symm.trans (hwhole (h.trans hdelimited))
  nested hrel hinside' hvalue hlength hlength' := by
    cases hinside.symm.trans hinside'
    rw [hmerge, hmerge, ← hdelimited]
    exact merge_with_alike (hkind hrel hvalue hlength hlength') (hput hrel)

theorem optional_tolerates_nested {number : Nat} {name : String} {get : M → Option α}
    {set : Option α → M → M} {related : Bytes → Bytes → Prop}
    (hdelimited : kind.wireType = .delimited) (hinside : inside number = some related)
    (hkind : ∀ {m m'}, rel m m' →
      kind.ReadsAlike depth related relPart ((get m).getD kind.empty) ((get m').getD kind.empty))
    (hset : ∀ {m m' a a'}, rel m m' → relPart a a' → rel (set (some a) m) (set (some a') m')) :
    (optional number name kind get set).Tolerates inside depth rel := by
  have hmerge (wireType : WireType) (m : M) :
      (optional number name kind get set).merge depth wireType m =
        mergeWith kind ((get m).getD kind.empty) (fun a => set (some a) m) depth wireType := rfl
  exact tolerates_nested hmerge hdelimited hinside hkind hset

theorem repeated_tolerates_nested {number : Nat} {name : String} {get : M → List α}
    {set : List α → M → M} {related : Bytes → Bytes → Prop}
    (hdelimited : kind.wireType = .delimited) (hinside : inside number = some related)
    (hkind : kind.ReadsAlike depth related relPart kind.empty kind.empty)
    (hset : ∀ {m m' a a'}, rel m m' → relPart a a' →
      rel (set (get m ++ [a]) m) (set (get m' ++ [a']) m')) :
    (repeated number name kind get set).Tolerates inside depth rel := by
  have hmerge (wireType : WireType) (m : M) :
      (repeated number name kind get set).merge depth wireType m =
        mergeWith kind kind.empty (fun a => set (get m ++ [a]) m) depth wireType := rfl
  exact tolerates_nested hmerge hdelimited hinside (fun _ => hkind) hset

end Field

/-! ## Schemas -/

namespace Schema

variable {M : Type} {schema : Schema M} {inside : Inside} {depth number : Nat}
  {wireType : WireType} {rel : M → M → Prop} {old old' new : M}
  {bytes bytes' key value value' : Bytes} {e : DecodeError}

/-- Merging the bytes fails, whatever comes behind them. -/
def Fails (schema : Schema M) (depth : Nat) (old : M) (bytes : Bytes) (e : DecodeError) : Prop :=
  ∀ (limit : Nat) (rest : Bytes), limit ≤ rest.length →
    schema.mergeUntil depth limit old (bytes ++ rest) = .error e

theorem merge_until_entry {limit : Nat} {rest : Bytes} (hkey : IsKey key number wireType)
    (hlimit : limit ≤ rest.length) :
    schema.mergeUntil depth limit old (key ++ value ++ rest) =
      (schema.mergeField depth number wireType old (value ++ rest)).bind fun merged =>
        schema.mergeUntil depth limit merged.1 merged.2 := by
  have hpos := hkey.length_pos
  rw [List.append_assoc]
  exact merge_until_of_key (by simp only [List.length_append]; omega) (hkey.read _)

theorem merges_of_key (hkey : IsKey key number wireType)
    (h : ∀ rest, schema.mergeField depth number wireType old (value ++ rest) = .ok (new, rest)) :
    schema.Merges depth old (key ++ value) new := by
  intro limit rest hlimit
  rw [merge_until_entry hkey hlimit, h]
  rfl

theorem fails_of_key (hkey : IsKey key number wireType)
    (h : ∀ rest, schema.mergeField depth number wireType old (value ++ rest) = .error e) :
    schema.Fails depth old (key ++ value) e := by
  intro limit rest hlimit
  rw [merge_until_entry hkey hlimit, h]
  rfl

theorem Fails.append (h : schema.Fails depth old bytes e) (later : Bytes) :
    schema.Fails depth old (bytes ++ later) e := by
  intro limit rest hlimit
  rw [List.append_assoc, h limit _ (by rw [List.length_append]; omega)]

theorem Merges.then_fails {later : Bytes} (h : schema.Merges depth old bytes new)
    (hlater : schema.Fails depth new later e) : schema.Fails depth old (bytes ++ later) e := by
  intro limit rest hlimit
  rw [List.append_assoc, h limit _ (by rw [List.length_append]; omega), hlater limit rest hlimit]

/-- Merging two encodings into related messages ends alike: the messages that come of it are
related, or both fail with the same error. -/
inductive EndAlike (schema : Schema M) (depth : Nat) (rel : M → M → Prop) (old old' : M)
    (bytes bytes' : Bytes) : Prop where
  | merged {new new' : M} (hrel : rel new new') (h : schema.Merges depth old bytes new)
      (h' : schema.Merges depth old' bytes' new')
  | failed {e : DecodeError} (h : schema.Fails depth old bytes e)
      (h' : schema.Fails depth old' bytes' e)

theorem EndAlike.append {later later' : Bytes}
    (h : schema.EndAlike depth rel old old' bytes bytes')
    (hlater : ∀ {new new'}, rel new new' → schema.EndAlike depth rel new new' later later') :
    schema.EndAlike depth rel old old' (bytes ++ later) (bytes' ++ later') := by
  cases h with
  | merged hrel h h' =>
      cases hlater hrel with
      | merged hrel hlater hlater' => exact .merged hrel (h.append hlater) (h'.append hlater')
      | failed hlater hlater' => exact .failed (h.then_fails hlater) (h'.then_fails hlater')
  | failed h h' => exact .failed (h.append later) (h'.append later')

theorem end_alike_of_key (hkey : IsKey key number wireType)
    (h : Alike rel (schema.mergeField depth number wireType old)
      (schema.mergeField depth number wireType old') value value') :
    schema.EndAlike depth rel old old' (key ++ value) (key ++ value') := by
  cases h with
  | read hrel h h' => exact .merged hrel (merges_of_key hkey h) (merges_of_key hkey h')
  | refused h h' => exact .failed (fails_of_key hkey h) (fails_of_key hkey h')

/-- Related messages stay related whatever is merged into both, and only fields of the schema are
padded inside. -/
structure Tolerates (schema : Schema M) (inside : Inside) (depth : Nat) (rel : M → M → Prop) :
    Prop where
  fields : ∀ f ∈ schema.fields, f.Tolerates inside depth rel
  declared : ∀ number, inside number ≠ none → number ∈ schema.fields.map Field.number

theorem find_eq_none_iff :
    schema.fields.find? (·.number == number) = none ↔
      number ∉ schema.fields.map Field.number := by
  simp [List.find?_eq_none]

theorem find_of_declared (h : number ∈ schema.fields.map Field.number) :
    ∃ f ∈ schema.fields, f.number = number ∧
      schema.fields.find? (·.number == number) = some f := by
  cases hfind : schema.fields.find? (·.number == number) with
  | none => exact absurd h (find_eq_none_iff.mp hfind)
  | some f =>
      have hnumber := List.find?_some hfind
      exact ⟨f, List.mem_of_find?_eq_some hfind, beq_iff_eq.mp hnumber, rfl⟩

theorem merge_field_alike {f : Field M} (hfind : schema.fields.find? (·.number == number) = some f)
    (h : Alike rel (f.merge depth wireType old) (f.merge depth wireType old') value value') :
    Alike rel (schema.mergeField depth number wireType old)
      (schema.mergeField depth number wireType old') value value' := by
  cases h with
  | read hrel h h' =>
      exact .read hrel (fun rest => by simp only [mergeField, hfind, h])
        fun rest => by simp only [mergeField, hfind, h']
  | @refused e h h' =>
      exact .refused (e := e.within schema.name f.name)
        (fun rest => by simp only [mergeField, hfind, h])
        fun rest => by simp only [mergeField, hfind, h']

/-- An undeclared field is read over if there are enough levels for it, and else refused. -/
theorem merge_undeclared {needed : Nat} (h : number ∉ schema.fields.map Field.number)
    (hvalue : IsValue needed number wireType value) (depth : Nat) :
    (∀ m rest, schema.mergeField depth number wireType m (value ++ rest) = .ok (m, rest)) ∨
      depth < needed ∧ ∀ m rest,
        schema.mergeField depth number wireType m (value ++ rest) =
          .error Fault.recursionLimit := by
  have hfind := find_eq_none_iff.mpr h
  obtain hskip | ⟨hless, hskip⟩ := hvalue.skipped depth
  · exact .inl fun m rest => by simp only [mergeField, hfind, hskip]
  · exact .inr ⟨hless, fun m rest => by simp only [mergeField, hfind, hskip]⟩

/-- A complete entry is merged alike into related messages. -/
theorem Tolerates.kept {needed : Nat} (htolerates : schema.Tolerates inside depth rel)
    (hrel : rel old old') (hvalue : IsValue needed number wireType value)
    (hwhole : wireType = .delimited → inside number = none) :
    Alike rel (schema.mergeField depth number wireType old)
      (schema.mergeField depth number wireType old') value value := by
  by_cases h : number ∈ schema.fields.map Field.number
  · obtain ⟨f, hf, rfl, hfind⟩ := find_of_declared h
    exact merge_field_alike hfind ((htolerates.fields f hf).kept hrel hvalue hwhole)
  · obtain hskip | ⟨-, hskip⟩ := merge_undeclared h hvalue depth
    · exact .read hrel (hskip old) (hskip old')
    · exact .refused (hskip old) (hskip old')

/-- Padding does not change how merging ends. The induction is on the padding: what is put in is
read over, and what is kept is merged alike. -/
theorem Tolerates.ends_alike (htolerates : schema.Tolerates inside depth rel)
    (h : Padded schema inside depth bytes bytes') (hrel : rel old old') :
    schema.EndAlike depth rel old old' bytes bytes' := by
  induction h generalizing old old' with
  | nil => exact .merged hrel (fun _ _ _ => rfl) fun _ _ _ => rfl
  | insert e hundeclared hcomplete _ ih =>
      obtain hskip | ⟨hless, -⟩ := merge_undeclared hundeclared hcomplete depth
      · have hmerges := merges_of_key e.isKey (hskip old')
        cases ih hrel with
        | merged hrel h h' => exact .merged hrel h (hmerges.append h')
        | failed h h' => exact .failed h (hmerges.then_fails h')
      · exact absurd hless (Nat.lt_irrefl depth)
  | keep e hcomplete hwhole _ ih =>
      exact (end_alike_of_key e.isKey (htolerates.kept hrel hcomplete hwhole)).append ih
  | nested hkey hlength hlength' hinside hvalue _ ih =>
      obtain ⟨f, hf, rfl, hfind⟩ := find_of_declared
        (htolerates.declared _ (hinside ▸ Option.some_ne_none _))
      have hmerge := (htolerates.fields f hf).nested hrel hinside hvalue hlength hlength'
      exact (end_alike_of_key hkey (merge_field_alike hfind hmerge)).append ih

/-- What is decoded into related messages without padding is decoded into related ones with it. -/
theorem Tolerates.decode_related (htolerates : schema.Tolerates inside nestingLimit rel)
    (h : Padded schema inside nestingLimit bytes bytes') (hempty : rel schema.empty schema.empty) :
    (∃ m m', rel m m' ∧ schema.decode bytes = .ok m ∧ schema.decode bytes' = .ok m') ∨
      ∃ e, schema.decode bytes = .error e ∧ schema.decode bytes' = .error e := by
  have hend (m : M) : schema.mergeUntil nestingLimit 0 m [] = .ok (m, []) :=
    merge_until_of_enough (Nat.le_refl 0)
  cases htolerates.ends_alike h hempty with
  | @merged m m' hrel h h' =>
      refine .inl ⟨m, m', hrel, ?_, ?_⟩
      · rw [decode, ← List.append_nil bytes, h 0 [] (Nat.zero_le 0), hend]
        rfl
      · rw [decode, ← List.append_nil bytes', h' 0 [] (Nat.zero_le 0), hend]
        rfl
  | @failed e h h' =>
      refine .inr ⟨e, ?_, ?_⟩
      · rw [decode, ← List.append_nil bytes, h 0 [] (Nat.zero_le 0)]
        rfl
      · rw [decode, ← List.append_nil bytes', h' 0 [] (Nat.zero_le 0)]
        rfl

/-- Padding does not change what is decoded, whatever comes behind it. -/
theorem Tolerates.decode_eq (htolerates : schema.Tolerates inside nestingLimit Eq)
    (h : Padded schema inside nestingLimit bytes bytes') (tail : Bytes) :
    schema.decode (bytes' ++ tail) = schema.decode (bytes ++ tail) := by
  have hlimit := Nat.zero_le tail.length
  cases htolerates.ends_alike h rfl with
  | merged hrel h h' => rw [decode, decode, h 0 tail hlimit, h' 0 tail hlimit, hrel]
  | failed h h' => rw [decode, decode, h 0 tail hlimit, h' 0 tail hlimit]

theorem kind_merge_of_length {length : Bytes} (hlength : IsVarint length bytes.length) (m : M)
    (rest : Bytes) :
    schema.kind.merge (depth + 1) m (length ++ bytes ++ rest) =
      (schema.mergeUntil depth rest.length m (bytes ++ rest)).bind fun merged =>
        if merged.2.length = rest.length then .ok merged else .error Fault.lengthExceeded := by
  have hleft : (bytes ++ rest).length - bytes.length = rest.length := by simp
  simp only [kind, mergeNested, List.append_assoc, hlength.read, Nat.add_sub_cancel, hleft]
  rw [if_neg (Nat.succ_ne_zero depth), if_neg (by simp)]
  cases schema.mergeUntil depth rest.length m (bytes ++ rest) with
  | error e => rfl
  | ok merged => rfl

/-- A message inside another one is read alike if it is padded. -/
theorem Tolerates.kind_reads_alike (htolerates : schema.Tolerates inside depth Eq) (m : M) :
    schema.kind.ReadsAlike (depth + 1) (Padded schema inside depth) Eq m m := by
  intro length length' value value' h hlength hlength'
  have hend (m : M) (rest : Bytes) : schema.mergeUntil depth rest.length m rest = .ok (m, rest) :=
    merge_until_of_enough (Nat.le_refl _)
  cases htolerates.ends_alike h (rfl : m = m) with
  | merged hrel h h' =>
      refine .read hrel (fun rest => ?_) fun rest => ?_
      · rw [kind_merge_of_length hlength, h _ rest (Nat.le_refl _), hend]
        exact if_pos rfl
      · rw [kind_merge_of_length hlength', h' _ rest (Nat.le_refl _), hend]
        exact if_pos rfl
  | @failed e h h' =>
      refine .refused (e := e) (fun rest => ?_) fun rest => ?_
      · rw [kind_merge_of_length hlength, h _ rest (Nat.le_refl _)]
        rfl
      · rw [kind_merge_of_length hlength', h' _ rest (Nat.le_refl _)]
        rfl

end Schema

end SessionKeeper.Protobuf
