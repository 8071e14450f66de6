import SessionKeeper.Toml.Document

/-!
# Records from TOML values

A record has named parts, each of which may be left out. It is written as a table, where keys that
the record does not have are passed over, or as an array of its parts in their order.
-/

namespace SessionKeeper.Toml

/-- A part of records `ρ`: its name, and how a value is put into a record. -/
structure RecordPart (ρ : Type) where
  name : String
  put : Value → ρ → Option ρ

namespace RecordPart

variable {ρ α : Type}

/-- A part with values of the given kind. -/
def of (name : String) (read : Value → Option α) (set : α → ρ → ρ) : RecordPart ρ :=
  ⟨name, fun value r => (read value).map (set · r)⟩

end RecordPart

/-- Put the values of a table into a record, part by part. -/
def putEntries {ρ : Type} (entries : Entries) : List (RecordPart ρ) → ρ → Option ρ
  | [], r => some r
  | part :: parts, r =>
      match entries.lookup part.name with
      | none => putEntries entries parts r
      | some value => (part.put value r).bind (putEntries entries parts)

/-- Put the items of an array into a record, in the order of its parts. -/
def putItems {ρ : Type} : List (RecordPart ρ) → List Value → ρ → Option ρ
  | part :: parts, value :: values, r => (part.put value r).bind (putItems parts values)
  | _, _, r => some r

/-- Read a record that has the given parts and is `r` without any of them. -/
def readRecord {ρ : Type} (parts : List (RecordPart ρ)) (r : ρ) : Value → Option ρ
  | .table _ entries => putEntries entries parts r
  | .array items => putItems parts items r
  | .tables earlier last => putItems parts (earlier ++ [.table .byHeader last]) r
  | .datetime _ => some r
  | _ => none

namespace Value

/-- The text of a string. -/
def text? : Value → Option String
  | string text => some text
  | _ => none

/-- A truth value. -/
def bool? : Value → Option Bool
  | boolean value => some value
  | _ => none

/-- A whole number that is not negative and below a limit. -/
def natBelow? (limit : Nat) : Value → Option Nat
  | integer n => if 0 ≤ n ∧ n < limit then some n.toNat else none
  | _ => none

/-- Whether the value has nothing in it. -/
def isVacant : Value → Bool
  | table _ entries => entries.isEmpty
  | array items => items.isEmpty
  | _ => false

/-- One of some names, given as a string or as the only key of a table, with a vacant value. -/
def name? : Value → Option String
  | string text => some text
  | table _ [(key, value)] => if value.isVacant then some key else none
  | _ => none

end Value

end SessionKeeper.Toml
