import SessionKeeper.Toml.Number

/-!
# Documents of TOML

A document is read line by line: a header opens a table or adds one to an array, and a key with a
value adds to the table that was opened last. Values nest in arrays and in braces, up to a limit.
-/

namespace SessionKeeper.Toml

/-- The word at the front of a text. -/
def readWord (word : String) (value : Value) : Reader Value := fun cs =>
  if word.toList.isPrefixOf cs then some (value, cs.drop word.length) else none

/-- The items of an array up to the closing bracket; a comma may follow the last one. -/
def readItems (read : Reader Value) : (fuel : Nat) → Reader (List Value)
  | 0, _ => none
  | fuel + 1, cs =>
      match skipBlank false cs with
      | none => none
      | some (']' :: rest) => some ([], rest)
      | some cs =>
          match read cs with
          | none => none
          | some (item, rest) =>
              match skipBlank false rest with
              | some (',' :: rest) =>
                  (readItems read fuel rest).map fun found => (item :: found.1, found.2)
              | some (']' :: rest) => some ([item], rest)
              | _ => none

/-- A key, the sign between key and value, and a value. -/
def readPair (read : Reader Value) : Reader ((List String × String) × Value) := fun cs =>
  match readKey cs with
  | some (key, '=' :: rest) =>
      (read (skipSpaces rest)).map fun found => ((key, found.1), found.2)
  | _ => none

/-- The pairs of a table in braces up to the closing brace, added to the entries so far. -/
def readPairs (read : Reader Value) : (fuel : Nat) → Entries → Reader Entries
  | 0, _, _ => none
  | fuel + 1, entries, cs =>
      match readPair read cs with
      | none => none
      | some (((path, key), value), rest) =>
          match Entries.addDotted path key value entries with
          | none => none
          | some entries =>
              match skipSpaces rest with
              | ',' :: rest => readPairs read fuel entries rest
              | '}' :: rest => some (entries, rest)
              | _ => none

/-- A table in braces, behind the opening brace. -/
def readBraces (read : Reader Value) : Reader Value := fun cs =>
  match skipSpaces cs with
  | '}' :: rest => some (.table .inBraces [], rest)
  | _ =>
      (readPairs read (cs.length + 1) [] cs).map fun found => (.table .inBraces found.1, found.2)

/-- A value that holds no other one. -/
def readScalar : Reader Value := fun cs =>
  match cs with
  | [] => none
  | c :: _ =>
      if c = '"' ∨ c = '\'' then (readString cs).map fun found => (.string found.1, found.2)
      else if c = 't' then readWord "true" (.boolean true) cs
      else if c = 'f' then readWord "false" (.boolean false) cs
      else if c = 'i' ∨ c = 'n' ∨ c = '+' ∨ c = '-' ∨ isDecimal c then readNumber cs
      else none

/-- A value; `depth` is the number of levels that are still allowed. -/
def readValue : (depth : Nat) → Reader Value
  | 0, cs =>
      match cs with
      | '[' :: _ | '\x7b' :: _ => none
      | _ => readScalar cs
  | depth + 1, cs =>
      match cs with
      | '[' :: rest =>
          (readItems (readValue depth) (rest.length + 1) rest).map fun found =>
            (.array found.1, found.2)
      | '\x7b' :: rest => readBraces (readValue depth) rest
      | _ => readScalar cs

/-- A value of a document. -/
def readTopValue : Reader Value := readValue (depthLimit - 1)

/-- The key of a header, behind the opening bracket, and the closing brackets. -/
def readHeader (closing : List Char) : Reader (List String × String) := fun cs =>
  match readKey cs with
  | none => none
  | some (key, rest) =>
      if closing.isPrefixOf rest then some (key, rest.drop closing.length) else none

/-- A line that says something, without its end. -/
def readLine : Reader Line := fun cs =>
  match cs with
  | '[' :: '[' :: rest =>
      (readHeader [']', ']'] rest).map fun found => (.element found.1.1 found.1.2, found.2)
  | '[' :: rest => (readHeader [']'] rest).map fun found => (.table found.1.1 found.1.2, found.2)
  | _ =>
      (readPair readTopValue cs).map fun found =>
        (.value found.1.1.1 found.1.1.2 found.1.2, found.2)

/-- Read lines up to the end of the text. -/
def readLines : (fuel : Nat) → Draft → List Char → Option Draft
  | 0, _, _ => none
  | fuel + 1, draft, cs =>
      match skipSpaces cs with
      | [] => some draft
      | cs =>
          match lineEnd? cs with
          | some rest => readLines fuel draft rest
          | none =>
              match readLine cs with
              | none => none
              | some (line, rest) =>
                  match draft.place line, lineEnd? rest with
                  | some draft, some rest => readLines fuel draft rest
                  | _, _ => none

/-- The text without the mark of its encoding in front. -/
def skipMark : List Char → List Char
  | '\uFEFF' :: rest => rest
  | cs => cs

/-- The table of a document. -/
def parse? (text : String) : Option Entries :=
  let cs := skipMark text.toList
  (readLines (cs.length + 1) ⟨[], []⟩ cs).map (·.entries)

end SessionKeeper.Toml
