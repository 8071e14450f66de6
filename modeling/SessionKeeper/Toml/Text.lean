/-!
# Spaces, keys and strings of TOML

A reader takes characters from the front of a text and returns what they mean together with the
text behind them. Strings stand between double quotes, where a backslash begins an escape, or
between single quotes, where it does not; three quotes in place of one allow line breaks.
-/

namespace SessionKeeper.Toml

/-- Take something from the front of a text. -/
abbrev Reader (α : Type) := List Char → Option (α × List Char)

/-- Whether a character separates without ending a line. -/
def isSpace (c : Char) : Bool := c == ' ' || c == '\t'

/-- Whether a character may stand in comments and strings. -/
def isPlain (c : Char) : Bool := c == '\t' || (' ' ≤ c && c != '\x7f')

/-- The text behind the spaces at its front. -/
def skipSpaces (cs : List Char) : List Char := cs.dropWhile isSpace

/-- The text behind a line break. -/
def newline? : List Char → Option (List Char)
  | '\n' :: rest => some rest
  | '\r' :: '\n' :: rest => some rest
  | _ => none

/-- The text behind a comment, if there is one. -/
def skipComment (cs : List Char) : List Char :=
  match cs with
  | '#' :: rest => rest.dropWhile isPlain
  | _ => cs

/-- The text behind spaces, a comment, and the end of the line. -/
def lineEnd? (cs : List Char) : Option (List Char) :=
  match skipComment (skipSpaces cs) with
  | [] => some []
  | rest => newline? rest

/-- The text behind spaces, comments and line breaks; `comment` says whether it begins inside a
comment. A comment must end with its line. -/
def skipBlank : (comment : Bool) → List Char → Option (List Char)
  | _, '\n' :: rest => skipBlank false rest
  | _, '\r' :: '\n' :: rest => skipBlank false rest
  | true, c :: rest => if isPlain c then skipBlank true rest else none
  | true, [] => none
  | false, '#' :: rest => skipBlank true rest
  | false, c :: rest => if isSpace c then skipBlank false rest else some (c :: rest)
  | false, [] => some []

/-- The text behind spaces and line breaks. -/
def skipBreaks : List Char → List Char
  | '\n' :: rest => skipBreaks rest
  | '\r' :: '\n' :: rest => skipBreaks rest
  | c :: rest => if isSpace c then skipBreaks rest else c :: rest
  | [] => []

/-- The value of a hexadecimal digit. -/
def hexValue? (c : Char) : Option Nat :=
  if '0' ≤ c ∧ c ≤ '9' then some (c.toNat - 48)
  else if 'a' ≤ c ∧ c ≤ 'f' then some (c.toNat - 87)
  else if 'A' ≤ c ∧ c ≤ 'F' then some (c.toNat - 55)
  else none

/-- The number that hexadecimal digits spell. -/
def hexNumber? (n : Nat) : List Char → Option Nat
  | [] => some n
  | c :: cs =>
      match hexValue? c with
      | none => none
      | some value => hexNumber? (n * 16 + value) cs

/-- A character given by the hexadecimal digits of its code. -/
def readCode (count : Nat) : Reader Char := fun cs =>
  if cs.length < count then none
  else
    match hexNumber? 0 (cs.take count) with
    | none => none
    | some n => if n.isValidChar then some (Char.ofNat n, cs.drop count) else none

/-- The character that a letter stands for in an escape. -/
def escaped? : Char → Option Char
  | 'b' => some '\x08'
  | 't' => some '\t'
  | 'n' => some '\n'
  | 'f' => some '\x0c'
  | 'r' => some '\r'
  | '"' => some '"'
  | '\\' => some '\\'
  | _ => none

/-- The character of an escape, behind the backslash. -/
def readEscape : Reader Char
  | 'u' :: rest => readCode 4 rest
  | 'U' :: rest => readCode 8 rest
  | c :: rest => (escaped? c).map (·, rest)
  | [] => none

/-- Put a character in front of what a reader found. -/
def push (c : Char) (read : Option (List Char × List Char)) : Option (List Char × List Char) :=
  read.map fun found => (c :: found.1, found.2)

/-- The rest of a string between double quotes. -/
def readQuoted : (fuel : Nat) → Reader (List Char)
  | 0, _ => none
  | _ + 1, [] => none
  | fuel + 1, c :: rest =>
      if c = '"' then some ([], rest)
      else if c = '\\' then
        match readEscape rest with
        | none => none
        | some (found, rest) => push found (readQuoted fuel rest)
      else if isPlain c then push c (readQuoted fuel rest)
      else none

/-- The rest of a string between single quotes. -/
def readLiteral : Reader (List Char)
  | [] => none
  | c :: rest =>
      if c = '\'' then some ([], rest) else if isPlain c then push c (readLiteral rest) else none

/-- The end of a string between three quotes each: up to two more quotes before the last three
belong to it. The number of quotes in a row is given. -/
def closeWith (quote : Char) (count : Nat) (cs : List Char) : List Char × List Char :=
  (List.replicate (min count 5 - 3) quote, cs.drop (min count 5))

/-- The text behind a backslash that ends a line: line breaks and spaces up to the next character
are passed over. -/
def continued? (cs : List Char) : Option (List Char) :=
  (newline? (skipSpaces cs)).map skipBreaks

/-- The rest of a string between three double quotes each. -/
def readQuotedLines : (fuel : Nat) → Reader (List Char)
  | 0, _ => none
  | _ + 1, [] => none
  | fuel + 1, c :: rest =>
      if c = '"' then
        let count := ((c :: rest).takeWhile (· == '"')).length
        if 3 ≤ count then some (closeWith '"' count (c :: rest))
        else push c (readQuotedLines fuel rest)
      else if c = '\\' then
        match continued? rest with
        | some rest => readQuotedLines fuel rest
        | none =>
            match readEscape rest with
            | none => none
            | some (found, rest) => push found (readQuotedLines fuel rest)
      else if isPlain c then push c (readQuotedLines fuel rest)
      else
        match newline? (c :: rest) with
        | none => none
        | some rest => push '\n' (readQuotedLines fuel rest)

/-- The rest of a string between three single quotes each. -/
def readLiteralLines : (fuel : Nat) → Reader (List Char)
  | 0, _ => none
  | _ + 1, [] => none
  | fuel + 1, c :: rest =>
      if c = '\'' then
        let count := ((c :: rest).takeWhile (· == '\'')).length
        if 3 ≤ count then some (closeWith '\'' count (c :: rest))
        else push c (readLiteralLines fuel rest)
      else if isPlain c then push c (readLiteralLines fuel rest)
      else
        match newline? (c :: rest) with
        | none => none
        | some rest => push '\n' (readLiteralLines fuel rest)

/-- The text behind a line break at the front, if there is one. -/
def skipNewline (cs : List Char) : List Char := (newline? cs).getD cs

/-- A string in any of its four forms. -/
def readString : Reader String := fun cs =>
  let read :=
    match cs with
    | '"' :: '"' :: '"' :: rest => readQuotedLines cs.length (skipNewline rest)
    | '"' :: rest => readQuoted cs.length rest
    | '\'' :: '\'' :: '\'' :: rest => readLiteralLines cs.length (skipNewline rest)
    | '\'' :: rest => readLiteral rest
    | _ => none
  read.map fun found => (String.ofList found.1, found.2)

/-- Whether a character may stand in a key without quotes. -/
def isBare (c : Char) : Bool := c.isAlphanum || c == '-' || c == '_'

/-- One part of a key. -/
def readKeyPart : Reader String := fun cs =>
  match cs with
  | '"' :: rest => (readQuoted cs.length rest).map fun found => (String.ofList found.1, found.2)
  | '\'' :: rest => (readLiteral rest).map fun found => (String.ofList found.1, found.2)
  | _ =>
      let bare := cs.takeWhile isBare
      if bare.isEmpty then none else some (String.ofList bare, cs.drop bare.length)

/-- The parts of a key between dots, in front of the last part. -/
def readKeyParts : (fuel : Nat) → Reader (List String × String)
  | 0, _ => none
  | fuel + 1, cs =>
      match readKeyPart (skipSpaces cs) with
      | none => none
      | some (part, rest) =>
          match skipSpaces rest with
          | '.' :: rest =>
              (readKeyParts fuel rest).map fun found => ((part :: found.1.1, found.1.2), found.2)
          | rest => some (([], part), rest)

/-- The number of levels that keys and values must stay below. -/
def depthLimit : Nat := 80

/-- A key: the parts that lead to a table, and the part in that table. -/
def readKey : Reader (List String × String) := fun cs =>
  (readKeyParts (cs.length + 1) cs).filter fun found => found.1.1.length + 1 < depthLimit

end SessionKeeper.Toml
