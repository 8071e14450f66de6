import SessionKeeper.Toml.Text
import SessionKeeper.Toml.Value

/-!
# Numbers and dates of TOML

A whole number is decimal, or has a base in front; single underscores may stand between digits, and
the number must fit in 64 bits. Of other numbers only the form is checked, and that they are not
too great. A date may be followed by a time and an offset; a time may stand alone.
-/

namespace SessionKeeper.Toml

/-- Whether a character is a decimal digit. -/
def isDecimal (c : Char) : Bool := '0' ≤ c && c ≤ '9'

/-- Digits behind the first one; an underscore counts if a digit follows it. -/
def moreDigits (isDigit : Char → Bool) : List Char → List Char × List Char
  | [] => ([], [])
  | c :: rest =>
      if isDigit c then
        let (digits, behind) := moreDigits isDigit rest
        (c :: digits, behind)
      else if c = '_' then
        match rest with
        | d :: rest =>
            if isDigit d then
              let (digits, behind) := moreDigits isDigit rest
              (d :: digits, behind)
            else ([], c :: d :: rest)
        | [] => ([], [c])
      else ([], c :: rest)

/-- One or more digits. -/
def readDigits (isDigit : Char → Bool) : Reader (List Char) := fun cs =>
  match cs with
  | c :: rest =>
      if isDigit c then
        let (digits, behind) := moreDigits isDigit rest
        some (c :: digits, behind)
      else none
  | [] => none

/-- The number that digits of a base spell. -/
def numberOf (base : Nat) (digits : List Char) : Nat :=
  digits.foldl (fun n c => n * base + (hexValue? c).getD 0) 0

/-- Whether a sign is there and negative, and the text behind it. -/
def readSign : List Char → Bool × List Char
  | '+' :: rest => (false, rest)
  | '-' :: rest => (true, rest)
  | cs => (false, cs)

/-- Decimal digits without a superfluous zero in front. -/
def readWhole : Reader (List Char) := fun cs =>
  match cs with
  | '0' :: rest => some (['0'], rest)
  | _ => readDigits isDecimal cs

/-- A whole number that fits in 64 bits. -/
def fitted (n : Int) (rest : List Char) : Option (Value × List Char) :=
  if Int64.minValue.toInt ≤ n ∧ n ≤ Int64.maxValue.toInt then some (.integer n, rest) else none

/-- A whole number with the given base and digits. -/
def readBased (base : Nat) (isDigit : Char → Bool) : Reader Value := fun cs =>
  match readDigits isDigit cs with
  | none => none
  | some (digits, rest) => fitted (numberOf base digits) rest

/-- A whole number. -/
def readInteger : Reader Value := fun cs =>
  match cs with
  | '0' :: 'x' :: rest => readBased 16 (fun c => (hexValue? c).isSome) rest
  | '0' :: 'o' :: rest => readBased 8 (fun c => '0' ≤ c && c ≤ '7') rest
  | '0' :: 'b' :: rest => readBased 2 (fun c => c == '0' || c == '1') rest
  | _ =>
      let (negative, rest) := readSign cs
      match readWhole rest with
      | none => none
      | some (digits, rest) =>
          let n : Int := numberOf 10 digits
          fitted (if negative then -n else n) rest

/-- Whether `n · 10 ^ exponent` is too great for a number of double precision. -/
def tooGreat (n : Nat) (exponent : Int) : Bool :=
  let bound := Nat.pow 2 1024 - Nat.pow 2 970
  let digits := (Nat.toDigits 10 n).length
  if n = 0 then false
  else if 400 < exponent then true
  else if 0 ≤ exponent then bound ≤ n * Nat.pow 10 exponent.toNat
  else if (digits : Int) + exponent ≤ 0 then false
  else bound * Nat.pow 10 (-exponent).toNat ≤ n

/-- The digits behind a decimal point; none without a point. -/
def readFraction (cs : List Char) : Option (List Char × List Char) :=
  match cs with
  | '.' :: rest => readDigits isDecimal rest
  | _ => some ([], cs)

/-- The exponent; zero without one. -/
def readExponent (cs : List Char) : Option (Int × List Char) :=
  match cs with
  | c :: rest =>
      if c = 'e' ∨ c = 'E' then
        let (negative, rest) := readSign rest
        match readDigits isDecimal rest with
        | none => none
        | some (digits, rest) =>
            let n : Int := numberOf 10 digits
            some (if negative then -n else n, rest)
      else some (0, cs)
  | [] => some (0, cs)

/-- The characters in front of the rest of a text. -/
def consumed (cs rest : List Char) : String :=
  String.ofList (cs.take (cs.length - rest.length))

/-- A number with a fraction or an exponent. -/
def readFloat : Reader Value := fun cs =>
  let (negative, unsigned) := readSign cs
  match unsigned with
  | 'i' :: 'n' :: 'f' :: rest => some (.float (consumed cs rest), rest)
  | 'n' :: 'a' :: 'n' :: rest => some (.float (consumed cs rest), rest)
  | _ =>
      match readWhole unsigned with
      | none => none
      | some (whole, behindWhole) =>
          match readFraction behindWhole with
          | none => none
          | some (fraction, behindFraction) =>
              match readExponent behindFraction with
              | none => none
              | some (exponent, rest) =>
                  if rest.length = behindWhole.length then none
                  else if !negative && tooGreat (numberOf 10 (whole ++ fraction))
                      (exponent - fraction.length) then none
                  else some (.float (consumed cs rest), rest)

/-- A number of exactly the given count of digits, within bounds. -/
def readField (count low high : Nat) : Reader Nat := fun cs =>
  let digits := cs.take count
  if digits.length = count ∧ digits.all isDecimal then
    let n := numberOf 10 digits
    if low ≤ n ∧ n ≤ high then some (n, cs.drop count) else none
  else none

/-- The text behind a character. -/
def skipChar (c : Char) : List Char → Option (List Char)
  | [] => none
  | d :: rest => if c = d then some rest else none

/-- The number of days of a month. -/
def daysIn (year month : Nat) : Nat :=
  if month = 2 then if year % 4 = 0 ∧ (year % 100 ≠ 0 ∨ year % 400 = 0) then 29 else 28
  else if [4, 6, 9, 11].contains month then 30
  else 31

/-- The text behind a date. -/
def skipDate (cs : List Char) : Option (List Char) := do
  let (year, rest) ← readField 4 0 9999 cs
  let (month, rest) ← readField 2 1 12 (← skipChar '-' rest)
  let (_, rest) ← readField 2 1 (daysIn year month) (← skipChar '-' rest)
  return rest

/-- The text behind the fraction of a second; without one nothing is passed over. -/
def skipFraction (cs : List Char) : Option (List Char) :=
  match cs with
  | '.' :: rest =>
      let digits := rest.takeWhile isDecimal
      if digits.isEmpty then none else some (rest.drop digits.length)
  | _ => some cs

/-- The text behind hours and minutes. -/
def skipClock (cs : List Char) : Option (List Char) := do
  let (_, rest) ← readField 2 0 23 cs
  let (_, rest) ← readField 2 0 59 (← skipChar ':' rest)
  return rest

/-- The text behind a time of the day. -/
def skipTime (cs : List Char) : Option (List Char) := do
  let rest ← skipClock cs
  let (_, rest) ← readField 2 0 60 (← skipChar ':' rest)
  skipFraction rest

/-- The text behind an offset; without one nothing is passed over. -/
def skipOffset (cs : List Char) : Option (List Char) :=
  match cs with
  | c :: rest =>
      if c = 'Z' ∨ c = 'z' then some rest
      else if c = '+' ∨ c = '-' then skipClock rest
      else some cs
  | [] => some cs

/-- The text behind the time and the offset that may follow a date. Behind a blank there need be
no time. -/
def skipTimeOfDate (cs : List Char) : Option (List Char) :=
  match cs with
  | c :: rest =>
      if c = 'T' ∨ c = 't' ∨ c = ' ' then
        if (readField 2 0 23 rest).any fun found => found.2.head? = some ':' then
          (skipTime rest).bind skipOffset
        else some cs
      else some cs
  | [] => some cs

/-- A date, a date with a time, or a time. -/
def readDatetime : Reader Value := fun cs =>
  let behind :=
    match skipDate cs with
    | some rest => skipTimeOfDate rest
    | none => skipTime cs
  behind.map fun rest => (.datetime (consumed cs rest), rest)

/-- A number or a date. -/
def readNumber : Reader Value := fun cs =>
  (readDatetime cs).or ((readFloat cs).or (readInteger cs))

end SessionKeeper.Toml
