import SessionKeeper.Text.Unprintable

/-!
# Quoted text

A quoted text stands between double quotes. A backslash begins an escape: a letter for the common
controls, the character itself for the quote and the backslash, and the code point in hexadecimal
for every other character that a terminal would not show.
-/

namespace SessionKeeper.Text

/-- The value of a hexadecimal digit as a character, in lower case. -/
def hexDigit (n : Nat) : Char :=
  if n < 10 then Char.ofNat (48 + n) else Char.ofNat (87 + n)

/-- The hexadecimal digits of a number, without leading zeros. -/
def hexDigits (n : Nat) : List Char :=
  if n < 16 then [hexDigit n] else hexDigits (n / 16) ++ [hexDigit (n % 16)]
termination_by n
decreasing_by omega

/-- The form of one character inside quotes. -/
def escape (c : Char) : List Char :=
  if c = '\x00' then ['\\', '0']
  else if c = '\t' then ['\\', 't']
  else if c = '\n' then ['\\', 'n']
  else if c = '\r' then ['\\', 'r']
  else if c = '"' then ['\\', '"']
  else if c = '\\' then ['\\', '\\']
  else if Unprintable.contains c.toNat then
    ['\\', 'u', '\x7b'] ++ hexDigits c.toNat ++ ['\x7d']
  else [c]

/-- The characters of a text between quotes. -/
def quoteChars (cs : List Char) : List Char :=
  '"' :: (cs.flatMap escape ++ ['"'])

/-- The text between quotes. -/
def quote (s : String) : String :=
  String.ofList (quoteChars s.toList)

end SessionKeeper.Text
