import NoteMuse.Text.Printable

/-!
Texts between double quotes. A quote and a backslash are preceded by a backslash, the usual controls
have letters, and every other character that does not show by itself is written by its code point.
-/

namespace NoteMuse.Text

/-- The code point in hexadecimal, between braces. -/
def escapeCode (c : Char) : List Char :=
  ['\\', 'u', '\x7b'] ++ Nat.toDigits 16 c.toNat ++ ['\x7d']

/-- What stands for a character in a quoted text; the characters of `marked` get a backslash. -/
def escapeChar (marked : List Char) (c : Char) : List Char :=
  if c = '\n' then ['\\', 'n']
  else if c = '\r' then ['\\', 'r']
  else if c = '\t' then ['\\', 't']
  else if c = '\x00' then ['\\', '0']
  else if marked.contains c then ['\\', c]
  else if isPrintable c then [c]
  else escapeCode c

/-- A text between double quotes, with a backslash before the characters of `marked`. -/
def quotedWith (marked : List Char) (s : String) : String :=
  String.ofList ('"' :: s.toList.flatMap (escapeChar marked) ++ ['"'])

def quoted (s : String) : String := quotedWith ['"', '\\'] s

def quotedChar (c : Char) : String :=
  String.ofList ('\'' :: escapeChar ['\'', '\\'] c ++ ['\''])

end NoteMuse.Text
