import Parley.Text.Classes

/-!
Text between quotes, as diagnostics show it: the quote in use and the backslash get a backslash in
front, tab, line feed, carriage return and NUL have short forms, and a character that would show
nothing, or only change the look of the one before it, is written as its code point.
-/

namespace Parley.Text

-- Whether a character cannot be seen on its own.
def isHidden (c : Char) : Bool :=
  isExtending c || isInvisible c

-- One character inside quotes.
def escaped (quote c : Char) : List Char :=
  if c = quote ∨ c = '\\' then ['\\', c]
  else if c = '\t' then ['\\', 't']
  else if c = '\n' then ['\\', 'n']
  else if c = '\r' then ['\\', 'r']
  else if c = '\x00' then ['\\', '0']
  else if isHidden c then ['\\', 'u', '\x7b'] ++ Nat.toDigits 16 c.toNat ++ ['\x7d']
  else [c]

-- A text in double quotes.
def quoted (text : String) : String :=
  String.ofList ('"' :: text.toList.flatMap (escaped '"') ++ ['"'])

-- A character in single quotes.
def quotedChar (c : Char) : String :=
  String.ofList ('\'' :: escaped '\'' c ++ ['\''])

end Parley.Text
