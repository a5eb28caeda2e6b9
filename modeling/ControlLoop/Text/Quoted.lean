import ControlLoop.Text.Hidden

/-!
# Quoted text

A text between double quotes in which every character can be seen: quotes and backslashes follow a
backslash, four control characters have letters, and the other characters that do not show are
written by their number.
-/

namespace ControlLoop.Text

def quotedCharacter (c : Char) : List Char :=
  if c == '"' then ['\\', '"']
  else if c == '\\' then ['\\', '\\']
  else if c == '\n' then ['\\', 'n']
  else if c == '\r' then ['\\', 'r']
  else if c == '\t' then ['\\', 't']
  else if c == '\x00' then ['\\', '0']
  else if isHidden c then "\\u\x7b".toList ++ Nat.toDigits 16 c.toNat ++ ['\x7d']
  else [c]

def quoted (s : String) : String :=
  String.ofList ('"' :: s.toList.flatMap quotedCharacter ++ ['"'])

/-- Quoted texts in brackets. -/
def quotedList (items : List String) : String :=
  "[" ++ ", ".intercalate (items.map quoted) ++ "]"

/-- Quoted texts in braces. -/
def quotedSet (items : List String) : String :=
  "\x7b" ++ ", ".intercalate (items.map quoted) ++ "\x7d"

end ControlLoop.Text
