import MediaFilter.Text.Hidden

/-!
Quoted text as it appears inside messages: quotes and backslashes take a backslash, the usual
control characters have letters, and the other characters that cannot be seen are shown by their
code, in hexadecimal between braces.
-/

namespace MediaFilter.Text

def quotedChar (c : Char) : List Char :=
  if c = '"' then ['\\', '"']
  else if c = '\\' then ['\\', '\\']
  else if c = '\n' then ['\\', 'n']
  else if c = '\r' then ['\\', 'r']
  else if c = '\t' then ['\\', 't']
  else if c.toNat = 0 then ['\\', '0']
  else if isHidden c then ['\\', 'u', '{'] ++ Nat.toDigits 16 c.toNat ++ ['}']
  else [c]

def quoted (s : String) : String :=
  String.ofList ('"' :: s.toList.flatMap quotedChar ++ ['"'])

end MediaFilter.Text
