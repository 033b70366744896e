import FieldImage.Text.Hidden
import FieldImage.Text.Numeral

/-! Texts in double quotes, for messages that name a path: quotes and backslashes are escaped, line
ends and tabs by letter, and characters that do not show by their code point. -/

namespace FieldImage.Text

def quotedChar (c : Char) : List Char :=
  if c == '"' then ['\\', '"']
  else if c == '\\' then ['\\', '\\']
  else if c == '\n' then ['\\', 'n']
  else if c == '\r' then ['\\', 'r']
  else if c == '\t' then ['\\', 't']
  else if c.toNat == 0 then ['\\', '0']
  else if isHidden c then
    ['\\', 'u', '\x7b'] ++ digits 16 0 c.toNat [] ++ ['\x7d']
  else [c]

def quoted (s : String) : String :=
  "\"" ++ String.ofList (s.toList.flatMap quotedChar) ++ "\""

end FieldImage.Text
