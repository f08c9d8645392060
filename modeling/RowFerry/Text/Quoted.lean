import RowFerry.Unicode.Unprintable

/-!
Names as messages show them: between double quotes, with a backslash before what would mislead the
reader and the number of the character in place of what would not show.
-/

namespace RowFerry.Text

/-- How a quoted text spells one character. -/
def spelled (c : Char) : List Char :=
  if c = '\x00' then ['\\', '0']
  else if c = '\t' then ['\\', 't']
  else if c = '\n' then ['\\', 'n']
  else if c = '\r' then ['\\', 'r']
  else if c = '"' then ['\\', '"']
  else if c = '\\' then ['\\', '\\']
  else if Unicode.isUnprintable c then
    ['\\', 'u', '\x7b'] ++ Nat.toDigits 16 c.toNat ++ ['\x7d']
  else [c]

/-- A text between double quotes, every character spelled so that it shows. -/
def quoted (text : String) : String :=
  String.ofList ('"' :: text.toList.flatMap spelled ++ ['"'])

end RowFerry.Text
