import Switchboard.Text.Hidden

/-!
# Quoted texts

A text is shown between double quotes.  Quotes and backslashes are marked by a
backslash, four controls have letters of their own, and hidden characters are
shown by their number.
-/

namespace Switchboard
namespace Text

/-- A number in hexadecimal digits, with small letters. -/
def hex (number : Nat) : List Char :=
  Nat.toDigits 16 number

/-- The characters that show one character between quotes. -/
def quotedChar (char : Char) : List Char :=
  if char = '"' then ['\\', '"']
  else if char = '\\' then ['\\', '\\']
  else if char = '\t' then ['\\', 't']
  else if char = '\n' then ['\\', 'n']
  else if char = '\r' then ['\\', 'r']
  else if char.toNat = 0 then ['\\', '0']
  else if isHidden char then
    ['\\', 'u', Char.ofNat 0x7B] ++ hex char.toNat ++ [Char.ofNat 0x7D]
  else [char]

/-- A text between double quotes. -/
def quoted (text : String) : String :=
  String.ofList ('"' :: (text.toList.flatMap quotedChar ++ ['"']))

end Text
end Switchboard
