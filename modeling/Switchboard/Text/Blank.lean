/-!
# Blank characters

The blank characters are those of the Unicode property White_Space; trimming
removes them from both ends of a text.
-/

namespace Switchboard
namespace Text

/-- A character of the property White_Space. -/
def isBlank (char : Char) : Bool :=
  let code := char.toNat
  (9 ≤ code && code ≤ 13) || code == 0x20 || code == 0x85 || code == 0xA0 ||
    code == 0x1680 || (0x2000 ≤ code && code ≤ 0x200A) || code == 0x2028 ||
    code == 0x2029 || code == 0x202F || code == 0x205F || code == 0x3000

/-- The characters without the blanks at both ends. -/
def trim (chars : List Char) : List Char :=
  ((chars.dropWhile isBlank).reverse.dropWhile isBlank).reverse

/-- Whether a text has nothing but blanks. -/
def allBlank (text : String) : Bool :=
  text.toList.all isBlank

/-- An ASCII capital as its small letter, any other character as it is. -/
def lowerAscii (char : Char) : Char :=
  if 'A' ≤ char ∧ char ≤ 'Z' then Char.ofNat (char.toNat + 32) else char

end Text
end Switchboard
