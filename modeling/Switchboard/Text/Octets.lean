/-!
# Texts and their octets

Files, paths, arguments and metadata values are sequences of octets, and some of
them are texts in UTF-8.  Decoding reads the octets from left to right; a part
that cannot be continued to a character is one flaw, and the octet after it is
read afresh.
-/

namespace Switchboard
namespace Text

/-- The octets of a file, a path, an argument or a metadata value. -/
abbrev Octets := List UInt8

/-- The UTF-8 octets of a text. -/
def octets (text : String) : Octets :=
  text.toList.flatMap String.utf8EncodeChar

/-- A character whose first octets have been read. -/
structure Unfinished where
  /-- The bits read so far. -/
  bits : Nat
  /-- How many octets are still owed after the next one. -/
  owed : Nat
  /-- The least octet that may come next. -/
  low : UInt8
  /-- The greatest octet that may come next. -/
  high : UInt8

/-- What an octet between two characters begins. -/
inductive Beginning
  | character (char : Char)
  | sequence (unfinished : Unfinished)
  | flaw

/-- The meaning of an octet that stands between two characters. -/
def beginning (octet : UInt8) : Beginning :=
  if octet < 0x80 then
    .character (Char.ofNat octet.toNat)
  else if octet < 0xC2 then
    .flaw
  else if octet < 0xE0 then
    .sequence ⟨octet.toNat - 0xC0, 0, 0x80, 0xBF⟩
  else if octet < 0xF0 then
    .sequence
      ⟨octet.toNat - 0xE0, 1,
        if octet = 0xE0 then 0xA0 else 0x80,
        if octet = 0xED then 0x9F else 0xBF⟩
  else if octet < 0xF5 then
    .sequence
      ⟨octet.toNat - 0xF0, 2,
        if octet = 0xF0 then 0x90 else 0x80,
        if octet = 0xF4 then 0x8F else 0xBF⟩
  else
    .flaw

/-- The characters and flaws (`none`) of octets, after an unfinished character. -/
def scan : Option Unfinished → Octets → List (Option Char)
  | none, [] => []
  | some _, [] => [none]
  | none, octet :: rest =>
      match beginning octet with
      | .character char => some char :: scan none rest
      | .sequence unfinished => scan (some unfinished) rest
      | .flaw => none :: scan none rest
  | some unfinished, octet :: rest =>
      if unfinished.low ≤ octet ∧ octet ≤ unfinished.high then
        let bits := unfinished.bits * 64 + (octet.toNat - 0x80)
        match unfinished.owed with
        | 0 => some (Char.ofNat bits) :: scan none rest
        | owed + 1 => scan (some ⟨bits, owed, 0x80, 0xBF⟩) rest
      else
        match beginning octet with
        | .character char => none :: some char :: scan none rest
        | .sequence next => none :: scan (some next) rest
        | .flaw => none :: none :: scan none rest

/-- The text that octets encode, if they have no flaw. -/
def decode? (source : Octets) : Option String :=
  ((scan none source).mapM id).map String.ofList

/-- The text that octets show, each flaw being shown as U+FFFD. -/
def decodeLossy (source : Octets) : String :=
  String.ofList ((scan none source).map (·.getD (Char.ofNat 0xFFFD)))

/-- The number of octets of a character list. -/
def width (chars : List Char) : Nat :=
  chars.foldr (fun char octets => char.utf8Size + octets) 0

end Text
end Switchboard
