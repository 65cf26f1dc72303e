import Switchboard.Log.Notice
import Switchboard.Text.Blank
import Switchboard.Text.Fields
import Switchboard.Text.Letters
import Switchboard.Text.Octets

/-!
# Filters of the log

A filter is a list of directives.  Each says up to which level the notices of some
targets are recorded, those that begin with the target it names.  Of all directives
that concern a notice the most particular one decides, and of equally particular
ones the last.
-/

namespace Switchboard

/-- The records that a directive concerns, apart from their target. -/
inductive Scope
  /-- All records. -/
  | all
  /-- The records with a field. -/
  | field (name : Text.Octets)
  /-- The records within a span.  No notice is within one. -/
  | span
  deriving DecidableEq

/-- Up to which level some notices are recorded. -/
structure Directive where
  /-- The beginning of the targets that it concerns; without one it concerns all. -/
  target? : Option Text.Octets
  /-- The records that it concerns. -/
  scope : Scope
  /-- The number of the most talkative level that is recorded; zero is none. -/
  limit : Nat

/-- Directives, the later ones over the earlier ones. -/
abbrev Filter := List Directive

/-- The number of a level, by its word in any case or by itself; `off` is zero. -/
def Level.limit? (source : Text.Octets) : Option Nat :=
  let chars := source.map fun octet => Char.ofNat octet.toNat
  match Text.unsigned? 6 chars with
  | some limit => some limit
  | none =>
      let word := String.ofList (chars.map Text.lowerAscii)
      if word = "off" then some 0 else (Level.ofWord? word).map Level.number

/-! ### Reading directives

The signs of a directive are looked for in its text without the blanks around it,
but its parts are taken from the same places of its text with them.
-/

/-- The octets of a directive. -/
structure Directive.Source where
  /-- Each octet that is looked at, beside the one that is taken at its place. -/
  pairs : List (UInt8 × UInt8)
  /-- What is taken behind the last of them. -/
  tail : Text.Octets

namespace Directive

/-- The octet of `=`. -/
def equals : UInt8 := 0x3D

/-- The octet of `[`. -/
def openBracket : UInt8 := 0x5B

/-- The octet of `]`. -/
def closeBracket : UInt8 := 0x5D

/-- The octet of an opening brace. -/
def openBrace : UInt8 := 0x7B

/-- The octet of a closing brace. -/
def closeBrace : UInt8 := 0x7D

/-- A directive's text as its source. -/
def Source.ofText (text : List Char) : Source :=
  let looked := Text.octets (String.ofList (Text.trim text))
  let taken := Text.octets (String.ofList text)
  ⟨looked.zip taken, taken.drop looked.length⟩

/-- The part before the first of some signs, and what begins with that sign. -/
def Source.upTo (source : Source) (signs : List UInt8) : Text.Octets × Source :=
  let (before, rest) := source.pairs.span fun (sign, _) => !signs.contains sign
  (before.map Prod.snd, ⟨rest, source.tail⟩)

/-- All that is taken. -/
def Source.taken (source : Source) : Text.Octets :=
  source.pairs.map Prod.snd ++ source.tail

/-- A directive that records everything of a level whose text is left out. -/
def ofLimit
    (target? : Option Text.Octets)
    (scope : Scope)
    (source : Text.Octets) : Option Directive :=
  if source.isEmpty then some ⟨target?, scope, Level.trace.number⟩
  else (Level.limit? source).map (⟨target?, scope, ·⟩)

/-- A directive whose brackets have been read: nothing or a level follows. -/
def ofEnd
    (target? : Option Text.Octets)
    (scope : Scope)
    (source : Source) : Option Directive :=
  match source.pairs with
  | [] => some ⟨target?, scope, Level.trace.number⟩
  | (sign, _) :: rest =>
      if sign = equals then ofLimit target? scope (Source.taken ⟨rest, source.tail⟩)
      else none

/-- The scope that brackets give, with the name of a span and a field. -/
def scopeOf (span field : Text.Octets) : Scope :=
  if span.isEmpty && !field.contains equals then .field field else .span

/-- A directive of which the brackets are read. -/
def ofBrackets (target? : Option Text.Octets) (source : Source) : Option Directive :=
  let (span, rest) := source.upTo [closeBracket, openBrace]
  match rest.pairs with
  | [] => none
  | (sign, _) :: inner =>
      if sign = closeBracket then
        ofEnd target? .span ⟨inner, rest.tail⟩
      else
        let (field, after) := Source.upTo ⟨inner, rest.tail⟩ [closeBrace]
        match after.pairs with
        | _ :: (sign, _) :: rest =>
            if field.isEmpty ∨ sign ≠ closeBracket then none
            else ofEnd target? (scopeOf span field) ⟨rest, after.tail⟩
        | _ => none

/-- A directive without signs: a level, or else a target of which everything is
recorded. -/
def ofWord (source : Text.Octets) : Directive :=
  match Level.limit? source with
  | some limit => ⟨none, .all, limit⟩
  | none => ⟨some source, .all, Level.trace.number⟩

/-- Whether a directive may begin with a character. -/
def mayBegin (char : Char) : Bool :=
  char = '-' || char = ':' || char = '_' || Text.isLetter char

/-- The directive that a text describes. -/
def ofText? (text : List Char) : Option Directive :=
  let source := Source.ofText text
  match Text.trim text with
  | [] => none
  | '[' :: _ => ofBrackets none ⟨source.pairs.drop 1, source.tail⟩
  | first :: _ =>
      if mayBegin first then
        let (target, rest) := source.upTo [equals, openBracket]
        match rest.pairs with
        | [] => some (ofWord source.taken)
        | (sign, _) :: inner =>
            if sign = equals then
              ofLimit (some target) .all (Source.taken ⟨inner, rest.tail⟩)
            else
              ofBrackets (some target) ⟨inner, rest.tail⟩
      else
        none

/-- The name of the one field that every notice has. -/
def messageField : Text.Octets := Text.octets "message"

/-- Whether a directive concerns a notice. -/
def concerns (directive : Directive) (notice : Notice) : Bool :=
  directive.target?.all (fun target => target.isPrefixOf (Text.octets notice.target)) &&
    match directive.scope with
    | .all => true
    | .field name => name = messageField
    | .span => false

/-- How particular a directive is: first by its target's length, then by its field. -/
def weight (directive : Directive) : Nat :=
  2 * ((directive.target?.map fun target => target.length + 1).getD 0) +
    match directive.scope with
    | .field _ => 1
    | .all | .span => 0

end Directive

namespace Filter

/-- The filter that a text describes, one directive between two commas.  Without any
directive errors are recorded. -/
def ofText? (text : String) : Option Filter := do
  let parts := (Text.fields ',' text.toList).filter fun part => !part.isEmpty
  if parts.isEmpty then some [⟨none, .all, Level.error.number⟩]
  else parts.mapM Directive.ofText?

/-- The filter that records the program's own notices up to a level. -/
def upTo (level : Level) : Filter :=
  ["agentlink", "agentlink_connect"].map fun target =>
    ⟨some (Text.octets target), .all, level.number⟩

/-- The directive that decides about a notice. -/
def decisive? (filter : Filter) (notice : Notice) : Option Directive :=
  (filter.filter (·.concerns notice)).foldl
    (fun best? directive =>
      match best? with
      | none => some directive
      | some best => some (if best.weight ≤ directive.weight then directive else best))
    none

/-- Whether a notice is recorded. -/
def allows (filter : Filter) (notice : Notice) : Bool :=
  ((decisive? filter notice).map Directive.limit).any (notice.level.number ≤ ·)

end Filter
end Switchboard
