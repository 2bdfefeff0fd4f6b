import Linewise.Regex.Form
import Linewise.Unicode.CaseFolding
import Linewise.Unicode.Property

namespace Linewise

def SetName.set? : SetName → Option CharSet
  | .plain name => namedSet? name
  | .value property wanted => propertySet? property wanted

def SetOperator.apply : SetOperator → CharSet → CharSet → CharSet
  | .intersection => .intersect
  | .difference => .difference
  | .exclusive => .exclusive

namespace Regex

structure Flags where
  anyCase : Bool
  manyLines : Bool
  dotAll : Bool
  swapGreed : Bool
  unicode : Bool
  returns : Bool

namespace Flags

def initial : Flags := ⟨false, false, false, false, true, false⟩

def set (flags : Flags) (flag : Flag) (on : Bool) : Flags :=
  match flag with
  | .anyCase => { flags with anyCase := on }
  | .manyLines => { flags with manyLines := on }
  | .dotAll => { flags with dotAll := on }
  | .swapGreed => { flags with swapGreed := on }
  | .unicode => { flags with unicode := on }
  | .returns => { flags with returns := on }
  | .spaced => flags

def change (flags : Flags) (change : FlagChange) : Flags :=
  change.foldl (fun flags (flag, on) ↦ flags.set flag on) flags

def foldCase (flags : Flags) (set : CharSet) : CharSet :=
  if flags.anyCase then
    set.closeUnder (if flags.unicode then caseOrbits else asciiCaseOrbits)
  else set

/-- The set or its complement. Without `u` only sets within ASCII have a meaning. -/
def negateIf (flags : Flags) (negated : Bool) (set : CharSet) : Option CharSet :=
  let set := if negated then set.complement else set
  if flags.unicode || set.isAscii then some set else none

def wordSet (flags : Flags) : CharSet :=
  if flags.unicode then wordCharacter else .ofTable ["30-39 41-5a 5f 61-7a"]

end Flags

def letterClassSet (flags : Flags) (which : LetterClass) (negated : Bool) : Option CharSet :=
  flags.negateIf negated <|
    match which with
    | .digit => if flags.unicode then Category.decimalNumber else .ofTable ["30-39"]
    | .space => if flags.unicode then blankSet else .ofTable ["9-d 20"]
    | .word => flags.wordSet

def namedClassSet (flags : Flags) (name : SetName) (negated : Bool) : Option CharSet := do
  if flags.unicode then
    let set ← name.set?
    flags.negateIf negated (flags.foldCase set)
  else none

def classCode (flags : Flags) (c : WrittenChar) : Option Nat :=
  if flags.unicode || c.char.toNat < 0x80 then some c.char.toNat else none

mutual

def classSet (flags : Flags) : ClassForm → Option CharSet
  | .empty => some .empty
  | .char c => do
    let code ← classCode flags c
    some (.range code code)
  | .range first last => do some (.range (← classCode flags first) (← classCode flags last))
  | .letterClass which negated => letterClassSet flags which negated
  | .named name negated => namedClassSet flags name negated
  | .asciiSet set negated => flags.negateIf negated (flags.foldCase set)
  | .bracketed negated content => do
    flags.negateIf negated (flags.foldCase (← classSet flags content))
  | .union items => unionSet flags items
  | .operation operator left right => do
    let left ← classSet flags left
    let right ← classSet flags right
    some (operator.apply (flags.foldCase left) (flags.foldCase right))

def unionSet (flags : Flags) : List ClassForm → Option CharSet
  | [] => some .empty
  | item :: items => do
    let rest ← unionSet flags items
    some (rest.union (← classSet flags item))

end

/-- Every character but line ends, or every character at all with `s`. -/
def dotSet (flags : Flags) : Option CharSet :=
  if !flags.unicode then none
  else if flags.dotAll then some .all
  else if flags.returns then some (CharSet.complement (.ofRanges [(0xa, 0xa), (0xd, 0xd)]))
  else some (CharSet.complement (.single '\n'))

def lookOf (flags : Flags) : WrittenLook → Look
  | .caret => if flags.manyLines then .lineStart flags.returns else .textStart
  | .dollar => if flags.manyLines then .lineEnd flags.returns else .textEnd
  | .textStart => .textStart
  | .textEnd => .textEnd
  | .word edge => .word edge flags.wordSet

mutual

/-- The expression that a form means, and the flags behind it. They hold from where they are written
to the end of the group. A form has no meaning if it could match part of a character, or if it names
a set that there is not. -/
def meaning (flags : Flags) : Form → Option (Regex × Flags)
  | .empty => some (.empty, flags)
  | .flags change => some (.empty, flags.change change)
  | .char c =>
    if !flags.unicode && c.asByte && c.char.toNat ≥ 0x80 then none
    else some (ofSet (flags.foldCase (.single c.char)), flags)
  | .dot => (dotSet flags).map fun set ↦ (ofSet set, flags)
  | .look condition => some (.look (lookOf flags condition), flags)
  | .letterClass which negated =>
    (letterClassSet flags which negated).map fun set ↦ (ofSet set, flags)
  | .named name negated => (namedClassSet flags name negated).map fun set ↦ (ofSet set, flags)
  | .bracketed negated content => do
    let set ← flags.negateIf negated (flags.foldCase (← classSet flags content))
    some (ofSet set, flags)
  | .repetition body least most? greedy => do
    let (regex, flags) ← meaning flags body
    some (repeated regex least most? (greedy != flags.swapGreed), flags)
  | .group apart change body => do
    let (regex, _) ← meaning (flags.change change) body
    some (if apart then group regex else regex, flags)
  | .row items => do
    let (regexes, flags) ← meanings flags items
    some (sequence regexes, flags)
  | .choice items => do
    let (regexes, flags) ← meanings flags items
    some (choice regexes, flags)

def meanings (flags : Flags) : List Form → Option (List Regex × Flags)
  | [] => some ([], flags)
  | item :: items => do
    let (regex, flags) ← meaning flags item
    let (regexes, flags) ← meanings flags items
    some (regex :: regexes, flags)

end

end Regex

end Linewise
