import Linewise.Regex.Basic

namespace Linewise

/-- What the letters `i`, `m`, `s`, `U`, `u`, `R` and `x` change in a pattern: letters stand for
their other case too, line ends count where ends of the text do, the dot stands for line ends,
repetitions swap what they prefer, classes mean all of Unicode, carriage returns end lines, and
blanks and remarks do not count. -/
inductive Flag where
  | anyCase
  | manyLines
  | dotAll
  | swapGreed
  | unicode
  | returns
  | spaced
  deriving DecidableEq, Repr

/-- The flags that are turned on and off, in the order in which they are written. -/
abbrev FlagChange := List (Flag × Bool)

/-- A character of a pattern, and whether it is written as a byte, by two hexadecimal digits. -/
structure WrittenChar where
  char : Char
  asByte : Bool

inductive LetterClass where
  | digit
  | space
  | word
  deriving DecidableEq, Repr

inductive SetName where
  | plain (name : List Char)
  | value (property value : List Char)

inductive SetOperator where
  | intersection
  | difference
  | exclusive
  deriving DecidableEq, Repr

inductive ClassForm where
  | empty
  | char (c : WrittenChar)
  | range (first last : WrittenChar)
  | letterClass (which : LetterClass) (negated : Bool)
  | named (name : SetName) (negated : Bool)
  | asciiSet (set : CharSet) (negated : Bool)
  | bracketed (negated : Bool) (content : ClassForm)
  /-- At least two items, the last one first. -/
  | union (items : List ClassForm)
  | operation (operator : SetOperator) (left right : ClassForm)

inductive WrittenLook where
  | caret
  | dollar
  | textStart
  | textEnd
  | word (edge : WordEdge)

/-- What a pattern says, before it is known under which flags its parts are read. Rows and choices
have at least two items. -/
inductive Form where
  | empty
  | flags (change : FlagChange)
  | char (c : WrittenChar)
  | dot
  | look (condition : WrittenLook)
  | letterClass (which : LetterClass) (negated : Bool)
  | named (name : SetName) (negated : Bool)
  | bracketed (negated : Bool) (content : ClassForm)
  | repetition (body : Form) (least : Nat) (most? : Option Nat) (greedy : Bool)
  /-- A part in parentheses. It is apart from what is around it, unless flags may be given for
  it. -/
  | group (apart : Bool) (change : FlagChange) (body : Form)
  | row (items : List Form)
  | choice (items : List Form)

namespace ClassForm

def ofItems : List ClassForm → ClassForm
  | [] => empty
  | [item] => item
  | items => union items

mutual

def depth : ClassForm → Nat
  | empty | char _ | range _ _ | letterClass _ _ | named _ _ | asciiSet _ _ => 0
  | bracketed _ content => content.depth + 1
  | union items => maxDepth items + 1
  | operation _ left right => max left.depth right.depth + 1

def maxDepth : List ClassForm → Nat
  | [] => 0
  | item :: items => max item.depth (maxDepth items)

end

end ClassForm

namespace Form

def ofRow : List Form → Form
  | [] => empty
  | [item] => item
  | items => row items

def ofChoice : List Form → Form
  | [] => empty
  | [item] => item
  | items => choice items

def canRepeat : Form → Bool
  | empty | flags _ => false
  | _ => true

mutual

def depth : Form → Nat
  | empty | flags _ | char _ | dot | look _ | letterClass _ _ | named _ _ => 0
  | bracketed _ content => content.depth + 1
  | repetition body _ _ _ => body.depth + 1
  | group _ _ body => body.depth + 1
  | row items => maxDepth items + 1
  | choice items => maxDepth items + 1

def maxDepth : List Form → Nat
  | [] => 0
  | item :: items => max item.depth (maxDepth items)

end

def depthLimit : Nat := 250

end Form

end Linewise
