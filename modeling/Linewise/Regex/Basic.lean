import Linewise.Unicode.CharSet

namespace Linewise

inductive WordEdge where
  | boundary
  | notBoundary
  | start
  | stop
  | startHalf
  | stopHalf
  deriving DecidableEq, Repr

inductive Look where
  | textStart
  | textEnd
  /-- The start of the text, or behind a line feed. With carriage returns, behind any line end. -/
  | lineStart (returns : Bool)
  /-- The end of the text, or before a line feed. With carriage returns, before any line end. -/
  | lineEnd (returns : Bool)
  | word (edge : WordEdge) (characters : CharSet)
  deriving DecidableEq

namespace Look

def atEdge (before after : Bool) : WordEdge → Bool
  | .boundary => before != after
  | .notBoundary => before == after
  | .start => !before && after
  | .stop => before && !after
  | .startHalf => !before
  | .stopHalf => !after

/-- The condition holds between these two characters, which are missing at the ends of the text.
A carriage return and the line feed behind it are one line end. -/
def holds (previous? next? : Option Char) : Look → Bool
  | textStart => previous?.isNone
  | textEnd => next?.isNone
  | lineStart returns =>
    previous?.isNone || previous? == some '\n' ||
      (returns && previous? == some '\r' && next? != some '\n')
  | lineEnd returns =>
    next?.isNone || (next? == some '\n' && !(returns && previous? == some '\r')) ||
      (returns && next? == some '\r')
  | word edge characters =>
    atEdge (previous?.any characters.contains) (next?.any characters.contains) edge

end Look

/-- Of two alternatives the first is preferred, and a greedy repetition prefers to go on. A group
matches what its body does, but is the same as no other part. -/
inductive Regex where
  | empty
  | char (set : CharSet)
  | look (condition : Look)
  | seq (first second : Regex)
  | alt (first second : Regex)
  | times (body : Regex) (least : Nat) (most? : Option Nat) (greedy : Bool)
  | group (body : Regex)
  deriving DecidableEq

namespace Regex

def items : Regex → List Regex
  | empty => []
  | seq first second => first.items ++ second.items
  | regex => [regex]

def row : List Regex → Regex
  | [] => empty
  | [regex] => regex
  | regex :: regexes => seq regex (row regexes)

def sequence (regexes : List Regex) : Regex := row (regexes.flatMap items)

def alternatives : Regex → List Regex
  | alt first second => first.alternatives ++ second.alternatives
  | regex => [regex]

def set? : Regex → Option CharSet
  | char set => some set
  | _ => none

def ofSet (set : CharSet) : Regex := char (set.intersect .characters)

def oneOf : List Regex → Regex
  | [] => empty
  | [regex] => regex
  | regex :: regexes => alt regex (oneOf regexes)

/-- One of the expressions. Characters are put together as one set, and so are sets, but not the
ones with the others. -/
def plainChoice (regexes : List Regex) : Regex :=
  match regexes.mapM set? with
  | some (set :: sets) =>
    if sets.all (·.isSingle == set.isSingle) then char (sets.foldl .union set) else oneOf regexes
  | _ => oneOf regexes

def groupFree : Regex → Bool
  | empty | char _ | look _ => true
  | seq first second | alt first second => first.groupFree && second.groupFree
  | times body _ _ _ => body.groupFree
  | group _ => false

def isSingle : Regex → Bool
  | char set => set.isSingle
  | _ => false

/-- The items of an expression, with single characters that follow each other kept together. -/
def pieces (regex : Regex) : List (List Regex) :=
  regex.items.splitBy fun first second ↦ first.isSingle && second.isSingle

def commonStart : List (List Regex) → List (List Regex) → List (List Regex)
  | x :: xs, y :: ys => if x = y && x.all groupFree then x :: commonStart xs ys else []
  | _, _ => []

def sharedStart : List Regex → List Regex
  | first :: second :: others =>
    let rows := (second :: others).map pieces
    if (first.pieces :: rows).all (2 ≤ ·.length) then (rows.foldl commonStart first.pieces).flatten
    else []
  | _ => []

/-- One of the expressions, the first ones preferred. What all of them begin with is matched once,
and one of them is chosen behind it. -/
def choice (regexes : List Regex) : Regex :=
  let branches := regexes.flatMap alternatives
  let start := sharedStart branches
  if start.isEmpty then plainChoice branches
  else
    let rests := branches.map fun branch ↦ row (branch.items.drop start.length)
    sequence (start ++ [plainChoice (rests.flatMap alternatives)])

def matchesNoCharacter : Regex → Bool
  | empty | look _ => true
  | char _ => false
  | seq first second | alt first second => first.matchesNoCharacter && second.matchesNoCharacter
  | times body _ _ _ | group body => body.matchesNoCharacter

/-- The number of characters in the shortest match of the expression, unless a part that it cannot
do without matches nothing. -/
def leastLength? : Regex → Option Nat
  | empty | look _ => some 0
  | char set => if set.isEmpty then none else some 1
  | seq first second => do some ((← first.leastLength?) + (← second.leastLength?))
  | alt first second => do some (min (← first.leastLength?) (← second.leastLength?))
  | times body least _ _ => body.leastLength?.map (least * ·)
  | group body => body.leastLength?

def needsCharacter (regex : Regex) : Bool := regex.leastLength?.any (0 < ·)

/-- A repetition. Repeating what has no characters more than once says no more than saying it
once. -/
def repeated (body : Regex) (least : Nat) (most? : Option Nat) (greedy : Bool) : Regex :=
  let (least, most?) :=
    if body.matchesNoCharacter then (min least 1, some (min (most?.getD 1) 1))
    else (least, most?)
  if most? == some 0 then empty
  else if least == 1 && most? == some 1 then body
  else times body least most? greedy

end Regex

end Linewise
