import Linewise.Regex.Basic
import Linewise.Regex.Size.Words

namespace Linewise

inductive Direction where
  | forward
  | backward
  deriving DecidableEq, Repr

namespace Regex

/-- The bytes of the only text that the expression matches, if there is one and it is a row of
characters. -/
def word? (regex : Regex) : Option (List UInt8) := do
  let codes ← regex.items.mapM fun
    | char set => if set.isSingle then set.edges.head? else none
    | _ => none
  if codes.isEmpty then none
  else some (codes.flatMap fun code ↦ String.utf8EncodeChar (Char.ofNat code))

/-- The words of an expression that chooses between words, in the order in which their bytes are
read. -/
def words? (direction : Direction) (regex : Regex) : Option (List (List UInt8)) := do
  let words ← regex.alternatives.mapM word?
  match direction with
  | .forward => some words
  | .backward => some (words.map List.reverse)

def addSet (direction : Direction) (set : CharSet) (machine : Machine) : Machine :=
  let rows := set.ranges.flatMap fun (lo, hi) ↦ byteRows lo hi
  if set.isSingle then machine.addStates rows.flatten.length
  else if set.isAscii then (machine.addStates 2).addArrows rows.length
  else
    match direction with
    | .forward => machine.addForward rows
    | .backward => machine.addBackward rows

/-- The machine with what joins the branches of a choice, when the branch with this number has been
added. A state before them all and one behind them come with the second branch. -/
def addJoint (branch? : Option Nat) (machine : Machine) : Machine :=
  match branch? with
  | none => machine
  | some 1 => (machine.addStates 2).addLinks 1
  | some _ => machine.addLinks 1

/-- The machine with an expression added. `branch?` is its number if it is one of several to choose
from. -/
def grow (direction : Direction) : Regex → (branch? : Option Nat) → Machine → Machine
  | empty, branch?, machine => addJoint branch? (machine.addStates 1)
  | char set, branch?, machine => addJoint branch? (addSet direction set machine)
  | look _, branch?, machine => addJoint branch? (machine.addStates 1)
  | seq first second, branch?, machine =>
    addJoint branch? <|
      match direction with
      | .forward => second.grow direction none (first.grow direction none machine)
      | .backward => first.grow direction none (second.grow direction none machine)
  | alt first second, none, machine =>
    match words? direction (alt first second) with
    | some words => machine.addWords words
    | none =>
      second.grow direction (some first.alternatives.length) (first.grow direction (some 0) machine)
  | alt first second, some branch, machine =>
    second.grow direction (some (branch + first.alternatives.length))
      (first.grow direction (some branch) machine)
  | times body 0 (some 1) _, branch?, machine =>
    addJoint branch? (((body.grow direction none (machine.addStates 1)).addStates 1).addLinks 2)
  | times body 0 none _, branch?, machine =>
    addJoint branch? <|
      if body.needsCharacter then (body.grow direction none (machine.addStates 1)).addLinks 2
      else ((body.grow direction none machine).addStates 3).addLinks 4
  | times body least none _, branch?, machine =>
    addJoint branch? <|
      ((machine.growTimes (body.grow direction none) least).addStates 1).addLinks 2
  | times body least (some most) _, branch?, machine =>
    let needed :=
      if least = 0 then machine.addStates 1
      else machine.growTimes (body.grow direction none) least
    addJoint branch? <|
      if least = most then needed
      else
        (needed.addStates 1).growTimes
          (fun machine ↦ (body.grow direction none (machine.addStates 1)).addLinks 2) (most - least)
  | group body, branch?, machine =>
    addJoint branch? <|
      match direction with
      | .forward => (body.grow direction none (machine.addStates 1)).addStates 1
      | .backward => body.grow direction none machine

def isBoundToStart : Regex → Bool
  | look condition => condition = .textStart
  | seq first second =>
    first.isBoundToStart || (first.matchesNoCharacter && second.isBoundToStart)
  | alt first second => first.isBoundToStart && second.isBoundToStart
  | times body least _ _ => least != 0 && body.isBoundToStart
  | group body => body.isBoundToStart
  | empty | char _ => false

def isBoundToEnd : Regex → Bool
  | look condition => condition = .textEnd
  | seq first second => second.isBoundToEnd || (second.matchesNoCharacter && first.isBoundToEnd)
  | alt first second => first.isBoundToEnd && second.isBoundToEnd
  | times body least _ _ => least != 0 && body.isBoundToEnd
  | group body => body.isBoundToEnd
  | empty | char _ => false

/-- The machine for an expression. Unless a match has to begin where the machine does, there are
states that pass over what comes before it. -/
def machine (direction : Direction) (regex : Regex) : Machine :=
  let isBound := if direction = .forward then regex.isBoundToStart else regex.isBoundToEnd
  let before : Machine := if isBound then ⟨1, 0⟩ else ((⟨3, 0⟩ : Machine).addArrows 1).addLinks 2
  match direction with
  | .forward => (regex.grow direction none (before.addStates 1)).addStates 2
  | .backward => (regex.grow direction none before).addStates 1

/-- An expression is refused if it would take too much room as a machine that reads bytes, though it
is not run in that way here. There are two such machines: one reads forward and marks groups, the
other one reads backward and does not. -/
def isModest (regex : Regex) : Bool :=
  !(regex.machine .backward).isTooLarge && !(regex.machine .forward).isTooLarge

end Regex

end Linewise
