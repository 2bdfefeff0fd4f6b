import Linewise.Regex.Basic

namespace Linewise

inductive Instruction where
  | accept
  | char (set : CharSet)
  | look (condition : Look)
  | jump (target : Nat)
  /-- Goes on at both targets, the first one preferred. -/
  | fork (first second : Nat)

abbrev Program := Array Instruction

namespace Regex

def codeSize : Regex → Nat
  | empty => 0
  | char _ | look _ => 1
  | seq first second => first.codeSize + second.codeSize
  | alt first second => first.codeSize + second.codeSize + 2
  | times body least none _ =>
    if least = 0 then body.codeSize + 2 else least * body.codeSize + 1
  | times body least (some most) _ => max least most * body.codeSize + (most - least)
  | group body => body.codeSize

def forkTo (greedy : Bool) (on leave : Nat) : Instruction :=
  if greedy then .fork on leave else .fork leave on

def copies (code : Nat → List Instruction) (size : Nat) : Nat → Nat → List Instruction
  | 0, _ => []
  | count + 1, base => code base ++ copies code size count (base + size)

/-- `count` copies of a piece of code, before each of which the program may leave for the end of
them all. -/
def optionalCopies (greedy : Bool) (code : Nat → List Instruction) (size leave : Nat) :
    Nat → Nat → List Instruction
  | 0, _ => []
  | count + 1, base =>
    forkTo greedy (base + 1) leave :: code (base + 1) ++
      optionalCopies greedy code size leave count (base + 1 + size)

/-- The instructions of an expression, placed at `base`. They end by going on to the instruction
behind them, so programs of parts are put together by placing them in a row. -/
def code : Regex → Nat → List Instruction
  | empty, _ => []
  | char set, _ => [.char set]
  | look condition, _ => [.look condition]
  | seq first second, base => first.code base ++ second.code (base + first.codeSize)
  | alt first second, base =>
    let other := base + 1 + first.codeSize + 1
    .fork (base + 1) other :: first.code (base + 1) ++
      .jump (other + second.codeSize) :: second.code other
  | times body least none greedy, base =>
    let size := body.codeSize
    if least = 0 ∧ body.needsCharacter then
      forkTo greedy (base + 1) (base + 1 + size + 1) :: body.code (base + 1) ++ [.jump base]
    else if least = 0 then
      let back := base + 1 + size
      forkTo greedy (base + 1) (back + 1) :: body.code (base + 1) ++
        [forkTo greedy (base + 1) (back + 1)]
    else
      let back := base + least * size
      copies body.code size least base ++ [forkTo greedy (back - size) (back + 1)]
  | times body least (some most) greedy, base =>
    let size := body.codeSize
    let options := base + least * size
    copies body.code size least base ++
      optionalCopies greedy body.code size (options + (most - least) * (size + 1)) (most - least)
        options
  | group body, base => body.code base

def program (regex : Regex) : Program :=
  (regex.code 0 ++ [Instruction.accept]).toArray

end Regex

end Linewise
