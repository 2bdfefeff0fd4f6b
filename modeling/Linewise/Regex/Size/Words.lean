import Linewise.Regex.Size.Machine

namespace Linewise.Machine

def withoutRepeatedEnd : List (List UInt8) → List (List UInt8)
  | [] :: [] :: words => withoutRepeatedEnd ([] :: words)
  | words => words

/-- Words, cut behind those that are empty. What comes behind a word that has ended is less
preferred than its end. -/
def untilEnded : List (List UInt8) → List (List (List UInt8))
  | [] => [[]]
  | [] :: words => [] :: untilEnded words
  | word :: words =>
    match untilEnded words with
    | [] => [[word]]
    | chunk :: chunks => (word :: chunk) :: chunks

/-- The machine with the tree of words with less than `depth` bytes. A state goes on to each chunk
of the words, and to the end where a word ends; a chunk has a state that reads its first bytes. -/
def addTree : (depth : Nat) → List (List UInt8) → Machine → Machine
  | 0, _, machine => machine
  | depth + 1, words, machine =>
    if words.all List.isEmpty then machine
    else
      let chunks := untilEnded (withoutRepeatedEnd words)
      let links := chunks.length - 1 + (chunks.filter (!·.isEmpty)).length
      chunks.foldl (fun machine chunk ↦
        let heads := (chunk.filterMap List.head?).eraseDups
        heads.foldl (fun machine head ↦
            addTree depth ((chunk.filter (·.head? == some head)).map List.tail) machine)
          (match heads with
            | [] => machine
            | [_] => machine.addStates 1
            | heads => (machine.addStates 1).addArrows heads.length))
        ((machine.addStates 1).addLinks links)

def addWords (words : List (List UInt8)) (machine : Machine) : Machine :=
  addTree ((words.map List.length).max?.getD 0 + 1) words (machine.addStates 1)

end Linewise.Machine
