import Linewise.Regex.Size.SlotTable
import Linewise.Text.ByteRanges

namespace Linewise

/-- The number of states that a machine has so far, and the bytes that they take in addition to
those that every state takes. -/
structure Machine where
  states : Nat
  extra : Nat

namespace Machine

def stateSize : Nat := 32

/-- The bytes that a state takes in addition for each byte range it reads, if it has to choose
between them. -/
def arrowSize : Nat := 8

def linkSize : Nat := 4

def bytes (machine : Machine) : Nat := stateSize * machine.states + machine.extra

def bytesLimit : Nat := 10 * 1024 * 1024

def isTooLarge (machine : Machine) : Bool := bytesLimit < machine.bytes

def addStates (machine : Machine) (count : Nat) : Machine :=
  { machine with states := machine.states + count }

def addArrows (machine : Machine) (count : Nat) : Machine :=
  { machine with extra := machine.extra + arrowSize * count }

def addLinks (machine : Machine) (count : Nat) : Machine :=
  { machine with extra := machine.extra + linkSize * count }

/-- The machine when it has grown `count` times, or has become too large before. -/
def growTimes (grow : Machine → Machine) : (count : Nat) → Machine → Machine
  | 0, machine => machine
  | count + 1, machine =>
    if machine.isTooLarge then machine else growTimes grow count (grow machine)

abbrev Sharing := Machine × SlotTable

/-- The state that belongs to a key. Unless the table still knows one, it is a new state with the
given number of arrows. -/
def Sharing.state (key : List Nat) (arrows : Nat) : Sharing → Nat × Sharing
  | (machine, table) =>
    match table.find? key with
    | some state => (state, machine, table)
    | none =>
      let state := machine.states
      (state, (machine.addStates 1).addArrows arrows, table.put key state)

/-- The states of a row that is read backward and before `stop`. The state of a range is known by
the one it goes on to. -/
def addRow (stop : Nat) (row : List ByteRange) (sharing : Sharing) : Sharing :=
  (row.foldl (fun (next, sharing) range ↦
    sharing.state [next, range.first, range.last] 0) (stop, sharing)).2

/-- The machine with a set that is read backward: a state that goes on to the rows of the set, one
that comes behind them all, and those of the rows. -/
def addBackward (rows : List (List ByteRange)) (machine : Machine) : Machine :=
  let stop := machine.states + 1
  let machine := (machine.addStates 2).addLinks rows.length
  (rows.foldl (fun sharing row ↦ addRow stop row sharing) (machine, .ofSlots 1000)).1

def branches : List (List ByteRange) → List (ByteRange × List (List ByteRange))
  | [] => []
  | [] :: rows => branches rows
  | (range :: row) :: rows =>
    match branches rows with
    | [] => [(range, [row])]
    | (next, tails) :: others =>
      if range = next then (range, row :: tails) :: others
      else (range, [row]) :: (next, tails) :: others

/-- The state from which the rows are read forward, and up to `stop`. A row has at most `depth`
ranges. A state is known by the ranges it reads and the states it goes on to. -/
def nodeState (stop : Nat) : (depth : Nat) → List (List ByteRange) → Sharing → Nat × Sharing
  | 0, _, sharing => (stop, sharing)
  | depth + 1, rows, sharing =>
    match branches rows with
    | [] => (stop, sharing)
    | branches =>
      let (key, sharing) := branches.foldl (fun (key, sharing) (range, tails) ↦
        let (next, sharing) := nodeState stop depth tails sharing
        (key ++ [range.first, range.last, next], sharing)) ([], sharing)
      sharing.state key branches.length

def addForward (rows : List (List ByteRange)) (machine : Machine) : Machine :=
  (nodeState machine.states 4 rows (machine.addStates 1, .ofSlots 10000)).2.1

end Machine

end Linewise
