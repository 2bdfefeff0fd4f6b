import Linewise.Unicode.CharSet

namespace Linewise

def tableDigit (c : Char) : Nat :=
  if c.isDigit then c.toNat - '0'.toNat else c.toNat - 'a'.toNat + 10

/-- The ranges written on a line, given the lower end already read, if any, and the value of the
digits read so far. -/
def tableRanges : Option Nat → Nat → List Char → List (Nat × Nat)
  | lo?, n, [] => [(lo?.getD n, n)]
  | lo?, n, c :: rest =>
    if c = ' ' then (lo?.getD n, n) :: tableRanges none 0 rest
    else if c = '-' then tableRanges (some n) 0 rest
    else tableRanges lo? (16 * n + tableDigit c) rest

/-- The set written on the lines: ranges of code points in hexadecimal, separated by blanks, such as
`41-5a 5f 61-7a`. -/
def CharSet.ofTable (lines : List String) : CharSet :=
  CharSet.ofRanges (lines.flatMap fun line ↦ tableRanges none 0 line.toList)

structure NamedTable where
  names : List String
  table : List String

def NamedTable.find? (tables : List NamedTable) (name : String) : Option NamedTable :=
  List.find? (·.names.contains name) tables

def NamedTable.toSet (table : NamedTable) : CharSet := .ofTable table.table

end Linewise
