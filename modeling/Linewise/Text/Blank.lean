import Linewise.Text.Cursor
import Linewise.Unicode.CharSet

namespace Linewise

/-- The code points with the property White_Space. -/
def blankSet : CharSet :=
  .ofRanges [(0x9, 0xd), (0x20, 0x20), (0x85, 0x85), (0xa0, 0xa0), (0x1680, 0x1680),
    (0x2000, 0x200a), (0x2028, 0x2029), (0x202f, 0x202f), (0x205f, 0x205f), (0x3000, 0x3000)]

def isBlank (c : Char) : Bool := blankSet.contains c

def blankWidth? (line : String) (position : Nat) : Option Nat := do
  let cursor ← Cursor.at? line position
  let c ← cursor.next?
  if isBlank c then some c.utf8Size else none

end Linewise
