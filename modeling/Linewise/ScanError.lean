import Linewise.Text.Cursor

namespace Linewise

structure ScanError where
  line : String
  position : Nat
  row : Nat
  deriving DecidableEq, Repr

namespace ScanError

/-- The part of the line before the place. A place that is not between two characters of the line
counts as its end. -/
def before (error : ScanError) : List Char :=
  match Cursor.at? error.line error.position with
  | some cursor => cursor.before.reverse
  | none => error.line.toList

/-- A line with a caret under the place. Tabs are kept, so the caret stands right however wide they
are shown. -/
def pointer (error : ScanError) : String :=
  String.ofList (error.before.map (fun c ↦ if c = '\t' then '\t' else ' ') ++ ['^'])

def render (error : ScanError) : String :=
  "Unmatched text at line " ++ toString error.row ++ " and position " ++
    toString error.position ++ ":\n" ++ error.line ++ "\n" ++ error.pointer

end ScanError

end Linewise
