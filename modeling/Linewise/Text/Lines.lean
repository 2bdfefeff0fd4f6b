namespace Linewise

/-- Line feed, carriage return, vertical tab, form feed, the file, group and record separators, next
line, line separator and paragraph separator break lines. -/
def isLineBreak (c : Char) : Bool :=
  c == '\n' || c == '\r' || c == '\x0b' || c == '\x0c' || c == '\x1c' || c == '\x1d' ||
    c == '\x1e' || c == '\u0085' || c == '\u2028' || c == '\u2029'

/-- The lines of the characters, first to last. A carriage return and the line feed behind it are
one break, and a break at the very end starts no further line. -/
def splitAtBreaks : List Char → List (List Char)
  | [] => []
  | '\r' :: '\n' :: rest => [] :: splitAtBreaks rest
  | c :: rest =>
    if isLineBreak c then [] :: splitAtBreaks rest
    else
      match splitAtBreaks rest with
      | [] => [[c]]
      | line :: lines => (c :: line) :: lines

def linesOf (text : String) : List String :=
  (splitAtBreaks text.toList).map String.ofList

end Linewise
