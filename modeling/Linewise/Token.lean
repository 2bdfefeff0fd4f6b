import Linewise.Text.Quoted

namespace Linewise

/-- A labelled piece of a line. `start` counts the bytes of the line before it, and `row` the lines
of the text before its line. A token may be made up of smaller ones. -/
structure Token where
  label : String
  text : String
  start : Nat
  row : Nat
  parts : List Token

namespace Token

instance : Inhabited Token := ⟨⟨"", "", 0, 0, []⟩⟩

def stop (token : Token) : Nat := token.start + token.text.utf8ByteSize

/-- Two tokens count as equal when they have the same label, text and place. What they are made of
does not matter. -/
instance : BEq Token where
  beq a b := a.label == b.label && a.text == b.text && a.start == b.start && a.row == b.row

instance : Hashable Token where
  hash token := hash (token.label, token.text, token.start, token.row)

def distinct (tokens : List Token) : List Token := tokens.eraseDups

def display (token : Token) : String :=
  "Token(" ++ quoted token.label ++ ", " ++ quoted token.text ++ ", " ++ toString token.start ++
    ", " ++ toString token.row ++ ")"

end Token

end Linewise
