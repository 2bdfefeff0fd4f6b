import Linewise.Token

namespace Linewise

/-- Neighbouring characters that no rule wants, and the place of the first. -/
structure StrayRun where
  text : String
  start : Nat
  row : Nat

/-- The lines that are done, the tokens of the line that is not, and the run that is still open.
Runs get the label `strayLabel?`; without one they are dropped. -/
structure Assembly where
  strayLabel? : Option String
  lines : Array (List Token)
  tokens : Array Token
  run? : Option StrayRun

namespace Assembly

def empty (strayLabel? : Option String) : Assembly := ⟨strayLabel?, #[], #[], none⟩

def breakRun (assembly : Assembly) : Assembly :=
  match assembly.run?, assembly.strayLabel? with
  | none, _ => assembly
  | some _, none => { assembly with run? := none }
  | some run, some label =>
    { assembly with
      tokens := assembly.tokens.push ⟨label, run.text, run.start, run.row, []⟩
      run? := none }

def push (assembly : Assembly) (token : Token) : Assembly :=
  let assembly := assembly.breakRun
  { assembly with tokens := assembly.tokens.push token }

def pushStray (assembly : Assembly) (c : Char) (position row : Nat) : Assembly :=
  let run := assembly.run?.getD ⟨"", position, row⟩
  { assembly with run? := some { run with text := run.text.push c } }

def endLine (assembly : Assembly) : Assembly :=
  let assembly := assembly.breakRun
  { assembly with lines := assembly.lines.push assembly.tokens.toList, tokens := #[] }

/-- The lines. What came behind the last line end makes a line of its own if it has tokens. -/
def finish (assembly : Assembly) : List (List Token) :=
  let assembly := assembly.breakRun
  if assembly.tokens.isEmpty then assembly.lines.toList
  else (assembly.lines.push assembly.tokens.toList).toList

end Assembly

end Linewise
