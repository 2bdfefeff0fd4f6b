import Linewise.Assembly
import Linewise.Rule
import Linewise.ScanError
import Linewise.Text.Blank
import Linewise.Text.Lines

namespace Linewise

/-- The cursor behind the token, if the token is acceptable: it starts at the cursor, is not empty
and ends between two characters of the line. -/
def Cursor.accept? (cursor : Cursor) (token : Token) : Option Cursor :=
  if token.start = cursor.position ∧ token.text ≠ "" then
    cursor.advance? token.text.utf8ByteSize
  else none

inductive Step where
  | token (token : Token)
  | blank (c : Char)
  | stray (c : Char) (position row : Nat)

def Assembly.take (assembly : Assembly) : Step → Assembly
  | .token token => assembly.push token
  | .blank _ => assembly.breakRun
  | .stray c position row => assembly.pushStray c position row

/-- An ordered table of rules, and what to do with text that none of them wants. It is skipped if it
is blank and the lexer skips blanks, kept as a stray character if there is a label for those, and an
error otherwise. -/
structure Lexer where
  rules : List Rule
  skipBlanks : Bool
  strayLabel? : Option String

namespace Lexer

def bare : Lexer := ⟨[], false, none⟩

inductive Setting where
  | rule (rule : Rule)
  | skipBlanks (skip : Bool)
  | strayLabel (label : String)

def apply (lexer : Lexer) : Setting → Lexer
  | .rule rule => { lexer with rules := lexer.rules ++ [rule] }
  | .skipBlanks skip => { lexer with skipBlanks := skip }
  | .strayLabel label => { lexer with strayLabel? := some label }

def ofSettings (settings : List Setting) : Lexer := settings.foldl apply bare

def match? (lexer : Lexer) (cursor : Cursor) (row : Nat) : Option (Token × Cursor) :=
  lexer.rules.findSome? fun rule ↦ do
    let token ← rule.token? cursor row
    let next ← cursor.accept? token
    some (token, next)

def step? (lexer : Lexer) (cursor : Cursor) (row : Nat) : Option (Step × Cursor) :=
  match lexer.match? cursor row with
  | some (token, next) => some (.token token, next)
  | none =>
    match cursor.next? with
    | none => none
    | some c =>
      if lexer.skipBlanks && isBlank c then some (.blank c, cursor.forward 1)
      else if lexer.strayLabel?.isSome then
        some (.stray c cursor.position row, cursor.forward 1)
      else none

end Lexer

theorem Cursor.length_after_accept? {cursor next : Cursor} {token : Token}
    (h : cursor.accept? token = some next) : next.after.length < cursor.after.length := by
  unfold Cursor.accept? at h
  split at h
  · next hok =>
    refine Cursor.length_after_advance? h (Nat.pos_of_ne_zero ?_)
    intro hzero
    exact hok.2 (String.utf8ByteSize_eq_zero_iff.1 hzero)
  · simp at h

theorem Cursor.length_after_forward {cursor : Cursor} {c : Char} (h : cursor.next? = some c) :
    (cursor.forward 1).after.length < cursor.after.length := by
  unfold Cursor.next? at h
  have : cursor.after ≠ [] := by
    intro hnil
    simp [hnil] at h
  have := List.length_pos_iff.2 this
  simp only [Cursor.forward, Cursor.after_pass, List.length_drop]
  omega

namespace Lexer

theorem length_after_step? {lexer : Lexer} {cursor next : Cursor} {row : Nat} {step : Step}
    (h : lexer.step? cursor row = some (step, next)) :
    next.after.length < cursor.after.length := by
  unfold step? at h
  split at h
  · next token found hmatch =>
    obtain ⟨rule, -, hrule⟩ := List.exists_of_findSome?_eq_some hmatch
    obtain ⟨token', -, hrule⟩ := Option.bind_eq_some_iff.1 hrule
    obtain ⟨found', haccept, hpair⟩ := Option.bind_eq_some_iff.1 hrule
    simp only [Option.some.injEq, Prod.mk.injEq] at hpair h
    rw [← h.2, ← hpair.2]
    exact Cursor.length_after_accept? haccept
  · split at h
    · simp at h
    · next c hc =>
      have := Cursor.length_after_forward hc
      split at h
      · simp_all
      · split at h <;> simp_all

def scanFrom (lexer : Lexer) (row : Nat) (assembly : Assembly) (cursor : Cursor) :
    Except ScanError Assembly :=
  if cursor.atEnd then .ok assembly
  else
    match h : lexer.step? cursor row with
    | none => .error ⟨cursor.line, cursor.position, row⟩
    | some (step, next) =>
      have := length_after_step? h
      lexer.scanFrom row (assembly.take step) next
termination_by cursor.after.length

def scanLine (lexer : Lexer) (assembly : Assembly) (line : String) (row : Nat) :
    Except ScanError Assembly :=
  (lexer.scanFrom row assembly (.start line)).map Assembly.endLine

/-- The tokens of each line of the text. The first place where a scan cannot go on ends them
all. -/
def lex (lexer : Lexer) (text : String) : Except ScanError (List (List Token)) :=
  ((linesOf text).zipIdx.foldlM (fun assembly (line, row) ↦ lexer.scanLine assembly line row)
    (.empty lexer.strayLabel?)).map Assembly.finish

end Lexer

end Linewise
