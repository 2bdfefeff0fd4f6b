import Linewise.Pattern
import Linewise.Token

namespace Linewise

structure SimpleRule where
  label : String
  pattern : Pattern

def SimpleRule.token? (rule : SimpleRule) (cursor : Cursor) (row : Nat) : Option Token :=
  (rule.pattern.matched? cursor).map fun text ↦
    ⟨rule.label, String.ofList text, cursor.position, row, []⟩

/-- The tokens that cover what is left of the line, one after the other. Each rule in turn either
finds the next token or is passed over; nothing is found when the rules end before the line does.
Positions count from `offset`. -/
def tile? (offset row : Nat) : List SimpleRule → Cursor → Option (List Token)
  | rules, cursor =>
    if cursor.atEnd then some []
    else
      match rules with
      | [] => none
      | rule :: rules =>
        match rule.pattern.matched? cursor with
        | none => tile? offset row rules cursor
        | some text =>
          (tile? offset row rules (cursor.forward text.length)).map
            (⟨rule.label, String.ofList text, offset + cursor.position, row, []⟩ :: ·)

inductive Rule where
  | simple (rule : SimpleRule)
  | compound (label : String) (pattern : Pattern) (parts : List SimpleRule)
  | custom (label : String) (classify : String → Nat → Nat → Option Token)

namespace Rule

def label : Rule → String
  | simple rule => rule.label
  | compound label _ _ => label
  | custom label _ => label

/-- The token that the rule finds at the cursor. Parts are matched against the text of the whole
token alone. -/
def token? (rule : Rule) (cursor : Cursor) (row : Nat) : Option Token :=
  match rule with
  | simple rule => rule.token? cursor row
  | compound label pattern parts => do
    let text := String.ofList (← pattern.matched? cursor)
    let tiles ← tile? cursor.position row parts (.start text)
    some ⟨label, text, cursor.position, row, tiles⟩
  | custom _ classify => classify cursor.line cursor.position row

def tokenAt? (rule : Rule) (line : String) (position row : Nat) : Option Token := do
  let cursor ← Cursor.at? line position
  rule.token? cursor row

/-- A custom rule that looks for a word. What it finds is a token with the given text, moved by
`shift` bytes but not before the start of the line. -/
def ofWord (label word text : String) (shift : Int) : Rule :=
  custom label fun line position row ↦ do
    let cursor ← Cursor.at? line position
    if word.toList.isPrefixOf cursor.after then
      some ⟨label, text, (position + shift).toNat, row, []⟩
    else none

end Rule

end Linewise
