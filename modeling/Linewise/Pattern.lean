import Linewise.Regex.Meaning
import Linewise.Regex.Openings
import Linewise.Regex.Reader
import Linewise.Regex.Search
import Linewise.Text.Cursor

namespace Linewise

inductive PatternFault where
  | malformed
  | tooLarge
  deriving DecidableEq, Repr

def PatternFault.message : PatternFault → String
  | malformed => "error parsing pattern 0"
  | tooLarge => "error building NFA"

structure Pattern where
  source : String
  program : Program

namespace Pattern

/-- The pattern that a text writes. One that is too large is refused, unless it is no more than a
list of words. -/
def compile (source : String) : Except PatternFault Pattern :=
  match Regex.readForm? source >>= Regex.meaning .initial with
  | none => .error .malformed
  | some (regex, _) =>
    if regex.isModest then .ok ⟨source, regex.program⟩
    else
      match regex.asWords? with
      | some words => .ok ⟨source, words.program⟩
      | none => .error .tooLarge

/-- The text that the pattern matches at the cursor. An empty match counts as none. What comes
before the cursor is still seen, so a pattern knows whether it stands at the edge of a word. -/
def matched? (pattern : Pattern) (cursor : Cursor) : Option (List Char) :=
  match pattern.program.matchLength? cursor.previous? cursor.after with
  | none | some 0 => none
  | some (length + 1) => some (cursor.after.take (length + 1))

def matchAt? (pattern : Pattern) (text : String) (position : Nat) : Option Nat := do
  let cursor ← Cursor.at? text position
  let matched ← pattern.matched? cursor
  some (position + byteLength matched)

theorem matched?_eq_some {pattern : Pattern} {cursor : Cursor} {text : List Char}
    (h : pattern.matched? cursor = some text) :
    text ≠ [] ∧ ∃ rest, cursor.after = text ++ rest := by
  unfold matched? at h
  split at h
  · simp at h
  · simp at h
  · next length hrun =>
    have hle := Program.matchLength?_le hrun
    simp only [Option.some.injEq] at h
    subst h
    refine ⟨?_, cursor.after.drop (length + 1), by simp⟩
    intro hnil
    have := congrArg List.length hnil
    simp only [List.length_take, List.length_nil] at this
    omega

end Pattern

end Linewise
