import Linewise.Error
import Linewise.Rule

namespace Linewise

def Pattern.ofSource (source : String) : Except Error Pattern :=
  (Pattern.compile source).mapError (.invalidPattern source)

def SimpleRule.ofSource (label source : String) : Except Error SimpleRule :=
  (Pattern.ofSource source).map (⟨label, ·⟩)

inductive RuleSource where
  | simple (label source : String)
  | compound (label source : String) (parts : List (String × String))
  | ready (rule : Rule)

/-- The rules of parts. The first part that is at fault decides the error. -/
def compileParts (parts : List (String × String)) : Except Error (List SimpleRule) :=
  parts.mapM fun (label, source) ↦ SimpleRule.ofSource label source

def Rule.ofParts (label source : String) (parts : List SimpleRule) : Except Error Rule :=
  (Pattern.ofSource source).map fun pattern ↦ .compound label pattern parts

/-- The rule that a source gives. The parts of a compound rule come before its own pattern. -/
def RuleSource.compile : RuleSource → Except Error Rule
  | simple label source => (SimpleRule.ofSource label source).map .simple
  | compound label source parts => do Rule.ofParts label source (← compileParts parts)
  | ready rule => .ok rule

end Linewise
