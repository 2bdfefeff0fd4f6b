import Linewise.Lexer
import Linewise.Rule.Source

namespace Linewise

structure RuleConfig where
  label : String
  pattern : String
  parts : List RuleConfig

namespace RuleConfig

mutual

def same : RuleConfig → RuleConfig → Bool
  | ⟨label, pattern, parts⟩, ⟨label', pattern', parts'⟩ =>
    label == label' && pattern == pattern' && sameParts parts parts'

def sameParts : List RuleConfig → List RuleConfig → Bool
  | [], [] => true
  | part :: parts, part' :: parts' => same part part' && sameParts parts parts'
  | _, _ => false

end

mutual

theorem same_iff : ∀ a b : RuleConfig, same a b = true ↔ a = b
  | ⟨label, pattern, parts⟩, ⟨label', pattern', parts'⟩ => by
    simp [same, sameParts_iff parts parts', and_assoc]

theorem sameParts_iff : ∀ a b : List RuleConfig, sameParts a b = true ↔ a = b
  | [], [] => by simp [sameParts]
  | [], _ :: _ => by simp [sameParts]
  | _ :: _, [] => by simp [sameParts]
  | part :: parts, part' :: parts' => by
    simp [sameParts, same_iff part part', sameParts_iff parts parts']

end

instance : DecidableEq RuleConfig := fun a b ↦ decidable_of_iff _ (same_iff a b)

end RuleConfig

structure Config where
  rules : List RuleConfig
  skipBlanks : Bool
  strayLabel? : Option String
  deriving DecidableEq

namespace RuleConfig

def toPart (config : RuleConfig) : Except Error SimpleRule :=
  if config.parts.isEmpty then SimpleRule.ofSource config.label config.pattern
  else .error (.nestedParts config.label)

/-- The rule that the configuration stands for. Its parts come before its own pattern. -/
def toRule (config : RuleConfig) : Except Error Rule :=
  if config.parts.isEmpty then
    (SimpleRule.ofSource config.label config.pattern).map .simple
  else do
    Rule.ofParts config.label config.pattern (← config.parts.mapM toPart)

end RuleConfig

namespace Config

/-- The lexer that the configuration stands for. The first rule that is at fault decides the
error. -/
def build (config : Config) : Except Error Lexer := do
  let rules ← config.rules.mapM RuleConfig.toRule
  .ok ⟨rules, config.skipBlanks, config.strayLabel?⟩

end Config

end Linewise
