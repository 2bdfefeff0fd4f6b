import Linewise.Lexer

namespace Linewise

def Step.strayChar? : Step → Option Char
  | stray c _ _ => some c
  | _ => none

/-- The tokens that steps make. Blanks make none, and each unbroken block of characters that no
rule wants makes one, with the place of its first. -/
def gather (strayLabel : String) : List Step → List Token
  | [] => []
  | .token token :: steps => token :: gather strayLabel steps
  | .blank _ :: steps => gather strayLabel steps
  | .stray c position row :: steps =>
    let block := steps.takeWhile (·.strayChar?.isSome)
    let text := String.ofList (c :: block.filterMap Step.strayChar?)
    ⟨strayLabel, text, position, row, []⟩ ::
      gather strayLabel (steps.dropWhile (·.strayChar?.isSome))
termination_by steps => steps.length
decreasing_by
  · simp
  · simp
  · exact Nat.lt_succ_of_le (List.dropWhile_sublist _).length_le

namespace Lexer

def stepsFrom (lexer : Lexer) (row : Nat) (cursor : Cursor) : Except ScanError (List Step) :=
  if cursor.atEnd then .ok []
  else
    match h : lexer.step? cursor row with
    | none => .error ⟨cursor.line, cursor.position, row⟩
    | some (step, next) =>
      have := length_after_step? h
      (lexer.stepsFrom row next).map (step :: ·)
termination_by cursor.after.length

variable {lexer : Lexer} {cursor : Cursor} {row : Nat}

theorem stepsFrom_of_atEnd (h : cursor.atEnd = true) : lexer.stepsFrom row cursor = .ok [] := by
  rw [stepsFrom, if_pos h]

theorem stepsFrom_of_stuck (hend : cursor.atEnd = false) (h : lexer.step? cursor row = none) :
    lexer.stepsFrom row cursor = .error ⟨cursor.line, cursor.position, row⟩ := by
  rw [stepsFrom, if_neg (by simp [hend])]
  split
  · rfl
  · next hsome =>
    rw [h] at hsome
    cases hsome

theorem stepsFrom_of_step? {next : Cursor} {step : Step}
    (h : lexer.step? cursor row = some (step, next)) :
    lexer.stepsFrom row cursor = (lexer.stepsFrom row next).map (step :: ·) := by
  have hend : cursor.atEnd = false := by
    have hshorter := length_after_step? h
    rw [Cursor.atEnd, List.isEmpty_eq_false_iff_exists_mem]
    exact List.exists_mem_of_length_pos (Nat.zero_lt_of_lt hshorter)
  rw [stepsFrom, if_neg (by simp [hend])]
  split
  · next hnone =>
    rw [h] at hnone
    cases hnone
  · next hsome =>
    rw [h] at hsome
    cases hsome
    rfl

def tokensOfLine (lexer : Lexer) (line : String) (row : Nat) : Except ScanError (List Token) :=
  (lexer.stepsFrom row (.start line)).map (gather (lexer.strayLabel?.getD ""))

def lexByLine (lexer : Lexer) (text : String) : Except ScanError (List (List Token)) :=
  (linesOf text).zipIdx.mapM fun (line, row) ↦ lexer.tokensOfLine line row

end Lexer

end Linewise
