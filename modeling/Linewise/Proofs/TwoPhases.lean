import Linewise.Proofs.Classification
import Linewise.Proofs.LineByLine

namespace Linewise.Lexer

theorem rows_of_lex_error {lexer : Lexer} {text : String} {error : ScanError}
    (h : lexer.lex text = .error error) :
    (linesOf text)[error.row]? = some error.line ∧
      lexer.tokensOfLine error.line error.row = .error error ∧
      ∀ row < error.row, ∃ line tokens, (linesOf text)[row]? = some line ∧
        lexer.tokensOfLine line row = .ok tokens := by
  obtain ⟨earlier, line, later, hsplit, hearlier, hstuck⟩ := lex_eq_error_iff.1 h
  obtain ⟨rfl, hrow, -⟩ := tokensOfLine_eq_error_iff.1 hstuck
  rw [hsplit, hrow]
  refine ⟨by simp, hstuck, ?_⟩
  intro row hlt
  have hat : earlier[row]? = some earlier[row] := List.getElem?_eq_getElem hlt
  obtain ⟨tokens, hfound⟩ := hearlier _ (List.mk_mem_zipIdx_iff_getElem?.2 hat)
  exact ⟨earlier[row], tokens, by rw [List.getElem?_append_left hlt, hat], hfound⟩

/-- A line comes to one outcome. The text has tokens if all lines have steps, and then they are what
the steps of each line make; otherwise its error stands where the first line without them is
stuck. -/
theorem lex_two_phases (lexer : Lexer) (text : String) :
    (∀ line row, ∃! outcome, lexer.Classifies line row 0 outcome) ∧
    (∀ lines, lexer.lex text = .ok lines ↔
      List.Forall₂ (fun entry tokens ↦ ∃ steps,
          lexer.Classifies entry.1 entry.2 0 (.ok steps) ∧
          tokens = gather (lexer.strayLabel?.getD "") steps)
        (linesOf text).zipIdx lines) ∧
    (∀ error, lexer.lex text = .error error ↔
      ∃ earlier later, linesOf text = earlier ++ error.line :: later ∧
        error.row = earlier.length ∧
        (∀ entry ∈ earlier.zipIdx, ∃ steps, lexer.Classifies entry.1 entry.2 0 (.ok steps)) ∧
        lexer.Classifies error.line error.row 0 (.error error.position)) := by
  refine ⟨existsUnique_classifies lexer, fun lines ↦ ?_, fun error ↦ ?_⟩
  · simp only [lex_eq_ok_iff, tokensOfLine_eq_ok_iff]
  · rw [lex_eq_error_iff]
    simp only [tokensOfLine_eq_ok_iff, tokensOfLine_eq_error_iff]
    constructor
    · rintro ⟨earlier, line, later, hlines, hearlier, rfl, hrow, hstuck⟩
      refine ⟨earlier, later, hlines, hrow, fun entry hentry ↦ ?_, hrow ▸ hstuck⟩
      obtain ⟨_, steps, hsteps, -⟩ := hearlier entry hentry
      exact ⟨steps, hsteps⟩
    · rintro ⟨earlier, later, hlines, hrow, hearlier, hstuck⟩
      refine ⟨earlier, error.line, later, hlines, fun entry hentry ↦ ?_, rfl, hrow, hrow ▸ hstuck⟩
      obtain ⟨steps, hsteps⟩ := hearlier entry hentry
      exact ⟨_, steps, hsteps, rfl⟩

end Linewise.Lexer
