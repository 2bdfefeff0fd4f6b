import Linewise.Proofs.Coverage
import Linewise.Proofs.Endings

namespace Linewise

def writtenOut (tokens : List Token) : List Char := tokens.flatMap (·.text.toList)

def printed (lines : List (List Token)) : String :=
  String.ofList (lines.flatMap fun tokens ↦ writtenOut tokens ++ ['\n'])

theorem EndedLine.Proper.unbroken {lines : List EndedLine} (h : Proper lines) :
    ∀ ended ∈ lines, Unbroken ended.line := by
  induction h with
  | nil => simp
  | last hline => simpa using hline
  | cons hline _ _ _ ih => exact List.forall_mem_cons.2 ⟨hline, ih⟩

theorem unbroken_of_mem_linesOf {text line : String} (h : line ∈ linesOf text) :
    Unbroken line.toList := by
  obtain ⟨lines, hproper, hjoined⟩ := EndedLine.exists_proper text.toList
  rw [linesOf, ← hjoined, EndedLine.splitAtBreaks_joined hproper, List.map_map] at h
  obtain ⟨ended, hended, rfl⟩ := List.mem_map.1 h
  simpa using hproper.unbroken ended hended

theorem linesOf_lineFeeds {lines : List String} (h : ∀ line ∈ lines, Unbroken line.toList) :
    linesOf (String.ofList (lines.flatMap (·.toList ++ ['\n']))) = lines := by
  have hfeed : isLineBreak '\n' = true := by decide
  have hproper : EndedLine.Proper (lines.map fun line ↦ ⟨line.toList, ['\n']⟩) := by
    induction lines with
    | nil => exact .nil
    | cons line lines ih =>
      obtain ⟨hline, hlines⟩ := List.forall_mem_cons.1 h
      exact .cons hline (.inr ⟨'\n', hfeed, rfl⟩) (by simp) (ih hlines)
  have hlines := linesOf_joined hproper
  rw [EndedLine.joined, List.flatMap_map, List.map_map] at hlines
  simpa [Function.comp_def] using hlines

namespace Lexer

variable {lexer : Lexer} {text : String} {lines : List (List Token)}

theorem lex_eq_of_linesOf_eq {text' : String} (h : linesOf text = linesOf text') :
    lexer.lex text = lexer.lex text' := by
  rw [lex, lex, h]

theorem writtenOut_of_tokensOfLine (hrules : ∀ rule ∈ lexer.rules, rule.HasPattern)
    (hskip : lexer.skipBlanks = false) {line : String} {row : Nat} {tokens : List Token}
    (h : lexer.tokensOfLine line row = .ok tokens) : writtenOut tokens = line.toList :=
  (covers_of_tokensOfLine hrules h).1.whole hskip

theorem printed_of_lex (hrules : ∀ rule ∈ lexer.rules, rule.HasPattern)
    (hskip : lexer.skipBlanks = false) (h : lexer.lex text = .ok lines) :
    printed lines = String.ofList ((linesOf text).flatMap (·.toList ++ ['\n'])) := by
  have hfound := lex_eq_ok_iff.1 h
  have hlines : List.Forall₂ (fun entry tokens ↦ writtenOut tokens = String.toList entry.1)
      (linesOf text).zipIdx lines :=
    hfound.imp fun _ _ ↦ writtenOut_of_tokensOfLine hrules hskip
  rw [← List.zipIdx_map_fst 0 (linesOf text), List.flatMap_map]
  clear hfound h
  generalize (linesOf text).zipIdx = rows at hlines
  rw [printed]
  congr 1
  induction hlines with
  | nil => rfl
  | cons hline _ ih => rw [List.flatMap_cons, List.flatMap_cons, hline, ih]

/-- Where nothing is skipped, the tokens of a text print a text that has the same lines and the same
tokens. -/
theorem lex_printed (hrules : ∀ rule ∈ lexer.rules, rule.HasPattern)
    (hskip : lexer.skipBlanks = false) (h : lexer.lex text = .ok lines) :
    linesOf (printed lines) = linesOf text ∧ lexer.lex (printed lines) = .ok lines := by
  have hlines : linesOf (printed lines) = linesOf text := by
    rw [printed_of_lex hrules hskip h]
    exact linesOf_lineFeeds fun line ↦ unbroken_of_mem_linesOf
  exact ⟨hlines, (lex_eq_of_linesOf_eq hlines).trans h⟩

def closePairs : Lexer := { pairs with skipBlanks := false }

theorem lex_printed_closePairs :
    ∃ lines : List (List Token),
      (∀ rule ∈ closePairs.rules, rule.HasPattern) ∧ closePairs.skipBlanks = false ∧
      closePairs.lex "é a1\r\n\u2028" = .ok lines ∧ printed lines = "é a1\n\n" ∧
      linesOf (printed lines) = linesOf "é a1\r\n\u2028" ∧
      closePairs.lex (printed lines) = .ok lines := by
  have hrules : ∀ rule ∈ closePairs.rules, rule.HasPattern := by
    simp [closePairs, pairs, Rule.HasPattern]
  have hlines : linesOf "é a1\r\n\u2028" = ["é a1", ""] := by decide
  have hfirst : closePairs.step? (.start "é a1") 0 =
      some (.stray 'é' 0 0, (Cursor.start "é a1").forward 1) := rfl
  have hblank : closePairs.step? ((Cursor.start "é a1").forward 1) 0 =
      some (.stray ' ' 2 0, (Cursor.start "é a1").forward 2) := rfl
  have htoken : closePairs.step? ((Cursor.start "é a1").forward 2) 0 =
      some (.token ⟨"pair", "a1", 3, 0, [⟨"letter", "a", 3, 0, []⟩, ⟨"digit", "1", 4, 0, []⟩]⟩,
        ((Cursor.start "é a1").forward 2).forward 2) := rfl
  have hend : (((Cursor.start "é a1").forward 2).forward 2).atEnd = true := rfl
  have hlex : closePairs.lex "é a1\r\n\u2028" = .ok [
      [⟨"?", "é ", 0, 0, []⟩,
        ⟨"pair", "a1", 3, 0, [⟨"letter", "a", 3, 0, []⟩, ⟨"digit", "1", 4, 0, []⟩]⟩],
      []] := by
    rw [lex_eq_ok_iff, hlines]
    refine .cons ?_ (.cons ?_ .nil)
    · rw [tokensOfLine_eq, stepsFrom_of_step? hfirst, stepsFrom_of_step? hblank,
        stepsFrom_of_step? htoken, stepsFrom_of_atEnd hend]
      rfl
    · rw [tokensOfLine_eq, stepsFrom_of_atEnd rfl]
      rfl
  exact ⟨_, hrules, rfl, hlex, by decide, lex_printed hrules rfl hlex⟩

end Lexer

end Linewise
