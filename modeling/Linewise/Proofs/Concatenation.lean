import Linewise.Proofs.Coverage
import Linewise.Proofs.Endings

namespace Linewise

namespace Token

mutual

def lower (rows : Nat) : Token → Token
  | ⟨label, text, start, row, parts⟩ => ⟨label, text, start, row + rows, lowerAll rows parts⟩

def lowerAll (rows : Nat) : List Token → List Token
  | [] => []
  | token :: tokens => lower rows token :: lowerAll rows tokens

end

theorem lowerAll_eq_map (rows : Nat) (tokens : List Token) :
    lowerAll rows tokens = tokens.map (lower rows) := by
  induction tokens with
  | nil => rfl
  | cons token tokens ih => rw [lowerAll, ih, List.map_cons]

@[simp]
theorem start_lower (rows : Nat) (token : Token) : (token.lower rows).start = token.start := by
  cases token
  rfl

@[simp]
theorem text_lower (rows : Nat) (token : Token) : (token.lower rows).text = token.text := by
  cases token
  rfl

end Token

theorem Cursor.accept?_lower (cursor : Cursor) (rows : Nat) (token : Token) :
    cursor.accept? (token.lower rows) = cursor.accept? token := by
  simp [accept?]

def ScanError.lower (rows : Nat) (error : ScanError) : ScanError :=
  { error with row := error.row + rows }

def Step.lower (rows : Nat) : Step → Step
  | .token found => .token (found.lower rows)
  | .blank c => .blank c
  | .stray c position row => .stray c position (row + rows)

def StrayRun.lower (rows : Nat) (run : StrayRun) : StrayRun := { run with row := run.row + rows }

namespace Rule

/-- The row that the rule is told shows only in the rows of the token that it finds. -/
def CopiesRow (rule : Rule) : Prop :=
  ∀ line position row rows, rule.tokenAt? line position (row + rows) =
    (rule.tokenAt? line position row).map (Token.lower rows)

theorem copiesRow_of_token? {rule : Rule}
    (h : ∀ cursor row rows, rule.token? cursor (row + rows) =
      (rule.token? cursor row).map (Token.lower rows)) : rule.CopiesRow := by
  intro line position row rows
  rw [tokenAt?, tokenAt?]
  cases Cursor.at? line position with
  | none => rfl
  | some cursor => exact h cursor row rows

theorem tile?_lower (offset row rows : Nat) (rules : List SimpleRule) (cursor : Cursor) :
    tile? offset (row + rows) rules cursor =
      (tile? offset row rules cursor).map (List.map (Token.lower rows)) := by
  fun_induction tile? offset row rules cursor with
  | case1 rules cursor hend =>
    unfold tile?
    rw [if_pos hend]
    rfl
  | case2 cursor hend =>
    unfold tile?
    rw [if_neg hend]
    rfl
  | case3 cursor hend rule rules hnone ih =>
    rw [tile?, if_neg hend, hnone]
    exact ih
  | case4 cursor hend rule rules text hmatched ih =>
    rw [tile?, if_neg hend, hmatched]
    dsimp only
    rw [ih]
    cases tile? offset row rules (cursor.forward text.length) <;> rfl

theorem copiesRow_of_hasPattern {rule : Rule} (h : rule.HasPattern) : rule.CopiesRow := by
  apply copiesRow_of_token?
  intro cursor row rows
  cases rule with
  | simple rule =>
    simp only [token?, SimpleRule.token?]
    cases rule.pattern.matched? cursor <;> rfl
  | compound label pattern parts =>
    simp only [token?, Option.bind_eq_bind, tile?_lower]
    cases pattern.matched? cursor with
    | none => rfl
    | some text =>
      dsimp only [Option.bind_some]
      cases tile? cursor.position row parts (.start (String.ofList text)) with
      | none => rfl
      | some tiles => simp [Token.lower, Token.lowerAll_eq_map]
  | custom label classify => exact h.elim

theorem copiesRow_ofWord (label word text : String) (shift : Int) :
    (ofWord label word text shift).CopiesRow := by
  apply copiesRow_of_token?
  intro cursor row rows
  simp only [token?, ofWord, Cursor.at?_position, Option.bind_eq_bind, Option.bind_some]
  split <;> rfl

theorem taken?_lower {rule : Rule} (h : rule.CopiesRow) (cursor : Cursor) (row rows : Nat) :
    rule.taken? cursor (row + rows) =
      (rule.taken? cursor row).map fun (token, next) ↦ (token.lower rows, next) := by
  have htoken := h cursor.line cursor.position row rows
  rw [tokenAt?_position, tokenAt?_position] at htoken
  rw [taken?, taken?, htoken]
  cases rule.token? cursor row with
  | none => rfl
  | some token =>
    simp only [Option.map_some, Option.bind_eq_bind, Option.bind_some, Cursor.accept?_lower]
    cases cursor.accept? token <;> rfl

end Rule

theorem runTokens_lower (label? : Option String) (run? : Option StrayRun) (rows : Nat) :
    runTokens label? (run?.map (.lower rows)) = (runTokens label? run?).map (.lower rows) := by
  cases label? <;> cases run? <;> rfl

theorem StrayRun.extend_lower (run? : Option StrayRun) (c : Char) (position row rows : Nat) :
    extend (run?.map (lower rows)) c position (row + rows) =
      (extend run? c position row).lower rows := by
  cases run? <;> rfl

theorem gatherFrom_lower (label? : Option String) (run? : Option StrayRun) (steps : List Step)
    (rows : Nat) :
    gatherFrom label? (run?.map (.lower rows)) (steps.map (.lower rows)) =
      (gatherFrom label? run? steps).map (.lower rows) := by
  induction steps generalizing run? with
  | nil => exact runTokens_lower label? run? rows
  | cons step steps ih =>
    have hclosed := ih none
    rw [Option.map_none] at hclosed
    cases step with
    | token token => simp [gatherFrom, Step.lower, runTokens_lower, hclosed]
    | blank c => simp [gatherFrom, Step.lower, runTokens_lower, hclosed]
    | stray c position row =>
      rw [List.map_cons, Step.lower, gatherFrom, gatherFrom, StrayRun.extend_lower]
      exact ih (some (.extend run? c position row))

theorem findSome?_taken?_lower {rules : List Rule} (h : ∀ rule ∈ rules, rule.CopiesRow)
    (cursor : Cursor) (row rows : Nat) :
    rules.findSome? (·.taken? cursor (row + rows)) =
      (rules.findSome? (·.taken? cursor row)).map fun (token, next) ↦
        (token.lower rows, next) := by
  induction rules with
  | nil => rfl
  | cons rule rules ih =>
    obtain ⟨hrule, hrules⟩ := List.forall_mem_cons.1 h
    rw [List.findSome?_cons, List.findSome?_cons, Rule.taken?_lower hrule]
    cases rule.taken? cursor row with
    | none => exact ih hrules
    | some found => rfl

theorem mapM_mapError {α β ε ε' : Type} (f : α → Except ε β) (g : ε → ε') (items : List α) :
    (items.mapM fun item ↦ (f item).mapError g) = (items.mapM f).mapError g := by
  induction items with
  | nil => rfl
  | cons item items ih =>
    rw [List.mapM_cons, List.mapM_cons, ih]
    cases f item with
    | error error => rfl
    | ok value => cases items.mapM f <;> rfl

namespace Lexer

section

variable {lexer : Lexer} (hrules : ∀ rule ∈ lexer.rules, rule.CopiesRow)

include hrules

theorem step?_lower (cursor : Cursor) (row rows : Nat) :
    lexer.step? cursor (row + rows) =
      (lexer.step? cursor row).map fun (step, next) ↦ (step.lower rows, next) := by
  rw [step?, step?, match?_eq_findSome?, match?_eq_findSome?, findSome?_taken?_lower hrules]
  cases lexer.rules.findSome? (·.taken? cursor row) with
  | some found => rfl
  | none =>
    cases cursor.next? with
    | none => rfl
    | some c =>
      simp only [Option.map_none]
      split
      · rfl
      · split <;> rfl

theorem stepsFrom_lower (cursor : Cursor) (row rows : Nat) :
    lexer.stepsFrom (row + rows) cursor =
      ((lexer.stepsFrom row cursor).map (List.map (.lower rows))).mapError (.lower rows) := by
  fun_induction lexer.stepsFrom row cursor with
  | case1 cursor hend =>
    rw [stepsFrom_of_atEnd hend]
    rfl
  | case2 cursor hend hnone =>
    have hlower := step?_lower hrules cursor row rows
    rw [hnone] at hlower
    rw [stepsFrom_of_stuck (Bool.eq_false_iff.2 hend) hlower]
    rfl
  | case3 cursor hend step next hstep _ ih =>
    have hlower := step?_lower hrules cursor row rows
    rw [hstep] at hlower
    rw [stepsFrom_of_step? hlower, ih]
    cases lexer.stepsFrom row next <;> rfl

theorem tokensOfLine_lower (line : String) (row rows : Nat) :
    lexer.tokensOfLine line (row + rows) =
      ((lexer.tokensOfLine line row).map (List.map (.lower rows))).mapError (.lower rows) := by
  rw [tokensOfLine_eq, tokensOfLine_eq, stepsFrom_lower hrules]
  cases lexer.stepsFrom row (.start line) with
  | error error => rfl
  | ok steps => exact congrArg Except.ok (gatherFrom_lower lexer.strayLabel? none steps rows)

theorem mapM_tokensOfLine_lower (lines : List String) (rows : Nat) :
    ((lines.zipIdx rows).mapM fun (line, row) ↦ lexer.tokensOfLine line row) =
      ((lines.zipIdx.mapM fun (line, row) ↦ lexer.tokensOfLine line row).map
        (List.map (List.map (Token.lower rows)))).mapError (.lower rows) := by
  have hzip : lines.zipIdx rows = lines.zipIdx.map (Prod.map id (· + rows)) := by
    rw [List.map_snd_add_zipIdx_eq_zipIdx, Nat.add_zero]
  rw [hzip, List.mapM_map, ← mapM_map_result, ← mapM_mapError]
  refine congrArg (List.mapM · _) (funext fun entry ↦ ?_)
  exact tokensOfLine_lower hrules entry.1 entry.2 rows

end

/-- Lexing goes line by line, so a text whose end is the end of a line can be lexed before what
comes behind it is known. -/
theorem lex_append {lexer : Lexer}
    (hrules : ∀ rule ∈ lexer.rules, rule.HasPattern ∨ rule.CopiesRow) {text later : String}
    (hended : ∀ c ∈ text.toList.getLast?, isLineBreak c = true)
    (hseam : ¬ (text.toList.getLast? = some '\r' ∧ later.toList.head? = some '\n')) :
    lexer.lex (text ++ later) = do
      let lines ← lexer.lex text
      let more ← (lexer.lex later).mapError (.lower lines.length)
      return lines ++ more.map (List.map (Token.lower lines.length)) := by
  have hcopies : ∀ rule ∈ lexer.rules, rule.CopiesRow := by
    intro rule hrule
    exact (hrules rule hrule).elim Rule.copiesRow_of_hasPattern id
  have hlines := linesOf_append hended hseam
  have hmore := mapM_tokensOfLine_lower hcopies (linesOf later) (linesOf text).length
  cases htext : lexer.lex text with
  | error error =>
    rw [lex_eq_lexByLine, lexByLine] at htext
    rw [lex_eq_lexByLine, lexByLine, hlines, List.zipIdx_append, List.mapM_append, htext]
    rfl
  | ok lines =>
    have hlength : lines.length = (linesOf text).length := by
      simpa using (lex_eq_ok_iff.1 htext).length_eq.symm
    rw [lex_eq_lexByLine, lexByLine] at htext
    rw [lex_eq_lexByLine, lex_eq_lexByLine, lexByLine, lexByLine, hlines, List.zipIdx_append,
      List.mapM_append, htext, Nat.zero_add, hmore, ← hlength]
    cases (linesOf later).zipIdx.mapM fun (line, row) ↦ lexer.tokensOfLine line row <;> rfl

theorem lex_append_signedPairs :
    (∀ rule ∈ signedPairs.rules, rule.HasPattern ∨ rule.CopiesRow) ∧
    (∀ c ∈ "a1\r\n".toList.getLast?, isLineBreak c = true) ∧
    ¬ ("a1\r\n".toList.getLast? = some '\r' ∧ "plus é b2\n".toList.head? = some '\n') ∧
    signedPairs.lex ("a1\r\n" ++ "plus é b2\n") = do
      let lines ← signedPairs.lex "a1\r\n"
      let more ← (signedPairs.lex "plus é b2\n").mapError (.lower lines.length)
      return lines ++ more.map (List.map (Token.lower lines.length)) := by
  have hrules : ∀ rule ∈ signedPairs.rules, rule.HasPattern ∨ rule.CopiesRow := by
    intro rule hrule
    simp only [signedPairs, pairs, List.mem_cons, List.not_mem_nil, or_false] at hrule
    rcases hrule with rfl | rfl
    · exact .inr (Rule.copiesRow_ofWord _ _ _ _)
    · exact .inl trivial
  have hlast : "a1\r\n".toList.getLast? = some '\n' := by decide
  have hended : ∀ c ∈ "a1\r\n".toList.getLast?, isLineBreak c = true := by
    rw [hlast]
    rintro c ⟨rfl⟩
    decide
  have hseam : ¬ ("a1\r\n".toList.getLast? = some '\r' ∧
      "plus é b2\n".toList.head? = some '\n') := by
    rw [hlast]
    rintro ⟨hreturn, -⟩
    exact absurd hreturn (by decide)
  exact ⟨hrules, hended, hseam, lex_append hrules hended hseam⟩

end Lexer

end Linewise
