import Linewise.Proofs.Strays
import Linewise.Proofs.TwoPhases

namespace Linewise.Lexer

section

variable {lexer : Lexer} {line : String} {row position middle stop : Nat} {steps : List Step}
  {outcome : Except Nat (List Step)}

theorem Classifies.append (h : lexer.Leads line row position steps middle)
    (hrest : lexer.Classifies line row middle outcome) :
    lexer.Classifies line row position (outcome.map (steps ++ ·)) := by
  induction h with
  | nil => cases outcome <;> exact hrest
  | cons hstep _ ih =>
    have hfirst := Classifies.step hstep (ih hrest)
    cases outcome <;> exact hfirst

theorem Classifies.exists_rest (hleads : lexer.Leads line row 0 steps middle)
    (h : lexer.Classifies line row 0 outcome) :
    ∃ rest, lexer.Classifies line row middle rest ∧ outcome = rest.map (steps ++ ·) := by
  obtain ⟨cursor, rfl, rfl⟩ := Cursor.exists_of_isPlace (hleads.isPlace (isPlace_zero line))
  obtain ⟨rest, hrest⟩ := exists_classifies lexer row cursor
  have hunique := existsUnique_classifies lexer cursor.line row
  exact ⟨rest, hrest, hunique.unique h (.append hleads hrest)⟩

theorem Leads.start_lt (h : lexer.Leads line row position steps stop) {token : Token}
    (htoken : .token token ∈ steps) : token.start < stop := by
  induction h with
  | nil => cases htoken
  | cons hstep hrest ih =>
    obtain rfl | hlater := List.mem_cons.1 htoken
    · cases hstep with
      | token hpicks =>
        obtain ⟨hstart, hlt, -⟩ := hpicks.fits
        have hle := hrest.le
        omega
    · exact ih hlater

theorem Leads.filter_gatherFrom {matched : List Token}
    (h : lexer.Leads line row position (matched.map .token) middle)
    (hrest : lexer.Leads line row middle steps stop) (label : String) :
    (gatherFrom (some label) none (matched.map .token ++ steps)).filter (·.start < middle) =
      matched := by
  rw [gatherFrom_append (by simp [Step.strayChar?]), gatherFrom_token, List.filter_append,
    List.filter_eq_self.2, List.filter_eq_nil_iff.2, List.append_nil]
  · intro token htoken
    have hle := (hrest.gathered none (by simp) htoken).1
    simpa using hle
  · intro token htoken
    simpa using h.start_lt (List.mem_map_of_mem htoken)

end

variable {rules : List Rule} {line : String} {row position next stop : Nat} {steps : List Step}

theorem StepAt.relaxed {step : Step} (h : (strict rules false).StepAt line row position step next)
    (more : List Rule) (skipBlanks : Bool) :
    (strict (rules ++ more) skipBlanks).StepAt line row position step next ∧
      ∃ token, step = .token token := by
  cases h with
  | @token token hpicks =>
    obtain ⟨earlier, rule, later, hrules, hoffers, hothers⟩ := hpicks
    have hmore : rules ++ more = earlier ++ rule :: (later ++ more) := by
      rw [show rules = earlier ++ rule :: later from hrules, List.append_assoc, List.cons_append]
    exact ⟨.token ⟨earlier, rule, later ++ more, hmore, hoffers, hothers⟩, token, rfl⟩
  | blank _ hskip => cases hskip
  | stray _ _ _ hlabel => cases hlabel

theorem Leads.relaxed (h : (strict rules false).Leads line row position steps stop)
    (more : List Rule) (skipBlanks : Bool) :
    (strict (rules ++ more) skipBlanks).Leads line row position steps stop ∧
      ∃ tokens : List Token, steps = tokens.map .token := by
  induction h with
  | nil position => exact ⟨.nil position, [], rfl⟩
  | cons hstep _ ih =>
    obtain ⟨hrelaxed, token, rfl⟩ := hstep.relaxed more skipBlanks
    obtain ⟨hrest, tokens, rfl⟩ := ih
    exact ⟨.cons hrelaxed hrest, token :: tokens, rfl⟩

theorem tokensOfLine_relaxed {tokens : List Token}
    (h : (strict rules false).tokensOfLine line row = .ok tokens) (more : List Rule)
    (skipBlanks : Bool) :
    (strict (rules ++ more) skipBlanks).tokensOfLine line row = .ok tokens := by
  obtain ⟨steps, hsteps, htokens⟩ := tokensOfLine_eq_ok_iff.1 h
  exact tokensOfLine_eq_ok_iff.2 ⟨steps, (Leads.relaxed hsteps more skipBlanks).1, htokens⟩

/-- Where the strict lexer is stuck in a line, the other is stuck no earlier. If it is not stuck at
all, it has the tokens of the strict one and then such as start no earlier. -/
theorem tokensOfLine_relaxed_of_stuck {error : ScanError}
    (h : (strict rules false).tokensOfLine line row = .error error) (more : List Rule)
    (skipBlanks : Bool) :
    (∀ later, (strict (rules ++ more) skipBlanks).tokensOfLine line row = .error later →
      error.position ≤ later.position) ∧
    ∀ tokens, (strict (rules ++ more) skipBlanks).tokensOfLine line row = .ok tokens →
      (strict rules false).Leads line row 0
        ((tokens.filter (·.start < error.position)).map .token) error.position := by
  obtain ⟨-, -, -, -, steps, hleads⟩ := tokensOfLine_eq_error_iff.1 h
  obtain ⟨hrelaxed, matched, rfl⟩ := hleads.relaxed more skipBlanks
  constructor
  · intro later hlater
    obtain ⟨-, -, hstuck⟩ := tokensOfLine_eq_error_iff.1 hlater
    obtain ⟨rest, hrest, houtcome⟩ := hstuck.exists_rest hrelaxed
    cases rest with
    | ok => cases houtcome
    | error place =>
      obtain rfl : later.position = place := Except.error.inj houtcome
      obtain ⟨-, -, past, hpast⟩ := hrest
      exact hpast.le
  · intro tokens htokens
    obtain ⟨all, hall, rfl⟩ := tokensOfLine_eq_ok_iff.1 htokens
    obtain ⟨rest, hrest, houtcome⟩ := hall.exists_rest hrelaxed
    cases rest with
    | error => cases houtcome
    | ok later =>
      obtain rfl : all = matched.map .token ++ later := Except.ok.inj houtcome
      rw [gather_eq_gatherFrom, hrelaxed.filter_gatherFrom hrest]
      exact hleads

/-- A lexer that is strict about all that its rules do not want gets more rules behind its own, or
skips blanks. If it has tokens for a text, they stay the same. If not, the other lexer fails at no
earlier place, and if it does not fail, it keeps the tokens of the lines before that place and those
before it in its line. -/
theorem lex_relaxed (rules more : List Rule) (skipBlanks : Bool) (text : String) :
    (∀ lines, (strict rules false).lex text = .ok lines →
      (strict (rules ++ more) skipBlanks).lex text = .ok lines) ∧
    ∀ error, (strict rules false).lex text = .error error →
      (∀ later, (strict (rules ++ more) skipBlanks).lex text = .error later →
        toLex (error.row, error.position) ≤ toLex (later.row, later.position)) ∧
      ∀ lines, (strict (rules ++ more) skipBlanks).lex text = .ok lines →
        (∀ row < error.row, ∃ line tokens, (linesOf text)[row]? = some line ∧
          lines[row]? = some tokens ∧ (strict rules false).tokensOfLine line row = .ok tokens) ∧
        ∃ tokens, lines[error.row]? = some tokens ∧
          (strict rules false).Leads error.line error.row 0
            ((tokens.filter (·.start < error.position)).map .token) error.position := by
  constructor
  · intro lines hlines
    rw [lex_eq_ok_iff] at hlines ⊢
    exact hlines.imp fun _ _ h ↦ tokensOfLine_relaxed h more skipBlanks
  intro error herror
  obtain ⟨hline, hstuck, hbefore⟩ := rows_of_lex_error herror
  obtain ⟨hplace, htokens⟩ := tokensOfLine_relaxed_of_stuck hstuck more skipBlanks
  constructor
  · intro later hlater
    obtain ⟨hline', hstuck', -⟩ := rows_of_lex_error hlater
    rw [Prod.Lex.toLex_le_toLex]
    rcases Nat.lt_trichotomy error.row later.row with hlt | heq | hgt
    · exact .inl hlt
    · rw [← heq, hline, Option.some.injEq] at hline'
      rw [← heq, ← hline'] at hstuck'
      exact .inr ⟨heq, hplace later hstuck'⟩
    · -- A line before the one that stops the strict lexer has tokens, so it stops neither.
      obtain ⟨line, tokens, hat, hok⟩ := hbefore later.row hgt
      obtain rfl := Option.some.inj (hat.symm.trans hline')
      rw [tokensOfLine_relaxed hok] at hstuck'
      cases hstuck'
  · intro lines hlines
    constructor
    · intro row hrow
      obtain ⟨line, tokens, hat, hok⟩ := hbefore row hrow
      have hkept := tokensOfLine_relaxed hok more skipBlanks
      exact ⟨line, tokens, hat, (getElem?_of_lex hlines).2 ⟨line, hat, hkept⟩, hok⟩
    · have hrow : error.row < lines.length := by
        rw [← (lex_eq_ok_iff.1 hlines).length_eq, List.length_zipIdx]
        exact (List.getElem?_eq_some_iff.1 hline).1
      have hfound := List.getElem?_eq_getElem hrow
      obtain ⟨line, hat, hkept⟩ := (getElem?_of_lex hlines).1 hfound
      obtain rfl := Option.some.inj (hline.symm.trans hat)
      exact ⟨_, hfound, htokens _ hkept⟩

theorem lex_relaxed_pairs :
    (∃ lines, (strict pairs.rules false).lex "a1" = .ok lines ∧
      (strict (pairs.rules ++ [.ofWord "accent" "é" "é" 0]) true).lex "a1" = .ok lines) ∧
    ∃ error lines, (strict pairs.rules false).lex "a1 é" = .error error ∧
      (strict (pairs.rules ++ [.ofWord "accent" "é" "é" 0]) true).lex "a1 é" = .ok lines ∧
      ∃ tokens, lines[error.row]? = some tokens ∧
        (strict pairs.rules false).Leads error.line error.row 0
          ((tokens.filter (·.start < error.position)).map .token) error.position := by
  have hwhole : (strict pairs.rules false).step? (.start "a1") 0 =
      some (.token ⟨"pair", "a1", 0, 0, [⟨"letter", "a", 0, 0, []⟩, ⟨"digit", "1", 1, 0, []⟩]⟩,
        (Cursor.start "a1").forward 2) := rfl
  have hok : (strict pairs.rules false).lex "a1" = .ok
      [[⟨"pair", "a1", 0, 0, [⟨"letter", "a", 0, 0, []⟩, ⟨"digit", "1", 1, 0, []⟩]⟩]] := by
    rw [lex_eq_ok_iff, show linesOf "a1" = ["a1"] by decide]
    refine .cons ?_ .nil
    rw [tokensOfLine_eq, stepsFrom_of_step? hwhole, stepsFrom_of_atEnd rfl]
    rfl
  have hlines : linesOf "a1 é" = ["a1 é"] := by decide
  have hpair (more : List Rule) (skipBlanks : Bool) :
      (strict (pairs.rules ++ more) skipBlanks).step? (.start "a1 é") 0 =
        some (.token ⟨"pair", "a1", 0, 0, [⟨"letter", "a", 0, 0, []⟩, ⟨"digit", "1", 1, 0, []⟩]⟩,
          (Cursor.start "a1 é").forward 2) := rfl
  have hstuck : (strict pairs.rules false).step? ((Cursor.start "a1 é").forward 2) 0 = none := rfl
  have hblank : (strict (pairs.rules ++ [.ofWord "accent" "é" "é" 0]) true).step?
      ((Cursor.start "a1 é").forward 2) 0 =
        some (.blank ' ', (Cursor.start "a1 é").forward 3) := rfl
  have haccent : (strict (pairs.rules ++ [.ofWord "accent" "é" "é" 0]) true).step?
      ((Cursor.start "a1 é").forward 3) 0 =
        some (.token ⟨"accent", "é", 3, 0, []⟩, (Cursor.start "a1 é").forward 4) := rfl
  have hend : ((Cursor.start "a1 é").forward 4).atEnd = true := rfl
  have herror : (strict pairs.rules false).lex "a1 é" = .error ⟨"a1 é", 2, 0⟩ := by
    refine lex_eq_error_iff.2 ⟨[], "a1 é", [], hlines, by simp, ?_⟩
    have hfirst := hpair [] false
    rw [List.append_nil] at hfirst
    rw [tokensOfLine_eq, List.length_nil, stepsFrom_of_step? hfirst, stepsFrom_of_stuck rfl hstuck]
    rfl
  have hlex : (strict (pairs.rules ++ [.ofWord "accent" "é" "é" 0]) true).lex "a1 é" =
      .ok [[⟨"pair", "a1", 0, 0, [⟨"letter", "a", 0, 0, []⟩, ⟨"digit", "1", 1, 0, []⟩]⟩,
        ⟨"accent", "é", 3, 0, []⟩]] := by
    rw [lex_eq_ok_iff, hlines]
    refine .cons ?_ .nil
    rw [tokensOfLine_eq, stepsFrom_of_step? (hpair _ _), stepsFrom_of_step? hblank,
      stepsFrom_of_step? haccent, stepsFrom_of_atEnd hend]
    rfl
  exact ⟨⟨_, hok, (lex_relaxed _ _ _ _).1 _ hok⟩,
    _, _, herror, hlex, (((lex_relaxed _ _ _ _).2 _ herror).2 _ hlex).2⟩

end Linewise.Lexer
