import Linewise.Proofs.Strays
import Linewise.Proofs.Words

namespace Linewise

/-- The step that a lexer makes if it skips blanks, in place of the step of one that does not. -/
def Step.skipped : Step → Step
  | .token found => .token found
  | .blank c => .blank c
  | .stray c position row => if isBlank c then .blank c else .stray c position row

def charSteps (row : Nat) : Nat → List Char → List Step
  | _, [] => []
  | position, c :: cs =>
    Step.skipped (.stray c position row) :: charSteps row (position + c.utf8Size) cs

def StrayRun.steps (run : StrayRun) : List Step :=
  charSteps run.row run.start run.text.toList

/-- The tokens with those under the label split into their words. -/
def Token.withoutBlanks (label : String) (tokens : List Token) : List Token :=
  tokens.flatMap fun token ↦ if token.label = label then token.words else [token]

section

variable {row position : Nat} {cs : List Char}

theorem charSteps_append (later : List Char) :
    charSteps row position (cs ++ later) =
      charSteps row position cs ++ charSteps row (position + byteLength cs) later := by
  induction cs generalizing position with
  | nil => simp [charSteps]
  | cons c cs ih => simp [charSteps, ih, Nat.add_assoc]

theorem strayChar?_skipped (c : Char) :
    (Step.skipped (.stray c position row)).strayChar? = if isBlank c then none else some c := by
  rw [Step.skipped]
  split <;> rfl

theorem takeWhile_charSteps :
    ((charSteps row position cs).takeWhile (·.strayChar?.isSome)).filterMap Step.strayChar? =
      cs.takeWhile (!isBlank ·) := by
  induction cs generalizing position with
  | nil => rfl
  | cons c cs ih =>
    cases hc : isBlank c <;> simp [charSteps, strayChar?_skipped, hc, ih]

theorem dropWhile_charSteps :
    (charSteps row position cs).dropWhile (·.strayChar?.isSome) =
      charSteps row (position + byteLength (cs.takeWhile (!isBlank ·)))
        (cs.dropWhile (!isBlank ·)) := by
  induction cs generalizing position with
  | nil => rfl
  | cons c cs ih =>
    cases hc : isBlank c <;> simp [charSteps, strayChar?_skipped, hc, ih, Nat.add_assoc]

theorem gatherFrom_charSteps (label : String) :
    gatherFrom (some label) none (charSteps row position cs) =
      wordTokens label row position cs := by
  fun_induction wordTokens label row position cs with
  | case1 => simp [charSteps, gatherFrom]
  | case2 position c cs hc ih => simp [charSteps, Step.skipped, hc, gatherFrom, ih]
  | case3 position c cs hc word ih =>
    rw [charSteps, Step.skipped, if_neg hc, gatherFrom_stray, takeWhile_charSteps,
      dropWhile_charSteps, Nat.add_assoc, ← byteLength_cons, ih]

end

theorem StrayRun.Reaches.steps_extend {run? : Option StrayRun} {line : String}
    {row position : Nat} (hrun : ∀ run ∈ run?, run.Reaches line row position) (c : Char) :
    (StrayRun.extend run? c position row).steps =
      (run?.map StrayRun.steps).getD [] ++ [Step.skipped (.stray c position row)] := by
  cases run? with
  | none => simp [StrayRun.extend, StrayRun.steps, charSteps]
  | some run =>
    obtain ⟨rfl, -, -, rfl⟩ := hrun run rfl
    simp [StrayRun.extend, StrayRun.steps, charSteps_append, charSteps]

namespace Token

variable {label : String}

theorem withoutBlanks_cons (token : Token) (tokens : List Token) :
    withoutBlanks label (token :: tokens) =
      (if token.label = label then token.words else [token]) ++ withoutBlanks label tokens :=
  List.flatMap_cons

theorem withoutBlanks_append (tokens later : List Token) :
    withoutBlanks label (tokens ++ later) =
      withoutBlanks label tokens ++ withoutBlanks label later :=
  List.flatMap_append

theorem withoutBlanks_runTokens (run? : Option StrayRun) :
    withoutBlanks label (runTokens (some label) run?) =
      gatherFrom (some label) none ((run?.map StrayRun.steps).getD []) := by
  cases run? with
  | none => simp [withoutBlanks, gatherFrom]
  | some run =>
    dsimp only [Option.map_some, Option.getD_some]
    rw [StrayRun.steps, gatherFrom_charSteps]
    simp [withoutBlanks, runTokens, words]

theorem label_of_mem_words {token word : Token} (h : word ∈ token.words) :
    word.label = token.label := by
  obtain ⟨before, piece, after, -, -, rfl⟩ := mem_wordTokens_iff.1 h
  rfl

theorem filter_withoutBlanks (tokens : List Token) :
    (withoutBlanks label tokens).filter (·.label ≠ label) =
      tokens.filter (·.label ≠ label) := by
  induction tokens with
  | nil => rfl
  | cons token tokens ih =>
    rw [withoutBlanks_cons, List.filter_append, ih]
    by_cases hlabel : token.label = label
    · have hwords : token.words.filter (·.label ≠ label) = [] := by
        refine List.filter_eq_nil_iff.2 fun word hword ↦ ?_
        simpa [hlabel] using label_of_mem_words hword
      rw [if_pos hlabel, hwords, List.filter_cons_of_neg (by simpa using hlabel), List.nil_append]
    · rw [if_neg hlabel, List.filter_cons_of_pos (by simpa using hlabel),
        List.filter_cons_of_pos (by simpa using hlabel), List.filter_nil, List.singleton_append]

theorem unblank_of_mem_withoutBlanks {tokens : List Token} {token : Token}
    (htoken : token ∈ withoutBlanks label tokens) (hlabel : token.label = label) :
    ∀ c ∈ token.text.toList, isBlank c = false := by
  obtain ⟨source, -, htoken⟩ := List.mem_flatMap.1 htoken
  split at htoken
  · obtain ⟨before, piece, after, -, hword, rfl⟩ := mem_wordTokens_iff.1 htoken
    simpa using hword.unblank
  · next hne =>
    obtain rfl := List.mem_singleton.1 htoken
    exact absurd hlabel hne

end Token

namespace Lexer

variable {rules : List Rule} {label : String}

theorem step?_skipping (cursor : Cursor) (row : Nat) :
    (keeping rules true label).step? cursor row =
      ((keeping rules false label).step? cursor row).map fun (step, next) ↦
        (step.skipped, next) := by
  have hmatch : (keeping rules true label).match? cursor row =
      (keeping rules false label).match? cursor row := rfl
  rw [step?, step?, hmatch]
  cases (keeping rules false label).match? cursor row with
  | some found => rfl
  | none =>
    cases cursor.next? with
    | none => rfl
    | some c => cases hc : isBlank c <;> simp [keeping, Step.skipped, hc]

theorem stepsFrom_skipping (cursor : Cursor) (row : Nat) :
    (keeping rules true label).stepsFrom row cursor =
      ((keeping rules false label).stepsFrom row cursor).map (List.map Step.skipped) := by
  fun_induction (keeping rules false label).stepsFrom row cursor with
  | case1 cursor hend => exact stepsFrom_of_atEnd hend
  | case2 cursor hend hnone =>
    have hskipping := @step?_skipping rules label cursor row
    rw [hnone] at hskipping
    exact stepsFrom_of_stuck (Bool.eq_false_iff.2 hend) hskipping
  | case3 cursor hend step next hstep _ ih =>
    have hskipping := @step?_skipping rules label cursor row
    rw [hstep] at hskipping
    rw [stepsFrom_of_step? hskipping, ih]
    cases (keeping rules false label).stepsFrom row next <;> rfl

theorem Leads.withoutBlanks_gatherFrom {lexer : Lexer} {line : String} {row position stop : Nat}
    {steps : List Step} (h : lexer.Leads line row position steps stop)
    (hskip : lexer.skipBlanks = false) (havoids : ∀ rule ∈ lexer.rules, rule.Avoids label)
    (run? : Option StrayRun) (hrun : ∀ run ∈ run?, run.Reaches line row position) :
    Token.withoutBlanks label (gatherFrom (some label) run? steps) =
      gatherFrom (some label) none
        ((run?.map StrayRun.steps).getD [] ++ steps.map Step.skipped) := by
  -- The open run stands for characters that the lexer that skips has gone through step by step.
  induction h generalizing run? with
  | nil => rw [gatherFrom, Token.withoutBlanks_runTokens, List.map_nil, List.append_nil]
  | @cons position next stop step steps hstep hrest ih =>
    cases hstep with
    | @token token hpicks =>
      have hne : token.label ≠ label :=
        (Leads.cons (.token hpicks) hrest).label_ne havoids List.mem_cons_self
      have hlater := ih none (by simp)
      rw [Option.map_none, Option.getD_none, List.nil_append] at hlater
      rw [gatherFrom, Token.withoutBlanks_append, Token.withoutBlanks_runTokens,
        Token.withoutBlanks_cons, if_neg hne, hlater, List.map_cons, Step.skipped,
        gatherFrom_append_token, List.singleton_append]
    | blank _ hblanks => exact absurd hblanks (by simp [hskip])
    | @stray c _ hc =>
      obtain ⟨hreaches, -⟩ := StrayRun.Reaches.extend hrun hc
      rw [gatherFrom, ih (some (.extend run? c position row)) (by simpa using hreaches),
        Option.map_some, Option.getD_some, StrayRun.Reaches.steps_extend hrun,
        List.append_assoc, List.singleton_append, List.map_cons]

theorem tokensOfLine_skipping (havoids : ∀ rule ∈ rules, rule.Avoids label) (line : String)
    (row : Nat) :
    (keeping rules true label).tokensOfLine line row =
      ((keeping rules false label).tokensOfLine line row).map (Token.withoutBlanks label) := by
  rw [tokensOfLine_eq, tokensOfLine_eq, stepsFrom_skipping]
  cases hsteps : (keeping rules false label).stepsFrom row (.start line) with
  | error error => rfl
  | ok steps =>
    have hleads := leads_of_stepsFrom hsteps
    exact congrArg Except.ok (hleads.withoutBlanks_gatherFrom rfl havoids none (by simp)).symm

theorem isStray_of_tokensOfLine {skipBlanks : Bool} (havoids : ∀ rule ∈ rules, rule.Avoids label)
    {line : String} {row : Nat} {tokens : List Token}
    (h : (keeping rules skipBlanks label).tokensOfLine line row = .ok tokens) {token : Token}
    (htoken : token ∈ tokens) (hlabel : token.label = label) : token.IsStray label line row := by
  rw [tokensOfLine_eq] at h
  cases hsteps : (keeping rules skipBlanks label).stepsFrom row (.start line) with
  | error error =>
    rw [hsteps] at h
    cases h
  | ok steps =>
    rw [hsteps] at h
    cases h
    exact (leads_of_stepsFrom hsteps).isStray havoids htoken hlabel

/-- A lexer that keeps characters that no rule wants finds the same tokens of its rules whether it
skips blanks or not. If it skips them, it finds the words of each token that it keeps otherwise, and
so no blank is kept. -/
theorem lex_skipping (havoids : ∀ rule ∈ rules, rule.Avoids label) (text : String) :
    ∃ lines, (keeping rules false label).lex text = .ok lines ∧
      (keeping rules true label).lex text = .ok (lines.map (Token.withoutBlanks label)) ∧
      ∀ row line tokens, (linesOf text)[row]? = some line → lines[row]? = some tokens →
        (Token.withoutBlanks label tokens).filter (·.label ≠ label) =
          tokens.filter (·.label ≠ label) ∧
        (∀ token ∈ tokens, token.label = label →
          token.IsStray label line row ∧ token.SplitsInto token.words) ∧
        ∀ token ∈ Token.withoutBlanks label tokens, token.label = label →
          token.IsStray label line row ∧ ∀ c ∈ token.text.toList, isBlank c = false := by
  obtain ⟨lines, hlines⟩ := @exists_lex_keeping rules false label text
  refine ⟨lines, hlines, ?_, fun row line tokens hline htokens ↦ ?_⟩
  · rw [lex_eq_lexByLine, lexByLine] at hlines ⊢
    simp only [tokensOfLine_skipping havoids]
    rw [mapM_map_result, hlines]
    rfl
  · obtain ⟨line', hline', hkept⟩ := (getElem?_of_lex hlines).1 htokens
    obtain rfl := Option.some.inj (hline.symm.trans hline')
    have hskipping := @tokensOfLine_skipping rules label havoids line row
    rw [hkept] at hskipping
    refine ⟨Token.filter_withoutBlanks tokens, ?_, ?_⟩
    · intro token htoken hlabel
      exact ⟨isStray_of_tokensOfLine havoids hkept htoken hlabel, token.splitsInto_words⟩
    · intro token htoken hlabel
      exact ⟨isStray_of_tokensOfLine havoids hskipping htoken hlabel,
        Token.unblank_of_mem_withoutBlanks htoken hlabel⟩

theorem lex_skipping_signedPairs :
    (∀ rule ∈ signedPairs.rules, rule.Avoids "?") ∧
    ∃ lines, (keeping signedPairs.rules false "?").lex "é ß\u3000+a1 plus\n " = .ok lines ∧
      (keeping signedPairs.rules true "?").lex "é ß\u3000+a1 plus\n " =
        .ok (lines.map (Token.withoutBlanks "?")) ∧
      ∀ row line tokens, (linesOf "é ß\u3000+a1 plus\n ")[row]? = some line →
        lines[row]? = some tokens →
        (Token.withoutBlanks "?" tokens).filter (·.label ≠ "?") = tokens.filter (·.label ≠ "?") ∧
        (∀ token ∈ tokens, token.label = "?" →
          token.IsStray "?" line row ∧ token.SplitsInto token.words) ∧
        ∀ token ∈ Token.withoutBlanks "?" tokens, token.label = "?" →
          token.IsStray "?" line row ∧ ∀ c ∈ token.text.toList, isBlank c = false :=
  have havoids := avoids_signedPairs (by decide) (by decide)
  ⟨havoids, lex_skipping havoids "é ß\u3000+a1 plus\n "⟩

end Lexer

end Linewise
