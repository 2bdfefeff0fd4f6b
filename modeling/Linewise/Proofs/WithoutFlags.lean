import Linewise.Proofs.Merging
import Linewise.Proofs.OneCharacter

namespace Linewise

namespace Lexer

/-- The labels of the rules that stand for the flags, with the text of their patterns. -/
def flagParts (lexer : Lexer) (blankLabel : String) : List (String × String) :=
  (if lexer.skipBlanks then [(blankLabel, "\\s")] else []) ++
    lexer.strayLabel?.toList.map (·, "(?s).")

def withoutFlags (lexer : Lexer) (blankLabel : String) : Except Error Lexer :=
  (compileParts (lexer.flagParts blankLabel)).map fun rules ↦
    ⟨lexer.rules ++ rules.map .simple, false, none⟩

/-- The tokens without those for blanks, and with strays that touch put together. -/
def mergeFlags (lexer : Lexer) (blankLabel : String) (tokens : List Token) : List Token :=
  mergeTouching lexer.strayLabel? (tokens.filter (·.label ≠ blankLabel))

/-- No rule of the lexer finds a token with the label of a rule that stands for a flag. -/
def KeepsClear (lexer : Lexer) (blankLabel : String) : Prop :=
  ∀ rule ∈ lexer.rules, ∀ line position row token, rule.tokenAt? line position row = some token →
    token.label ≠ blankLabel ∧ lexer.strayLabel? ≠ some token.label

def flagRules (lexer : Lexer) (blankLabel : String) : List Rule :=
  (if lexer.skipBlanks then [.simple ⟨blankLabel, .blank⟩] else []) ++
    lexer.strayLabel?.toList.map (.simple ⟨·, .any⟩)

def plain (lexer : Lexer) (blankLabel : String) : Lexer :=
  ⟨lexer.rules ++ lexer.flagRules blankLabel, false, none⟩

variable (lexer : Lexer) (blankLabel : String)

theorem withoutFlags_eq : lexer.withoutFlags blankLabel = .ok (lexer.plain blankLabel) := by
  have hblank (label : String) : SimpleRule.ofSource label "\\s" = .ok ⟨label, .blank⟩ := by
    rw [SimpleRule.ofSource, Pattern.ofSource, Pattern.compile_blank]
    rfl
  have hany (label : String) : SimpleRule.ofSource label "(?s)." = .ok ⟨label, .any⟩ := by
    rw [SimpleRule.ofSource, Pattern.ofSource, Pattern.compile_any]
    rfl
  obtain ⟨rules, skipBlanks, strayLabel?⟩ := lexer
  cases skipBlanks <;> cases strayLabel? <;>
    simp [withoutFlags, compileParts, flagParts, plain, flagRules, hblank, hany, Except.map,
      bind, Except.bind, pure, Except.pure]

theorem findSome?_flagRules (cursor : Cursor) (row : Nat) :
    (lexer.flagRules blankLabel).findSome? (·.taken? cursor row) =
      cursor.next?.bind fun c ↦
        if lexer.skipBlanks && isBlank c then
          some (.ofChar blankLabel c cursor.position row, cursor.forward 1)
        else
          lexer.strayLabel?.map fun label ↦
            (.ofChar label c cursor.position row, cursor.forward 1) := by
  have hblank := Rule.taken?_of_readsOne Pattern.readsOne_blank
  have hany := Rule.taken?_of_readsOne Pattern.readsOne_any
  obtain ⟨rules, skipBlanks, strayLabel?⟩ := lexer
  cases hnext : cursor.next? with
  | none => cases skipBlanks <;> cases strayLabel? <;> simp [flagRules, hblank, hany, hnext]
  | some c =>
    cases hc : isBlank c <;> cases skipBlanks <;> cases strayLabel? <;>
      simp [flagRules, hblank, hany, hnext, hc, Option.filter]

def tokenOf (position row : Nat) : Step → Token
  | .token token => token
  | .blank c => .ofChar blankLabel c position row
  | .stray c _ _ => .ofChar (lexer.strayLabel?.getD "") c position row

theorem step?_of_bare {lexer : Lexer} (hskip : lexer.skipBlanks = false)
    (hstray : lexer.strayLabel? = none) (cursor : Cursor) (row : Nat) :
    lexer.step? cursor row =
      (lexer.match? cursor row).map fun (token, next) ↦ (.token token, next) := by
  rw [step?, hskip, hstray]
  cases lexer.match? cursor row with
  | none => cases cursor.next? <;> rfl
  | some found => rfl

theorem step?_plain (cursor : Cursor) (row : Nat) :
    (lexer.plain blankLabel).step? cursor row =
      (lexer.step? cursor row).map fun (step, next) ↦
        (.token (lexer.tokenOf blankLabel cursor.position row step), next) := by
  have hmatch : (lexer.plain blankLabel).match? cursor row =
      (lexer.match? cursor row).or
        ((lexer.flagRules blankLabel).findSome? (·.taken? cursor row)) := by
    rw [match?_eq_findSome?, match?_eq_findSome?, plain, List.findSome?_append]
  rw [step?_of_bare rfl rfl, hmatch, findSome?_flagRules, step?]
  cases lexer.match? cursor row with
  | some found => rfl
  | none =>
    cases cursor.next? with
    | none => rfl
    | some c =>
      dsimp only [Option.none_or, Option.bind_some]
      cases lexer.skipBlanks && isBlank c with
      | true => rfl
      | false => cases hlabel : lexer.strayLabel? <;> simp [tokenOf, hlabel]

def tokensFrom (row : Nat) : Nat → List Step → List Token
  | _, [] => []
  | position, step :: steps =>
    let token := lexer.tokenOf blankLabel position row step
    token :: tokensFrom row token.stop steps

variable {lexer blankLabel} {line : String} {row position next : Nat} {step : Step}

theorem StepAt.tokenOf_place (h : lexer.StepAt line row position step next) :
    (lexer.tokenOf blankLabel position row step).start = position ∧
      (lexer.tokenOf blankLabel position row step).stop = next := by
  cases h with
  | token hpicks => exact ⟨hpicks.fits.1, rfl⟩
  | blank | stray => exact ⟨rfl, Token.stop_ofChar _ _ _ _⟩

theorem stepsFrom_plain (cursor : Cursor) :
    (lexer.plain blankLabel).stepsFrom row cursor =
      (lexer.stepsFrom row cursor).map fun steps ↦
        (lexer.tokensFrom blankLabel row cursor.position steps).map .token := by
  fun_induction lexer.stepsFrom row cursor with
  | case1 cursor hend =>
    rw [stepsFrom_of_atEnd hend]
    rfl
  | case2 cursor hend hnone =>
    have hplain := step?_plain lexer blankLabel cursor row
    rw [hnone] at hplain
    rw [stepsFrom_of_stuck (Bool.eq_false_iff.2 hend) hplain]
    rfl
  | case3 cursor hend step next hstep _ ih =>
    have hplain := step?_plain lexer blankLabel cursor row
    rw [hstep] at hplain
    have hstop : (lexer.tokenOf blankLabel cursor.position row step).stop = next.position :=
      (stepAt_of_step? hstep).1.tokenOf_place.2
    rw [stepsFrom_of_step? hplain, ih]
    cases lexer.stepsFrom row next with
    | error error => rfl
    | ok steps => simp [Except.map, tokensFrom, hstop]

theorem Leads.le_start {stop : Nat} {steps : List Step}
    (h : lexer.Leads line row position steps stop) :
    ∀ token ∈ lexer.tokensFrom blankLabel row position steps, position ≤ token.start := by
  induction h with
  | nil => simp [tokensFrom]
  | cons hstep _ ih =>
    obtain ⟨hstart, hstop⟩ : _ ∧ _ := hstep.tokenOf_place
    rw [tokensFrom, hstop]
    refine List.forall_mem_cons.2 ⟨Nat.le_of_eq hstart.symm, fun token htoken ↦ ?_⟩
    exact Nat.le_trans (Nat.le_of_lt hstep.lt) (ih token htoken)

theorem Picks.labels (hclear : lexer.KeepsClear blankLabel) {token : Token}
    (h : lexer.Picks line position row token) :
    token.label ≠ blankLabel ∧ lexer.strayLabel? ≠ some token.label := by
  obtain ⟨rule, hrule, hfound, -⟩ := h.exists_offers
  exact hclear rule hrule line position row token hfound

theorem mergeFlags_runTokens (hlabel : lexer.strayLabel? ≠ some blankLabel)
    (run? : Option StrayRun) (tokens : List Token) :
    lexer.mergeFlags blankLabel (runTokens lexer.strayLabel? run? ++ tokens) =
      mergeTouching lexer.strayLabel? (runTokens lexer.strayLabel? run? ++
        tokens.filter (·.label ≠ blankLabel)) := by
  rw [mergeFlags, List.filter_append]
  congr 2
  refine List.filter_eq_self.2 fun token htoken ↦ ?_
  cases hstray : lexer.strayLabel? with
  | none =>
    rw [hstray] at htoken
    cases htoken
  | some label =>
    rw [hstray] at htoken hlabel
    cases run? with
    | none => cases htoken
    | some run =>
      obtain rfl := List.mem_singleton.1 htoken
      simpa using hlabel

theorem Leads.gatherFrom_eq (hlabel : lexer.strayLabel? ≠ some blankLabel)
    (hclear : lexer.KeepsClear blankLabel) {stop : Nat} {steps : List Step}
    (h : lexer.Leads line row position steps stop) (run? : Option StrayRun)
    (hrun : ∀ run ∈ run?, run.Reaches line row position) :
    gatherFrom lexer.strayLabel? run? steps =
      lexer.mergeFlags blankLabel (runTokens lexer.strayLabel? run? ++
        lexer.tokensFrom blankLabel row position steps) := by
  rw [mergeFlags_runTokens hlabel]
  -- The open run stands for the strays before the position, so it ends where the next token starts.
  induction h generalizing run? with
  | nil =>
    rw [tokensFrom, List.filter_nil, mergeTouching_runTokens hrun (by simp)]
    simp [gatherFrom, mergeTouching]
  | @cons position next stop step steps hstep hrest ih =>
    have hstop : (lexer.tokenOf blankLabel position row step).stop = next :=
      hstep.tokenOf_place.2
    rw [tokensFrom, hstop]
    cases hstep with
    | @token token hpicks =>
      obtain ⟨hblank, hstray⟩ := hpicks.labels hclear
      rw [tokenOf, List.filter_cons_of_pos (by simpa using hblank)]
      have hhead : ∀ next ∈ (token :: (lexer.tokensFrom blankLabel row token.stop steps).filter
          (·.label ≠ blankLabel)).head?,
          lexer.strayLabel? ≠ some next.label ∨ position < next.start := by
        rintro next ⟨rfl⟩
        exact .inl hstray
      rw [mergeTouching_runTokens hrun hhead, mergeTouching_cons_of_label hstray, gatherFrom,
        ih none (by simp)]
      simp
    | @blank c hdeclines hskip hc hblank =>
      rw [tokenOf, List.filter_cons_of_neg (by simp [Token.ofChar])]
      -- The blank is dropped, but what comes behind it starts too late to touch the run.
      have hhead : ∀ next ∈ ((lexer.tokensFrom blankLabel row (position + c.utf8Size) steps).filter
          (·.label ≠ blankLabel)).head?,
          lexer.strayLabel? ≠ some next.label ∨ position < next.start := by
        intro next hnext
        have hmem := List.mem_of_mem_filter (List.mem_of_mem_head? hnext)
        have hle := hrest.le_start next hmem
        have hpos := c.utf8Size_pos
        exact .inr (by omega)
      rw [mergeTouching_runTokens hrun hhead, gatherFrom, ih none (by simp)]
      simp
    | @stray c _ hc _ hstray =>
      obtain ⟨label, hsome⟩ := Option.isSome_iff_exists.1 hstray
      have hne : label ≠ blankLabel := fun h ↦ hlabel (hsome.trans (congrArg some h))
      obtain ⟨hreaches, -⟩ := StrayRun.Reaches.extend hrun hc
      rw [tokenOf, List.filter_cons_of_pos (by simpa [Token.ofChar, hsome] using hne), gatherFrom,
        ih (some (.extend run? c position row)) (by simpa using hreaches), hsome]
      exact (mergeTouching_stray hrun c).symm

theorem tokensOfLine_eq_plain (hlabel : lexer.strayLabel? ≠ some blankLabel)
    (hclear : lexer.KeepsClear blankLabel) (line : String) (row : Nat) :
    lexer.tokensOfLine line row =
      ((lexer.plain blankLabel).tokensOfLine line row).map (lexer.mergeFlags blankLabel) := by
  rw [tokensOfLine_eq, tokensOfLine_eq, stepsFrom_plain]
  cases hsteps : lexer.stepsFrom row (.start line) with
  | error error => rfl
  | ok steps =>
    have hleads := leads_of_stepsFrom hsteps
    refine congrArg Except.ok ((hleads.gatherFrom_eq hlabel hclear none (by simp)).trans ?_)
    rw [runTokens_none, List.nil_append]
    exact congrArg _ (gatherFrom_token _).symm

/-- The flags of a lexer are short for rules behind its own. The lexer with such rules in their
place fails where it fails, and otherwise finds the same, but for the tokens of blanks and for one
token for each stray. -/
theorem lex_withoutFlags (hlabel : lexer.strayLabel? ≠ some blankLabel)
    (hclear : lexer.KeepsClear blankLabel) :
    ∃ plain, lexer.withoutFlags blankLabel = .ok plain ∧
      plain.skipBlanks = false ∧ plain.strayLabel? = none ∧
      ∀ text, lexer.lex text = (plain.lex text).map (List.map (lexer.mergeFlags blankLabel)) := by
  refine ⟨lexer.plain blankLabel, withoutFlags_eq lexer blankLabel, rfl, rfl, fun text ↦ ?_⟩
  rw [lex_eq_lexByLine, lex_eq_lexByLine, lexByLine, lexByLine, ← mapM_map_result]
  refine congrArg (List.mapM · _) (funext fun entry ↦ ?_)
  exact tokensOfLine_eq_plain hlabel hclear entry.1 entry.2

def sums : Lexer where
  rules := [
    .simple ⟨"number", ⟨"[0-9]", (Regex.char (.range 0x30 0x39)).program⟩⟩,
    .ofWord "sign" "plus" "+" 0]
  skipBlanks := true
  strayLabel? := some "?"

theorem lex_withoutFlags_sums :
    sums.strayLabel? ≠ some "blank" ∧ sums.KeepsClear "blank" ∧
    ∃ plain, sums.withoutFlags "blank" = .ok plain ∧
      plain.skipBlanks = false ∧ plain.strayLabel? = none ∧
      ∀ text, sums.lex text = (plain.lex text).map (List.map (sums.mergeFlags "blank")) := by
  have hlabel : sums.strayLabel? ≠ some "blank" := by decide
  have hclear : sums.KeepsClear "blank" := by
    intro rule hrule line position row token hfound
    simp only [Rule.tokenAt?, Option.bind_eq_bind, Option.bind_eq_some_iff] at hfound
    obtain ⟨cursor, -, hfound⟩ := hfound
    simp only [sums, List.mem_cons, List.not_mem_nil, or_false] at hrule
    rcases hrule with rfl | rfl
    · obtain ⟨text, -, rfl⟩ := Option.map_eq_some_iff.1 hfound
      exact ⟨(by decide : "number" ≠ "blank"), (by decide : some "?" ≠ some "number")⟩
    · obtain ⟨place, -, hfound⟩ := Option.bind_eq_some_iff.1 hfound
      split at hfound
      · cases hfound
        exact ⟨(by decide : "sign" ≠ "blank"), (by decide : some "?" ≠ some "sign")⟩
      · cases hfound
  exact ⟨hlabel, hclear, lex_withoutFlags hlabel hclear⟩

end Lexer

end Linewise
