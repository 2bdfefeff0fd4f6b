import Linewise.Lexer.Steps
import Linewise.Proofs.Place

namespace Linewise

def Rule.Offers (rule : Rule) (line : String) (position row : Nat) (token : Token) : Prop :=
  rule.tokenAt? line position row = some token ∧ token.Fits line position

theorem Rule.tokenAt?_position (rule : Rule) (cursor : Cursor) (row : Nat) :
    rule.tokenAt? cursor.line cursor.position row = rule.token? cursor row := by
  simp [tokenAt?]

def Rule.taken? (rule : Rule) (cursor : Cursor) (row : Nat) : Option (Token × Cursor) := do
  let token ← rule.token? cursor row
  let next ← cursor.accept? token
  some (token, next)

theorem Rule.taken?_eq_some_iff {rule : Rule} {cursor next : Cursor} {row : Nat} {token : Token} :
    rule.taken? cursor row = some (token, next) ↔
      rule.Offers cursor.line cursor.position row token ∧ next.line = cursor.line ∧
        next.position = token.stop := by
  rw [Offers, tokenAt?_position, and_assoc, ← Cursor.accept?_eq_some_iff]
  simp only [taken?, Option.bind_eq_bind, Option.bind_eq_some_iff, Option.some.injEq,
    Prod.mk.injEq]
  constructor
  · rintro ⟨_, hfound, _, haccept, rfl, rfl⟩
    exact ⟨hfound, haccept⟩
  · rintro ⟨hfound, haccept⟩
    exact ⟨token, hfound, next, haccept, rfl, rfl⟩

theorem Rule.taken?_eq_none_iff {rule : Rule} {cursor : Cursor} {row : Nat} :
    rule.taken? cursor row = none ↔
      ∀ token, ¬ rule.Offers cursor.line cursor.position row token := by
  rw [Option.eq_none_iff_forall_ne_some, Prod.forall]
  constructor
  · intro h token hoffers
    obtain ⟨next, hline, hposition⟩ := Cursor.exists_of_isPlace hoffers.2.2.2
    exact h token next (taken?_eq_some_iff.2 ⟨hoffers, hline, hposition⟩)
  · intro h token next hfound
    exact h token (taken?_eq_some_iff.1 hfound).1

namespace Lexer

def Declines (lexer : Lexer) (line : String) (position row : Nat) : Prop :=
  ∀ rule ∈ lexer.rules, ∀ token, ¬ rule.Offers line position row token

/-- The first rule of the lexer that offers a token at the byte position offers this one. -/
def Picks (lexer : Lexer) (line : String) (position row : Nat) (token : Token) : Prop :=
  ∃ earlier rule later, lexer.rules = earlier ++ rule :: later ∧
    rule.Offers line position row token ∧
    ∀ other ∈ earlier, ∀ token, ¬ other.Offers line position row token

inductive StepAt (lexer : Lexer) (line : String) (row position : Nat) : Step → Nat → Prop
  | token {token : Token} (hpicks : lexer.Picks line position row token) :
      StepAt lexer line row position (.token token) token.stop
  | blank {c : Char} (hdeclines : lexer.Declines line position row)
      (hskip : lexer.skipBlanks = true) (hc : PieceAt line position [c])
      (hblank : isBlank c = true) :
      StepAt lexer line row position (.blank c) (position + c.utf8Size)
  | stray {c : Char} (hdeclines : lexer.Declines line position row)
      (hc : PieceAt line position [c]) (hkept : ¬ (lexer.skipBlanks = true ∧ isBlank c = true))
      (hlabel : lexer.strayLabel?.isSome = true) :
      StepAt lexer line row position (.stray c position row) (position + c.utf8Size)

inductive Leads (lexer : Lexer) (line : String) (row : Nat) : Nat → List Step → Nat → Prop
  | nil (position : Nat) : Leads lexer line row position [] position
  | cons {position next stop : Nat} {step : Step} {steps : List Step}
      (hstep : lexer.StepAt line row position step next)
      (hrest : Leads lexer line row next steps stop) :
      Leads lexer line row position (step :: steps) stop

/-- What a line comes to from a byte position on: the steps that lead to its end, or else the
position to which steps lead and where there is none. -/
def Classifies (lexer : Lexer) (line : String) (row position : Nat) :
    Except Nat (List Step) → Prop
  | .ok steps => lexer.Leads line row position steps line.utf8ByteSize
  | .error stop => stop < line.utf8ByteSize ∧
      (∀ step next, ¬ lexer.StepAt line row stop step next) ∧
      ∃ steps, lexer.Leads line row position steps stop

theorem match?_eq_findSome? (lexer : Lexer) (cursor : Cursor) (row : Nat) :
    lexer.match? cursor row = lexer.rules.findSome? (·.taken? cursor row) := rfl

theorem match?_eq_some_iff {lexer : Lexer} {cursor next : Cursor} {row : Nat} {token : Token} :
    lexer.match? cursor row = some (token, next) ↔
      lexer.Picks cursor.line cursor.position row token ∧ next.line = cursor.line ∧
        next.position = token.stop := by
  simp only [match?_eq_findSome?, List.findSome?_eq_some_iff, Rule.taken?_eq_some_iff,
    Rule.taken?_eq_none_iff, Picks]
  constructor
  · rintro ⟨earlier, rule, later, hrules, ⟨hoffers, hnext⟩, hothers⟩
    exact ⟨⟨earlier, rule, later, hrules, hoffers, hothers⟩, hnext⟩
  · rintro ⟨⟨earlier, rule, later, hrules, hoffers, hothers⟩, hnext⟩
    exact ⟨earlier, rule, later, hrules, ⟨hoffers, hnext⟩, hothers⟩

theorem match?_eq_none_iff {lexer : Lexer} {cursor : Cursor} {row : Nat} :
    lexer.match? cursor row = none ↔ lexer.Declines cursor.line cursor.position row := by
  simp only [match?_eq_findSome?, List.findSome?_eq_none_iff, Rule.taken?_eq_none_iff, Declines]

theorem Picks.exists_offers {lexer : Lexer} {line : String} {position row : Nat} {token : Token}
    (h : lexer.Picks line position row token) :
    ∃ rule ∈ lexer.rules, rule.Offers line position row token := by
  obtain ⟨earlier, rule, later, hrules, hoffers, -⟩ := h
  exact ⟨rule, by simp [hrules], hoffers⟩

theorem Picks.fits {lexer : Lexer} {line : String} {position row : Nat} {token : Token}
    (h : lexer.Picks line position row token) : token.Fits line position := by
  obtain ⟨_, -, -, hfits⟩ := h.exists_offers
  exact hfits

theorem StepAt.lt {lexer : Lexer} {line : String} {row position next : Nat} {step : Step}
    (h : lexer.StepAt line row position step next) : position < next := by
  cases h with
  | token hpicks => exact hpicks.fits.2.1
  | @blank c | @stray c =>
    have hpos := c.utf8Size_pos
    omega

theorem StepAt.isPlace_next {lexer : Lexer} {line : String} {row position next : Nat} {step : Step}
    (h : lexer.StepAt line row position step next) : IsPlace line next := by
  cases h with
  | token hpicks => exact hpicks.fits.2.2
  | blank _ _ hc | stray _ hc => simpa using hc.isPlace_end

theorem stepAt_of_step? {lexer : Lexer} {cursor next : Cursor} {row : Nat} {step : Step}
    (h : lexer.step? cursor row = some (step, next)) :
    lexer.StepAt cursor.line row cursor.position step next.position ∧ next.line = cursor.line := by
  unfold step? at h
  split at h
  · next token found hmatch =>
    obtain ⟨hpicks, hline, hposition⟩ := match?_eq_some_iff.1 hmatch
    cases h
    exact ⟨hposition ▸ .token hpicks, hline⟩
  · next hmatch =>
    have hdeclines := match?_eq_none_iff.1 hmatch
    split at h
    · cases h
    · next c hnext =>
      have hc := Cursor.next?_eq_some_iff.1 hnext
      obtain ⟨hline, hposition⟩ := Cursor.forward_position hnext
      split at h
      · next hskip =>
        obtain ⟨hskip, hblank⟩ := Bool.and_eq_true_iff.1 hskip
        cases h
        exact ⟨hposition ▸ .blank hdeclines hskip hc hblank, hline⟩
      · next hkept =>
        rw [Bool.and_eq_true_iff] at hkept
        split at h
        · next hlabel =>
          cases h
          exact ⟨hposition ▸ .stray hdeclines hc hkept hlabel, hline⟩
        · cases h

theorem step?_of_stepAt {lexer : Lexer} {cursor : Cursor} {row stop : Nat} {step : Step}
    (h : lexer.StepAt cursor.line row cursor.position step stop) :
    ∃ next, lexer.step? cursor row = some (step, next) ∧ next.line = cursor.line ∧
      next.position = stop := by
  cases h with
  | @token token hpicks =>
    obtain ⟨next, hline, hposition⟩ := Cursor.exists_of_isPlace hpicks.fits.2.2
    have hmatch := match?_eq_some_iff.2 ⟨hpicks, hline, hposition⟩
    exact ⟨next, by simp only [step?, hmatch], hline, hposition⟩
  | @blank c hdeclines hskip hc hblank =>
    have hnext := Cursor.next?_eq_some_iff.2 hc
    refine ⟨cursor.forward 1, ?_, Cursor.forward_position hnext⟩
    simp [step?, match?_eq_none_iff.2 hdeclines, hnext, hskip, hblank]
  | @stray c hdeclines hc hkept hlabel =>
    have hnext := Cursor.next?_eq_some_iff.2 hc
    refine ⟨cursor.forward 1, ?_, Cursor.forward_position hnext⟩
    simp [step?, match?_eq_none_iff.2 hdeclines, hnext, hkept, hlabel]

theorem Leads.isPlace {lexer : Lexer} {line : String} {row position stop : Nat}
    {steps : List Step} (h : lexer.Leads line row position steps stop)
    (hplace : IsPlace line position) : IsPlace line stop := by
  induction h with
  | nil => exact hplace
  | cons hstep _ ih => exact ih hstep.isPlace_next

theorem stepsFrom_of_leads {lexer : Lexer} {line : String} {row position stop : Nat}
    {steps : List Step} (h : lexer.Leads line row position steps stop) {cursor : Cursor}
    (hline : cursor.line = line) (hposition : cursor.position = position) (next : Cursor)
    (hnext : next.line = line) (hstop : next.position = stop) :
    lexer.stepsFrom row cursor = (lexer.stepsFrom row next).map (steps ++ ·) := by
  induction h generalizing cursor with
  | nil =>
    obtain rfl := Cursor.eq_of_position (hline.trans hnext.symm) (hposition.trans hstop.symm)
    cases lexer.stepsFrom row cursor <;> rfl
  | cons hstep _ ih =>
    subst hline hposition
    obtain ⟨found, hfound, hline, hposition⟩ := step?_of_stepAt hstep
    rw [stepsFrom_of_step? hfound, ih hline hposition hstop]
    cases lexer.stepsFrom row next <;> rfl

theorem stepsFrom_of_classifies {lexer : Lexer} {row : Nat} {cursor : Cursor}
    {outcome : Except Nat (List Step)}
    (h : lexer.Classifies cursor.line row cursor.position outcome) :
    lexer.stepsFrom row cursor = outcome.mapError (⟨cursor.line, ·, row⟩) := by
  cases outcome with
  | ok steps =>
    obtain ⟨last, hlast, hposition⟩ := Cursor.exists_of_isPlace (isPlace_utf8ByteSize cursor.line)
    have hend : last.atEnd = true := by
      rw [← Bool.not_eq_false, ← Cursor.position_lt_iff, hposition, hlast]
      exact Nat.lt_irrefl _
    rw [stepsFrom_of_leads h rfl rfl last hlast hposition, stepsFrom_of_atEnd hend]
    simp [Except.map, Except.mapError]
  | error stop =>
    obtain ⟨hlt, hnone, steps, hleads⟩ := h
    obtain ⟨last, hlast, rfl⟩ := Cursor.exists_of_isPlace (hleads.isPlace cursor.isPlace)
    rw [← hlast] at hlt hnone
    have hstuck : lexer.step? last row = none := by
      rw [Option.eq_none_iff_forall_ne_some]
      exact fun found hstep ↦ hnone _ _ (stepAt_of_step? hstep).1
    rw [stepsFrom_of_leads hleads rfl rfl last hlast rfl,
      stepsFrom_of_stuck (Cursor.position_lt_iff.1 hlt) hstuck, hlast]
    rfl

theorem Classifies.step {lexer : Lexer} {line : String} {row position next : Nat} {step : Step}
    {outcome : Except Nat (List Step)} (hstep : lexer.StepAt line row position step next)
    (h : lexer.Classifies line row next outcome) :
    lexer.Classifies line row position (outcome.map (step :: ·)) := by
  cases outcome with
  | ok steps => exact .cons hstep h
  | error stop =>
    obtain ⟨hlt, hnone, steps, hleads⟩ := h
    exact ⟨hlt, hnone, step :: steps, .cons hstep hleads⟩

theorem exists_classifies (lexer : Lexer) (row : Nat) (cursor : Cursor) :
    ∃ outcome, lexer.Classifies cursor.line row cursor.position outcome := by
  fun_induction stepsFrom lexer row cursor with
  | case1 cursor hend =>
    refine ⟨.ok [], ?_⟩
    rw [Cursor.position_eq_of_atEnd hend]
    exact .nil _
  | case2 cursor hend hnone =>
    refine ⟨.error cursor.position, ?_, ?_, [], .nil _⟩
    · exact Cursor.position_lt_iff.2 (by simpa using hend)
    · intro step stop hstep
      obtain ⟨next, hfound, -, -⟩ := step?_of_stepAt hstep
      rw [hnone] at hfound
      cases hfound
  | case3 cursor hend step next hstep _ ih =>
    obtain ⟨hat, hline⟩ := stepAt_of_step? hstep
    obtain ⟨outcome, hrest⟩ := ih
    exact ⟨outcome.map (step :: ·), .step hat (hline ▸ hrest)⟩

/-- Each place of a line comes to one outcome, and it is that of the steps from the cursor there. -/
theorem classifies_iff {lexer : Lexer} {row : Nat} {cursor : Cursor}
    {outcome : Except Nat (List Step)} :
    lexer.Classifies cursor.line row cursor.position outcome ↔
      lexer.stepsFrom row cursor = outcome.mapError (⟨cursor.line, ·, row⟩) := by
  refine ⟨stepsFrom_of_classifies, fun h ↦ ?_⟩
  obtain ⟨outcome', hclassifies⟩ := exists_classifies lexer row cursor
  rw [stepsFrom_of_classifies hclassifies] at h
  have hsame : outcome' = outcome := by
    cases outcome <;> cases outcome' <;> simp_all [Except.mapError]
  exact hsame ▸ hclassifies

theorem classifies_start_iff {lexer : Lexer} {line : String} {row : Nat}
    {outcome : Except Nat (List Step)} :
    lexer.Classifies line row 0 outcome ↔
      lexer.stepsFrom row (.start line) = outcome.mapError (⟨line, ·, row⟩) :=
  @classifies_iff lexer row (.start line) outcome

theorem leads_of_stepsFrom {lexer : Lexer} {line : String} {row : Nat} {steps : List Step}
    (h : lexer.stepsFrom row (.start line) = .ok steps) :
    lexer.Leads line row 0 steps line.utf8ByteSize :=
  (@classifies_start_iff lexer line row (.ok steps)).2 h

theorem existsUnique_classifies (lexer : Lexer) (line : String) (row : Nat) :
    ∃! outcome, lexer.Classifies line row 0 outcome := by
  obtain ⟨outcome, h⟩ := exists_classifies lexer row (.start line)
  refine ⟨outcome, h, fun outcome' h' ↦ ?_⟩
  have hsame := (classifies_start_iff.1 h').symm.trans (classifies_start_iff.1 h)
  cases outcome <;> cases outcome' <;> simp_all [Except.mapError]

theorem tokensOfLine_eq_ok_iff {lexer : Lexer} {line : String} {row : Nat} {tokens : List Token} :
    lexer.tokensOfLine line row = .ok tokens ↔
      ∃ steps, lexer.Classifies line row 0 (.ok steps) ∧
        tokens = gather (lexer.strayLabel?.getD "") steps := by
  simp only [tokensOfLine, classifies_start_iff]
  cases lexer.stepsFrom row (.start line) with
  | error error => simp [Except.map, Except.mapError]
  | ok steps => simp [Except.map, Except.mapError, eq_comm]

theorem tokensOfLine_eq_error_iff {lexer : Lexer} {line : String} {row : Nat} {error : ScanError} :
    lexer.tokensOfLine line row = .error error ↔
      error.line = line ∧ error.row = row ∧
        lexer.Classifies line row 0 (.error error.position) := by
  obtain ⟨outcome, hclassifies, hunique⟩ := existsUnique_classifies lexer line row
  have hsteps := classifies_start_iff.1 hclassifies
  rw [tokensOfLine, hsteps]
  constructor
  · intro h
    cases outcome with
    | error position =>
      cases h
      exact ⟨rfl, rfl, hclassifies⟩
    | ok steps => cases h
  · rintro ⟨rfl, rfl, h⟩
    rw [← hunique _ h]
    rfl

end Lexer

end Linewise
