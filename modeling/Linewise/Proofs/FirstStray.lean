import Linewise.Proofs.Strays

namespace Linewise

def Step.strayPosition? : Step → Option Nat
  | stray _ position _ => some position
  | _ => none

theorem Step.strayPosition?_eq_none_iff {step : Step} :
    step.strayPosition? = none ↔ step.strayChar? = none := by
  cases step <;> simp [strayPosition?, strayChar?]

/-- The place of the error is where the first token with the label starts, and that token is a
piece of the line of the error. -/
def ScanError.IsFirstStray (error : ScanError) (label : String) (tokens : List Token) : Prop :=
  ∃ (before : List Token) (stray : Token) (after : List Token),
    tokens = before ++ stray :: after ∧
    (∀ token ∈ before, token.label ≠ label ∧ token.stop ≤ error.position) ∧
    stray.IsStray label error.line error.row ∧ stray.start = error.position ∧
    ∀ token ∈ after, error.position < token.start

namespace Lexer

variable {rules : List Rule} {skipBlanks : Bool} {label : String}

theorem step?_strict (label : String) (cursor : Cursor) (row : Nat) :
    (strict rules skipBlanks).step? cursor row =
      ((keeping rules skipBlanks label).step? cursor row).filter (·.1.strayChar?.isNone) := by
  have hmatch : (strict rules skipBlanks).match? cursor row =
      (keeping rules skipBlanks label).match? cursor row := rfl
  rw [step?, step?, hmatch]
  cases (keeping rules skipBlanks label).match? cursor row with
  | some found => rfl
  | none =>
    cases cursor.next? with
    | none => rfl
    | some c =>
      by_cases hskip : (skipBlanks && isBlank c) = true
      · simp only [strict, keeping, hskip, if_true]
        rfl
      · simp only [strict, keeping, hskip, Bool.false_eq_true, if_false]
        rfl

theorem stepsFrom_strict {cursor : Cursor} {row : Nat} {steps : List Step}
    (h : (keeping rules skipBlanks label).stepsFrom row cursor = .ok steps) :
    (strict rules skipBlanks).stepsFrom row cursor =
      match steps.findSome? Step.strayPosition? with
      | none => .ok steps
      | some position => .error ⟨cursor.line, position, row⟩ := by
  fun_induction (keeping rules skipBlanks label).stepsFrom row cursor generalizing steps with
  | case1 cursor hend =>
    cases h
    exact stepsFrom_of_atEnd hend
  | case2 cursor hend _ => cases h
  | case3 cursor hend step next hstep _ ih =>
    obtain ⟨rest, hrest⟩ := @exists_stepsFrom_keeping rules skipBlanks label row next
    rw [hrest] at h
    cases h
    have hstrict := @step?_strict rules skipBlanks label cursor row
    rw [hstep] at hstrict
    obtain ⟨hat, hline⟩ := stepAt_of_step? hstep
    have hih := ih hrest
    rw [hline] at hih
    cases step with
    | token | blank =>
      rw [stepsFrom_of_step? hstrict, hih, List.findSome?_cons]
      dsimp only [Step.strayPosition?]
      cases rest.findSome? Step.strayPosition? <;> rfl
    | stray c place =>
      obtain ⟨rfl, -⟩ := hat.of_stray
      rw [stepsFrom_of_stuck (Bool.eq_false_iff.2 hend) hstrict]
      rfl

theorem Leads.isFirstStray {lexer : Lexer} {line : String} {row position stop : Nat}
    {steps : List Step} (h : lexer.Leads line row 0 steps stop)
    (havoids : ∀ rule ∈ lexer.rules, rule.Avoids label)
    (hfirst : steps.findSome? Step.strayPosition? = some position) :
    ScanError.IsFirstStray ⟨line, position, row⟩ label (gatherFrom (some label) none steps) := by
  obtain ⟨clear, step, later, rfl, hstep, hclear⟩ := List.findSome?_eq_some_iff.1 hfirst
  have hnone : ∀ step ∈ clear, step.strayChar? = none := by
    intro step hmem
    exact Step.strayPosition?_eq_none_iff.1 (hclear step hmem)
  cases step with
  | token | blank => cases hstep
  | stray c place row' =>
    obtain ⟨middle, hbefore, hafter⟩ := h.exists_middle
    cases hafter with
    | cons hat hlater =>
      obtain ⟨rfl, rfl, -, rfl⟩ := hat.of_stray
      obtain rfl := Option.some.inj hstep
      have hblocks : later.takeWhile (·.strayChar?.isSome) ++
          later.dropWhile (·.strayChar?.isSome) = later := List.takeWhile_append_dropWhile
      rw [← hblocks] at hlater
      obtain ⟨past, hblock, hrest⟩ := hlater.exists_middle
      have hsplit := @gatherFrom_append (some label) _ hnone (.stray c place row' :: later)
      rw [gatherFrom_stray] at hsplit
      refine ⟨_, _, _, hsplit, ?_, ?_, rfl, ?_⟩
      · intro token htoken
        have hle := (hbefore.gathered none (by simp) htoken).2.1
        exact ⟨hbefore.label_ne havoids (token_mem_of_mem_gatherFrom hnone htoken), hle⟩
      · have hmem := hsplit ▸ List.mem_append_right _ List.mem_cons_self
        exact h.isStray havoids hmem rfl
      · intro token htoken
        have hlt := hat.lt
        have hle := hblock.le
        have hstart := (hrest.gathered none (by simp) htoken).1
        dsimp only [Option.map_none, Option.getD_none] at hstart ⊢
        omega

theorem tokensOfLine_strict (havoids : ∀ rule ∈ rules, rule.Avoids label) (line : String)
    (row : Nat) :
    ∃ tokens, (keeping rules skipBlanks label).tokensOfLine line row = .ok tokens ∧
      ((strict rules skipBlanks).tokensOfLine line row = .ok tokens ∧
          (∀ token ∈ tokens, token.label ≠ label) ∨
        ∃ position, (strict rules skipBlanks).tokensOfLine line row = .error ⟨line, position, row⟩ ∧
          ScanError.IsFirstStray ⟨line, position, row⟩ label tokens) := by
  obtain ⟨steps, hsteps⟩ := @exists_stepsFrom_keeping rules skipBlanks label row (.start line)
  have hleads := leads_of_stepsFrom hsteps
  have hstrict := stepsFrom_strict hsteps
  refine ⟨gatherFrom (some label) none steps, ?_, ?_⟩
  · rw [tokensOfLine_eq, hsteps]
    rfl
  · rw [tokensOfLine_eq, hstrict]
    cases hfirst : steps.findSome? Step.strayPosition? with
    | none =>
      have hnone : ∀ step ∈ steps, step.strayChar? = none := by
        intro step hstep
        exact Step.strayPosition?_eq_none_iff.1 (List.findSome?_eq_none_iff.1 hfirst step hstep)
      refine .inl ⟨congrArg Except.ok (gatherFrom_eq_of_no_stray hnone _ _), ?_⟩
      intro token htoken
      exact hleads.label_ne havoids (token_mem_of_mem_gatherFrom hnone htoken)
    | some position => exact .inr ⟨position, rfl, hleads.isFirstStray havoids hfirst⟩

theorem tokensOfLine_strict_eq_ok_iff (havoids : ∀ rule ∈ rules, rule.Avoids label)
    {line : String} {row : Nat} {tokens : List Token} :
    (strict rules skipBlanks).tokensOfLine line row = .ok tokens ↔
      (keeping rules skipBlanks label).tokensOfLine line row = .ok tokens ∧
        ∀ token ∈ tokens, token.label ≠ label := by
  obtain ⟨kept, hkept, hkind⟩ := @tokensOfLine_strict rules skipBlanks label havoids line row
  rw [hkept, Except.ok.injEq]
  rcases hkind with ⟨hstrict, hclear⟩ | ⟨position, hstrict, hfirst⟩
  · rw [hstrict, Except.ok.injEq]
    refine (and_iff_left_of_imp ?_).symm
    rintro rfl
    exact hclear
  · obtain ⟨before, stray, after, rfl, -, hstray, -⟩ := hfirst
    rw [hstrict]
    refine iff_of_false (fun h ↦ by cases h) ?_
    rintro ⟨rfl, hclear⟩
    exact hclear stray (by simp) hstray.label_eq

theorem forall₂_and_right {α β : Type} {r : α → β → Prop} {p : β → Prop} {items : List α}
    {found : List β} :
    List.Forall₂ (fun item value ↦ r item value ∧ p value) items found ↔
      List.Forall₂ r items found ∧ ∀ value ∈ found, p value := by
  have hleft := @List.forall₂_and_left β α (flip r) p found items
  constructor
  · intro h
    have hswapped : List.Forall₂ (fun value item ↦ p value ∧ flip r value item) found items :=
      (h.imp fun _ _ ↦ And.symm).flip
    obtain ⟨hvalues, hrelated⟩ := hleft.1 hswapped
    exact ⟨hrelated.flip, hvalues⟩
  · intro h
    have hswapped := hleft.2 ⟨h.2, h.1.flip⟩
    exact hswapped.flip.imp fun _ _ ↦ And.symm

theorem lex_strict_eq_ok_iff (havoids : ∀ rule ∈ rules, rule.Avoids label) {text : String}
    {lines : List (List Token)} :
    (strict rules skipBlanks).lex text = .ok lines ↔
      (keeping rules skipBlanks label).lex text = .ok lines ∧
        ∀ tokens ∈ lines, ∀ token ∈ tokens, token.label ≠ label := by
  simp only [lex_eq_ok_iff, tokensOfLine_strict_eq_ok_iff havoids]
  exact forall₂_and_right

/-- A lexer that keeps characters that no rule wants never fails. It finds what the strict one finds
if it keeps none. Otherwise the strict one fails, and its error stands where the first token that is
kept starts. -/
theorem lex_strict (havoids : ∀ rule ∈ rules, rule.Avoids label) (skipBlanks : Bool)
    (text : String) :
    ∃ lines, (keeping rules skipBlanks label).lex text = .ok lines ∧
      (∀ found, (strict rules skipBlanks).lex text = .ok found ↔
        found = lines ∧ ∀ tokens ∈ lines, ∀ token ∈ tokens, token.label ≠ label) ∧
      ∀ error, (strict rules skipBlanks).lex text = .error error →
        (linesOf text)[error.row]? = some error.line ∧
        (∀ tokens ∈ lines.take error.row, ∀ token ∈ tokens, token.label ≠ label) ∧
        ∃ tokens, lines[error.row]? = some tokens ∧ error.IsFirstStray label tokens := by
  obtain ⟨lines, hlines⟩ := @exists_lex_keeping rules skipBlanks label text
  refine ⟨lines, hlines, fun found ↦ ?_, fun error herror ↦ ?_⟩
  · rw [lex_strict_eq_ok_iff havoids, hlines, Except.ok.injEq]
    constructor
    · rintro ⟨rfl, hclear⟩
      exact ⟨rfl, hclear⟩
    · rintro ⟨rfl, hclear⟩
      exact ⟨rfl, hclear⟩
  · obtain ⟨earlier, line, later, hsplit, hearlier, hstuck⟩ := lex_eq_error_iff.1 herror
    obtain ⟨tokens, htokens, hkind⟩ :=
      @tokensOfLine_strict rules skipBlanks label havoids line earlier.length
    rcases hkind with ⟨hok, -⟩ | ⟨position, hposition, hfirst⟩
    · rw [hok] at hstuck
      cases hstuck
    · obtain rfl := Except.error.inj (hposition.symm.trans hstuck)
      have hat : (linesOf text)[earlier.length]? = some line := by simp [hsplit]
      refine ⟨hat, ?_, tokens, (getElem?_of_lex hlines).2 ⟨line, hat, htokens⟩, hfirst⟩
      intro found hfound
      obtain ⟨row, hrow⟩ := List.getElem?_of_mem hfound
      rw [List.getElem?_take] at hrow
      split at hrow
      · next hlt =>
        obtain ⟨other, hother, hkept⟩ := (getElem?_of_lex hlines).1 hrow
        rw [hsplit, List.getElem?_append_left hlt] at hother
        obtain ⟨clear, hclear⟩ := hearlier (other, row) (List.mem_zipIdx_iff_getElem?.2 hother)
        obtain ⟨hsame, hnone⟩ := (tokensOfLine_strict_eq_ok_iff havoids).1 hclear
        obtain rfl := Except.ok.inj (hsame.symm.trans hkept)
        exact hnone
      · cases hrow

theorem lex_strict_signedPairs :
    (∀ rule ∈ signedPairs.rules, rule.Avoids "") ∧
    ∃ lines, (keeping signedPairs.rules true "").lex "a1 é\n" = .ok lines ∧
      (∀ found, (strict signedPairs.rules true).lex "a1 é\n" = .ok found ↔
        found = lines ∧ ∀ tokens ∈ lines, ∀ token ∈ tokens, token.label ≠ "") ∧
      ∀ error, (strict signedPairs.rules true).lex "a1 é\n" = .error error →
        (linesOf "a1 é\n")[error.row]? = some error.line ∧
        (∀ tokens ∈ lines.take error.row, ∀ token ∈ tokens, token.label ≠ "") ∧
        ∃ tokens, lines[error.row]? = some tokens ∧ error.IsFirstStray "" tokens :=
  have havoids := avoids_signedPairs (by decide) (by decide)
  ⟨havoids, lex_strict havoids true "a1 é\n"⟩

end Lexer

end Linewise
