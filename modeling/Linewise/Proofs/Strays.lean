import Linewise.Proofs.Coverage

namespace Linewise

def Rule.Avoids (rule : Rule) (label : String) : Prop :=
  ∀ line position row token, rule.tokenAt? line position row = some token → token.label ≠ label

theorem Rule.avoids_of_token? {rule : Rule} {label : String}
    (h : ∀ cursor row token, rule.token? cursor row = some token → token.label ≠ label) :
    rule.Avoids label := by
  intro line position row token hfound
  obtain ⟨cursor, -, htoken⟩ := Option.bind_eq_some_iff.1 hfound
  exact h cursor row token htoken

theorem Rule.avoids_of_hasPattern {rule : Rule} {label : String} (hpattern : rule.HasPattern)
    (hne : rule.label ≠ label) : rule.Avoids label := by
  apply avoids_of_token?
  intro cursor row token hfound
  cases rule with
  | simple rule =>
    obtain ⟨text, -, rfl⟩ := Option.map_eq_some_iff.1 hfound
    exact hne
  | compound name pattern parts =>
    simp only [token?, Option.bind_eq_bind, Option.bind_eq_some_iff, Option.some.injEq] at hfound
    obtain ⟨text, -, tiles, -, rfl⟩ := hfound
    exact hne
  | custom name classify => exact hpattern.elim

theorem Rule.avoids_ofWord {name label : String} (hne : name ≠ label) (word text : String)
    (shift : Int) : (ofWord name word text shift).Avoids label := by
  apply avoids_of_token?
  intro cursor row token hfound
  obtain ⟨place, -, hfound⟩ := Option.bind_eq_some_iff.1 hfound
  split at hfound
  · cases hfound
    exact hne
  · cases hfound

structure Token.IsStray (token : Token) (label line : String) (row : Nat) : Prop where
  label_eq : token.label = label
  parts_eq : token.parts = []
  liesIn : token.LiesIn line row

theorem StrayRun.Reaches.start_le {run? : Option StrayRun} {line : String} {row position : Nat}
    (hrun : ∀ run ∈ run?, run.Reaches line row position) :
    (run?.map StrayRun.start).getD position ≤ position := by
  cases run? with
  | none => exact Nat.le_refl _
  | some run =>
    have hstop := (hrun run rfl).stop_eq
    dsimp only [Option.map_some, Option.getD_some]
    omega

theorem mem_runTokens {label line : String} {run? : Option StrayRun} {row position : Nat}
    (hrun : ∀ run ∈ run?, run.Reaches line row position) {token : Token}
    (htoken : token ∈ runTokens (some label) run?) :
    (run?.map StrayRun.start).getD position ≤ token.start ∧ token.stop = position ∧
      token.IsStray label line row := by
  cases run? with
  | none => cases htoken
  | some run =>
    obtain rfl := List.mem_singleton.1 htoken
    obtain ⟨hrow, hne, hpiece, hstop⟩ := hrun run rfl
    refine ⟨Nat.le_refl _, ?_, rfl, rfl, hrow, hne, hpiece⟩
    rw [Token.LiesIn.stop_eq, hstop]

theorem gatherFrom_append {label? : Option String} {clear : List Step}
    (hclear : ∀ step ∈ clear, step.strayChar? = none) (steps : List Step) :
    gatherFrom label? none (clear ++ steps) =
      gatherFrom label? none clear ++ gatherFrom label? none steps := by
  induction clear with
  | nil => simp [gatherFrom]
  | cons step clear ih =>
    obtain ⟨hstep, hsteps⟩ := List.forall_mem_cons.1 hclear
    cases step with
    | token token => simp [gatherFrom, ih hsteps]
    | blank c => simp [gatherFrom, ih hsteps]
    | stray c position row => simp [Step.strayChar?] at hstep

/-- A token breaks any run, so what comes before it and what comes behind it are apart. -/
theorem gatherFrom_append_token (label? : Option String) (run? : Option StrayRun)
    (earlier : List Step) (token : Token) (later : List Step) :
    gatherFrom label? run? (earlier ++ .token token :: later) =
      gatherFrom label? run? earlier ++ token :: gatherFrom label? none later := by
  induction earlier generalizing run? with
  | nil => simp [gatherFrom]
  | cons step earlier ih => cases step <;> simp [gatherFrom, ih]

theorem gatherFrom_stray (label : String) (c : Char) (position row : Nat) (steps : List Step) :
    gatherFrom (some label) none (.stray c position row :: steps) =
      ⟨label, String.ofList (c :: (steps.takeWhile (·.strayChar?.isSome)).filterMap
        Step.strayChar?), position, row, []⟩ ::
        gatherFrom (some label) none (steps.dropWhile (·.strayChar?.isSome)) := by
  rw [← gather_eq_gatherFrom, ← gather_eq_gatherFrom, gather]

theorem token_mem_of_mem_gatherFrom {label? : Option String} {clear : List Step}
    (hclear : ∀ step ∈ clear, step.strayChar? = none) {token : Token}
    (htoken : token ∈ gatherFrom label? none clear) : .token token ∈ clear := by
  induction clear with
  | nil => simp [gatherFrom] at htoken
  | cons step clear ih =>
    obtain ⟨hstep, hsteps⟩ := List.forall_mem_cons.1 hclear
    cases step with
    | token other =>
      rw [gatherFrom, runTokens_none, List.nil_append] at htoken
      rcases List.mem_cons.1 htoken with rfl | htoken
      · exact List.mem_cons_self
      · exact List.mem_cons_of_mem _ (ih hsteps htoken)
    | blank c =>
      rw [gatherFrom, runTokens_none, List.nil_append] at htoken
      exact List.mem_cons_of_mem _ (ih hsteps htoken)
    | stray c position row => simp [Step.strayChar?] at hstep

namespace Lexer

/-- The lexer that fails where no rule wants a character. -/
def strict (rules : List Rule) (skipBlanks : Bool) : Lexer := ⟨rules, skipBlanks, none⟩

/-- The lexer that keeps such characters, under the label. -/
def keeping (rules : List Rule) (skipBlanks : Bool) (label : String) : Lexer :=
  ⟨rules, skipBlanks, some label⟩

section

variable {lexer : Lexer} {line label : String} {row position stop : Nat} {steps : List Step}

theorem StepAt.of_stray {c : Char} {place row' next : Nat}
    (h : lexer.StepAt line row position (.stray c place row') next) :
    place = position ∧ row' = row ∧ PieceAt line position [c] ∧ next = position + c.utf8Size := by
  cases h with
  | stray _ hc => exact ⟨rfl, rfl, hc, rfl⟩

theorem Leads.le (h : lexer.Leads line row position steps stop) : position ≤ stop := by
  induction h with
  | nil => exact Nat.le_refl _
  | cons hstep _ ih =>
    have hlt := hstep.lt
    omega

theorem Leads.exists_middle {later : List Step}
    (h : lexer.Leads line row position (steps ++ later) stop) :
    ∃ middle, lexer.Leads line row position steps middle ∧
      lexer.Leads line row middle later stop := by
  induction steps generalizing position with
  | nil => exact ⟨position, .nil _, h⟩
  | cons step steps ih =>
    cases h with
    | cons hstep hrest =>
      obtain ⟨middle, hsteps, hlater⟩ := ih hrest
      exact ⟨middle, .cons hstep hsteps, hlater⟩

theorem Leads.label_ne (h : lexer.Leads line row position steps stop)
    (havoids : ∀ rule ∈ lexer.rules, rule.Avoids label) {token : Token}
    (htoken : .token token ∈ steps) : token.label ≠ label := by
  obtain ⟨place, hpicks⟩ := h.exists_picks htoken
  obtain ⟨rule, hrule, hfound, -⟩ := hpicks.exists_offers
  exact havoids rule hrule line place row token hfound

/-- The tokens of a stretch lie between its ends, and each is one that a rule found or a piece of
the line under the label. -/
theorem Leads.gathered (h : lexer.Leads line row position steps stop) (run? : Option StrayRun)
    (hrun : ∀ run ∈ run?, run.Reaches line row position) {token : Token}
    (htoken : token ∈ gatherFrom (some label) run? steps) :
    (run?.map StrayRun.start).getD position ≤ token.start ∧ token.stop ≤ stop ∧
      (.token token ∈ steps ∨ token.IsStray label line row) := by
  induction h generalizing run? with
  | nil =>
    obtain ⟨hle, hstop, hstray⟩ := mem_runTokens hrun htoken
    exact ⟨hle, Nat.le_of_eq hstop, .inr hstray⟩
  | @cons position next stop step steps hstep hrest ih =>
    have hlt := hstep.lt
    have hend := hrest.le
    have hfirst := StrayRun.Reaches.start_le hrun
    -- What the open run makes lies before the step, and what comes later lies behind it.
    have hopen (hmem : token ∈ runTokens (some label) run?) :
        (run?.map StrayRun.start).getD position ≤ token.start ∧ token.stop ≤ stop ∧
          (.token token ∈ step :: steps ∨ token.IsStray label line row) := by
      obtain ⟨hle, hstop, hstray⟩ := mem_runTokens hrun hmem
      exact ⟨hle, by omega, .inr hstray⟩
    have hlater (hmem : token ∈ gatherFrom (some label) none steps) :
        (run?.map StrayRun.start).getD position ≤ token.start ∧ token.stop ≤ stop ∧
          (.token token ∈ step :: steps ∨ token.IsStray label line row) := by
      obtain ⟨hle, hstop, hkind⟩ := ih none (by simp) hmem
      dsimp only [Option.map_none, Option.getD_none] at hle
      exact ⟨by omega, hstop, hkind.imp_left (List.mem_cons_of_mem _)⟩
    cases hstep with
    | @token found hpicks =>
      rw [gatherFrom, List.mem_append, List.mem_cons] at htoken
      rcases htoken with hmem | rfl | hmem
      · exact hopen hmem
      · have hstart := hpicks.fits.1
        exact ⟨by omega, hend, .inl List.mem_cons_self⟩
      · exact hlater hmem
    | blank =>
      rw [gatherFrom, List.mem_append] at htoken
      exact htoken.elim hopen hlater
    | @stray c _ hc =>
      obtain ⟨hreaches, hstart⟩ := StrayRun.Reaches.extend hrun hc
      obtain ⟨hle, hstop, hkind⟩ := ih (some (.extend run? c position row))
        (by simpa using hreaches) htoken
      rw [Option.map_some, Option.getD_some, hstart] at hle
      exact ⟨hle, hstop, hkind.imp_left (List.mem_cons_of_mem _)⟩

theorem Leads.isStray (h : lexer.Leads line row position steps stop)
    (havoids : ∀ rule ∈ lexer.rules, rule.Avoids label) {token : Token}
    (htoken : token ∈ gatherFrom (some label) none steps) (hlabel : token.label = label) :
    token.IsStray label line row := by
  obtain ⟨-, -, hkind⟩ := h.gathered none (by simp) htoken
  exact hkind.resolve_left fun hstep ↦ h.label_ne havoids hstep hlabel

end

section

variable {rules : List Rule} {skipBlanks : Bool} {label : String} {row : Nat}

theorem exists_step?_keeping {cursor : Cursor} (h : cursor.atEnd = false) :
    ∃ found, (keeping rules skipBlanks label).step? cursor row = some found := by
  obtain ⟨c, hc⟩ := cursor.isPlace.exists_char (Cursor.position_lt_iff.2 h)
  have hnext := Cursor.next?_eq_some_iff.2 hc
  rw [step?]
  cases (keeping rules skipBlanks label).match? cursor row with
  | some found => exact ⟨_, rfl⟩
  | none =>
    rw [hnext]
    dsimp only
    split
    · exact ⟨_, rfl⟩
    · exact ⟨_, if_pos rfl⟩

theorem exists_stepsFrom_keeping (cursor : Cursor) :
    ∃ steps, (keeping rules skipBlanks label).stepsFrom row cursor = .ok steps := by
  fun_induction (keeping rules skipBlanks label).stepsFrom row cursor with
  | case1 => exact ⟨[], rfl⟩
  | case2 cursor hend hnone =>
    obtain ⟨found, hfound⟩ := exists_step?_keeping (Bool.eq_false_iff.2 hend)
    rw [hnone] at hfound
    cases hfound
  | case3 cursor hend step next hstep _ ih =>
    obtain ⟨steps, hsteps⟩ := ih
    exact ⟨step :: steps, by rw [hsteps]; rfl⟩

theorem exists_tokensOfLine_keeping (line : String) (row : Nat) :
    ∃ tokens, (keeping rules skipBlanks label).tokensOfLine line row = .ok tokens := by
  obtain ⟨steps, hsteps⟩ := @exists_stepsFrom_keeping rules skipBlanks label row (.start line)
  exact ⟨_, by rw [tokensOfLine, hsteps]; rfl⟩

theorem exists_lex_keeping (text : String) :
    ∃ lines, (keeping rules skipBlanks label).lex text = .ok lines := by
  cases hlex : (keeping rules skipBlanks label).lex text with
  | ok lines => exact ⟨lines, rfl⟩
  | error error =>
    obtain ⟨earlier, line, later, -, -, herror⟩ := lex_eq_error_iff.1 hlex
    obtain ⟨tokens, htokens⟩ := exists_tokensOfLine_keeping line earlier.length
    rw [htokens] at herror
    cases herror

end

theorem avoids_signedPairs {label : String} (hsign : "sign" ≠ label) (hpair : "pair" ≠ label) :
    ∀ rule ∈ signedPairs.rules, rule.Avoids label := by
  refine List.forall_mem_cons.2 ⟨Rule.avoids_ofWord hsign _ _ _, fun rule hrule ↦ ?_⟩
  obtain rfl := List.mem_singleton.1 hrule
  exact Rule.avoids_of_hasPattern trivial hpair

end Lexer

end Linewise
