import Linewise.Proofs.Strays

namespace Linewise

def CharsBetween (line : String) (start stop : Nat) (p : Nat → Char → Prop) : Prop :=
  ∀ place c, PieceAt line place [c] → start ≤ place → place < stop → p place c

def Covered (label : String) (tokens : List Token) (place : Nat) : Prop :=
  ∃ token ∈ tokens, token.label = label ∧ token.start ≤ place ∧ place < token.stop

section

variable {line label : String} {row position stop place : Nat} {p : Nat → Char → Prop}

theorem CharsBetween.of_le (h : stop ≤ position) : CharsBetween line position stop p := by
  intro place c _ hstart hstop
  omega

theorem CharsBetween.cons {c : Char} (hc : PieceAt line position [c]) (hp : p position c)
    (h : CharsBetween line (position + c.utf8Size) stop p) :
    CharsBetween line position stop p := by
  intro place d hd hstart hstop
  rcases Nat.eq_or_lt_of_le hstart with rfl | hlt
  · exact hc.char_unique hd ▸ hp
  · exact h place d hd (hc.stop_le_of_lt hd.isPlace hlt) hstop

theorem covered_append {tokens later : List Token} :
    Covered label (tokens ++ later) place ↔
      Covered label tokens place ∨ Covered label later place := by
  simp only [Covered, List.mem_append, or_and_right, exists_or]

theorem covered_cons_of_ne {token : Token} {tokens : List Token} (hne : token.label ≠ label) :
    Covered label (token :: tokens) place ↔ Covered label tokens place := by
  simp [Covered, hne]

theorem covered_runTokens {run? : Option StrayRun}
    (hrun : ∀ run ∈ run?, run.Reaches line row position) :
    Covered label (runTokens (some label) run?) place ↔
      (run?.map StrayRun.start).getD position ≤ place ∧ place < position := by
  cases run? with
  | none => simp [Covered]
  | some run =>
    have hstop := (hrun run rfl).stop_eq
    simp [Covered, runTokens, Token.LiesIn.stop_eq, hstop]

theorem mem_or_head?_of_runTokens {run? : Option StrayRun} {later : List Token} {token : Token}
    (h : (runTokens (some label) run? ++ later).head? = some token) :
    token ∈ runTokens (some label) run? ∨ later.head? = some token := by
  cases run? with
  | none => exact .inr h
  | some run => exact .inl (List.mem_singleton.2 (Option.some.inj h).symm)

theorem isChain_runTokens {r : Token → Token → Prop} {run? : Option StrayRun}
    {later : List Token} (hlater : later.IsChain r)
    (hlink : ∀ a ∈ runTokens (some label) run?, ∀ b, later.head? = some b → r a b) :
    (runTokens (some label) run? ++ later).IsChain r := by
  cases run? with
  | none => exact hlater
  | some run => exact List.isChain_cons.2 ⟨hlink _ (List.mem_singleton_self _), hlater⟩

end

namespace Lexer

/-- If both tokens have the label, there is text between them, and all of it is skipped. -/
def KeepsApart (lexer : Lexer) (label line : String) (row : Nat) (a b : Token) : Prop :=
  a.label = label → b.label = label →
    a.stop < b.start ∧ lexer.skipBlanks = true ∧
      CharsBetween line a.stop b.start fun place c ↦
        isBlank c = true ∧ lexer.Declines line place row

/-- The tokens with the label are the runs of strays of the line. -/
structure KeepsRuns (lexer : Lexer) (label line : String) (row : Nat) (tokens : List Token) :
    Prop where
  strays : ∀ token ∈ tokens, token.label = label → token.IsStray label line row
  unwanted : ∀ token ∈ tokens, token.label = label →
    CharsBetween line token.start token.stop fun place c ↦
      lexer.Declines line place row ∧ ¬ (lexer.skipBlanks = true ∧ isBlank c = true)
  complete : ∃ steps, lexer.Classifies line row 0 (.ok steps) ∧ ∀ c place,
    .stray c place row ∈ steps ↔ PieceAt line place [c] ∧ Covered label tokens place
  apart : tokens.IsChain (lexer.KeepsApart label line row)
  between : lexer.skipBlanks = false → ∀ before a middle b after,
    tokens = before ++ a :: (middle ++ b :: after) → a.label = label → b.label = label →
      ∃ token ∈ middle, token.label ≠ label

variable {lexer : Lexer} {line label : String} {row position stop : Nat} {steps : List Step}

theorem Picks.label_ne {token : Token} (h : lexer.Picks line position row token)
    (havoids : ∀ rule ∈ lexer.rules, rule.Avoids label) : token.label ≠ label := by
  obtain ⟨rule, hrule, hfound, -⟩ := h.exists_offers
  exact havoids rule hrule line position row token hfound

theorem Leads.of_mem_stray (h : lexer.Leads line row position steps stop) {c : Char}
    {place : Nat} (hstep : .stray c place row ∈ steps) :
    PieceAt line place [c] ∧ lexer.Declines line place row ∧
      ¬ (lexer.skipBlanks = true ∧ isBlank c = true) := by
  induction h with
  | nil => cases hstep
  | cons hat _ ih =>
    rcases List.mem_cons.1 hstep with rfl | hlater
    · cases hat with
      | stray hdeclines hc hkept => exact ⟨hc, hdeclines, hkept⟩
    · exact ih hlater

theorem Leads.covered_iff (h : lexer.Leads line row position steps stop)
    (havoids : ∀ rule ∈ lexer.rules, rule.Avoids label) (run? : Option StrayRun)
    (hrun : ∀ run ∈ run?, run.Reaches line row position) {c : Char} {place : Nat}
    (hc : PieceAt line place [c]) :
    Covered label (gatherFrom (some label) run? steps) place ↔
      (run?.map StrayRun.start).getD position ≤ place ∧ place < position ∨
        .stray c place row ∈ steps := by
  -- The open run covers what lies between its start and the position. A stray carries it on, and
  -- any other step makes a token of it and leaves no run open.
  induction h generalizing run? with
  | nil =>
    rw [gatherFrom, covered_runTokens hrun]
    simp
  | @cons position next stop step steps hstep hrest ih =>
    have hlater : Covered label (gatherFrom (some label) none steps) place ↔
        .stray c place row ∈ steps := by
      rw [ih none (by simp)]
      simp
    cases hstep with
    | @token token hpicks =>
      rw [gatherFrom, covered_append, covered_runTokens hrun,
        covered_cons_of_ne (hpicks.label_ne havoids), hlater]
      simp
    | blank =>
      rw [gatherFrom, covered_append, covered_runTokens hrun, hlater]
      simp
    | @stray d _ hd =>
      obtain ⟨hreaches, hstart⟩ := StrayRun.Reaches.extend hrun hd
      have hfirst := StrayRun.Reaches.start_le hrun
      have hpos := d.utf8Size_pos
      rw [gatherFrom, ih (some (.extend run? d position row)) (by simpa using hreaches),
        Option.map_some, Option.getD_some, hstart, List.mem_cons]
      constructor
      · rintro (⟨hle, hlt⟩ | hmem)
        · rcases Nat.lt_trichotomy place position with hbefore | rfl | hbehind
          · exact .inl ⟨hle, hbefore⟩
          · exact .inr (.inl (by rw [hc.char_unique hd]))
          · have hpast := hd.stop_le_of_lt hc.isPlace hbehind
            omega
        · exact .inr (.inr hmem)
      · rintro (⟨hle, hlt⟩ | hsame | hmem)
        · exact .inl ⟨hle, by omega⟩
        · cases hsame
          exact .inl ⟨hfirst, by omega⟩
        · exact .inr hmem

theorem Leads.skipped_before_head (h : lexer.Leads line row position steps stop)
    (havoids : ∀ rule ∈ lexer.rules, rule.Avoids label) (run? : Option StrayRun)
    (hrun : ∀ run ∈ run?, run.Reaches line row position) {token : Token}
    (hhead : (gatherFrom (some label) run? steps).head? = some token)
    (hlabel : token.label = label) :
    CharsBetween line position token.start fun place c ↦
      isBlank c = true ∧ lexer.Declines line place row := by
  -- A token that the open run has begun starts before the position, and nothing lies between.
  have hopen {position : Nat} {run? : Option StrayRun}
      (hrun : ∀ run ∈ run?, run.Reaches line row position)
      (hmem : token ∈ runTokens (some label) run?) : token.start ≤ position := by
    obtain ⟨-, hstop, hstray⟩ := mem_runTokens hrun hmem
    exact hstop ▸ Nat.le_of_lt hstray.liesIn.lt
  induction h generalizing run? with
  | nil =>
    rw [gatherFrom] at hhead
    exact .of_le (hopen hrun (List.mem_of_head? hhead))
  | @cons position next stop step steps hstep hrest ih =>
    cases hstep with
    | @token found hpicks =>
      rw [gatherFrom] at hhead
      rcases mem_or_head?_of_runTokens hhead with hmem | hlater
      · exact .of_le (hopen hrun hmem)
      · cases hlater
        exact absurd hlabel (hpicks.label_ne havoids)
    | blank hdeclines _ hc hblank =>
      rw [gatherFrom] at hhead
      rcases mem_or_head?_of_runTokens hhead with hmem | hlater
      · exact .of_le (hopen hrun hmem)
      · exact .cons hc ⟨hblank, hdeclines⟩ (ih none (by simp) hlater)
    | @stray c _ hc =>
      obtain ⟨-, hstart⟩ := StrayRun.Reaches.extend hrun hc
      rw [gatherFrom, gatherFrom_run, List.head?_cons, Option.some.injEq] at hhead
      apply CharsBetween.of_le
      rw [← hhead, hstart]
      exact StrayRun.Reaches.start_le hrun

theorem Leads.isChain (h : lexer.Leads line row position steps stop)
    (havoids : ∀ rule ∈ lexer.rules, rule.Avoids label) (run? : Option StrayRun)
    (hrun : ∀ run ∈ run?, run.Reaches line row position) :
    (gatherFrom (some label) run? steps).IsChain (lexer.KeepsApart label line row) := by
  induction h generalizing run? with
  | nil =>
    rw [gatherFrom, ← List.append_nil (runTokens _ _)]
    exact isChain_runTokens .nil (by simp)
  | @cons position next stop step steps hstep hrest ih =>
    have hlater := ih none (by simp)
    cases hstep with
    | @token found hpicks =>
      have hne := hpicks.label_ne havoids
      rw [gatherFrom]
      refine isChain_runTokens (List.isChain_cons.2 ⟨?_, hlater⟩) ?_
      · intro b _ hlabel
        exact absurd hlabel hne
      · rintro a _ b ⟨rfl⟩ _ hlabel
        exact absurd hlabel hne
    | @blank c hdeclines hskip hc hblank =>
      -- Only here can one run follow another: the blank ends the first, and more may come.
      rw [gatherFrom]
      refine isChain_runTokens hlater ?_
      intro a ha b hb _ hlabel
      obtain ⟨-, hstop, -⟩ := mem_runTokens hrun ha
      have hstart := (hrest.gathered none (by simp) (List.mem_of_head? hb)).1
      have hskipped := hrest.skipped_before_head havoids none (by simp) hb hlabel
      have hpos := c.utf8Size_pos
      dsimp only [Option.map_none, Option.getD_none] at hstart
      rw [hstop]
      exact ⟨by omega, hskip, .cons hc ⟨hblank, hdeclines⟩ hskipped⟩
    | @stray c _ hc =>
      obtain ⟨hreaches, -⟩ := StrayRun.Reaches.extend hrun hc
      rw [gatherFrom]
      exact ih (some (.extend run? c position row)) (by simpa using hreaches)

theorem exists_between_runs {tokens : List Token} (hskip : lexer.skipBlanks = false)
    (hchain : tokens.IsChain (lexer.KeepsApart label line row)) {before middle after : List Token}
    {a b : Token} (htokens : tokens = before ++ a :: (middle ++ b :: after))
    (ha : a.label = label) (hb : b.label = label) : ∃ token ∈ middle, token.label ≠ label := by
  have hadjacent := List.isChain_iff_forall_rel_of_append_cons_cons.1 hchain
  have hnever {c : Token} {later : List Token} (hsplit : tokens = before ++ a :: c :: later) :
      c.label ≠ label := by
    intro hc
    obtain ⟨-, hskips, -⟩ := hadjacent hsplit ha hc
    rw [hskip] at hskips
    cases hskips
  cases middle with
  | nil => exact absurd hb (hnever htokens)
  | cons c middle => exact ⟨c, List.mem_cons_self, hnever htokens⟩

theorem keepsRuns_of_tokensOfLine {rules : List Rule} {skipBlanks : Bool} {tokens : List Token}
    (havoids : ∀ rule ∈ rules, rule.Avoids label)
    (h : (keeping rules skipBlanks label).tokensOfLine line row = .ok tokens) :
    (keeping rules skipBlanks label).KeepsRuns label line row tokens := by
  obtain ⟨steps, hsteps, rfl⟩ := tokensOfLine_eq_ok_iff.1 h
  have hleads : (keeping rules skipBlanks label).Leads line row 0 steps line.utf8ByteSize := hsteps
  have hchain := hleads.isChain havoids none (by simp)
  have hcovered {c : Char} {place : Nat} (hc : PieceAt line place [c]) :
      Covered label (gatherFrom (some label) none steps) place ↔ .stray c place row ∈ steps := by
    rw [hleads.covered_iff havoids none (by simp) hc]
    simp
  change KeepsRuns _ label line row (gather label steps)
  rw [gather_eq_gatherFrom]
  refine ⟨?_, ?_, ⟨steps, hsteps, ?_⟩, hchain, ?_⟩
  · intro token htoken hlabel
    exact hleads.isStray havoids htoken hlabel
  · intro token htoken hlabel place c hc hstart hstop
    have hstep := (hcovered hc).1 ⟨token, htoken, hlabel, hstart, hstop⟩
    exact (hleads.of_mem_stray hstep).2
  · intro c place
    constructor
    · intro hstep
      have hc := (hleads.of_mem_stray hstep).1
      exact ⟨hc, (hcovered hc).2 hstep⟩
    · rintro ⟨hc, hplace⟩
      exact (hcovered hc).1 hplace
  · intro hskip before a middle b after htokens ha hb
    exact exists_between_runs hskip hchain htokens ha hb

/-- A lexer that keeps characters that no rule wants never fails, and its tokens for them are the
runs of such characters, as long as they can be. -/
theorem lex_runs {rules : List Rule} (havoids : ∀ rule ∈ rules, rule.Avoids label)
    (skipBlanks : Bool) (text : String) :
    ∃ lines, (keeping rules skipBlanks label).lex text = .ok lines ∧
      lines.length = (linesOf text).length ∧
      ∀ row line tokens, (linesOf text)[row]? = some line → lines[row]? = some tokens →
        (keeping rules skipBlanks label).KeepsRuns label line row tokens := by
  obtain ⟨lines, hlines⟩ := @exists_lex_keeping rules skipBlanks label text
  refine ⟨lines, hlines, by simpa using (lex_eq_ok_iff.1 hlines).length_eq.symm, ?_⟩
  intro row line tokens hline htokens
  obtain ⟨line', hline', hkept⟩ := (getElem?_of_lex hlines).1 htokens
  obtain rfl := Option.some.inj (hline.symm.trans hline')
  exact keepsRuns_of_tokensOfLine havoids hkept

theorem lex_runs_signedPairs :
    (∀ rule ∈ signedPairs.rules, rule.Avoids "?") ∧
    ∃ lines, (keeping signedPairs.rules true "?").lex "é ß\u3000+a1 plus\n " = .ok lines ∧
      lines.length = (linesOf "é ß\u3000+a1 plus\n ").length ∧
      ∀ row line tokens, (linesOf "é ß\u3000+a1 plus\n ")[row]? = some line →
        lines[row]? = some tokens →
        (keeping signedPairs.rules true "?").KeepsRuns "?" line row tokens :=
  have havoids := avoids_signedPairs (by decide) (by decide)
  ⟨havoids, lex_runs havoids true "é ß\u3000+a1 plus\n "⟩

end Lexer

end Linewise
