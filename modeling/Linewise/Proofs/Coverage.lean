import Linewise.Proofs.Classification
import Linewise.Proofs.LineByLine
import Linewise.Proofs.RuleTokens

namespace Linewise

/-- The tokens, with those that have parts replaced by their parts. -/
def Token.unfolded (tokens : List Token) : List Token :=
  tokens.flatMap fun token ↦ if token.parts = [] then [token] else token.parts

/-- The run is the piece of the line that ends at the byte position. -/
structure StrayRun.Reaches (run : StrayRun) (line : String) (row position : Nat) : Prop where
  row_eq : run.row = row
  text_ne : run.text ≠ ""
  piece : PieceAt line run.start run.text.toList
  stop_eq : run.start + byteLength run.text.toList = position

theorem StrayRun.Reaches.extend {run? : Option StrayRun} {line : String} {row position : Nat}
    (hrun : ∀ run ∈ run?, run.Reaches line row position) {c : Char}
    (hc : PieceAt line position [c]) :
    (StrayRun.extend run? c position row).Reaches line row (position + c.utf8Size) ∧
      (StrayRun.extend run? c position row).start = (run?.map StrayRun.start).getD position := by
  cases run? with
  | none =>
    refine ⟨⟨rfl, ?_, ?_, ?_⟩, rfl⟩
    · simp [StrayRun.extend, ← String.toList_inj]
    · simpa [StrayRun.extend] using hc
    · change position + byteLength ("".push c).toList = position + c.utf8Size
      simp only [String.toList_push, String.toList_empty, List.nil_append, byteLength_cons,
        byteLength_nil, Nat.add_zero]
  | some run =>
    obtain ⟨hrow, hne, hpiece, rfl⟩ := hrun run rfl
    refine ⟨⟨hrow, ?_, ?_, ?_⟩, rfl⟩
    · intro hempty
      have hchars := congrArg String.toList hempty
      simp [StrayRun.extend] at hchars
    · simpa [StrayRun.extend] using hpiece.append hc
    · simp only [StrayRun.extend, Option.getD_some, String.toList_push, byteLength_append,
        byteLength_cons, byteLength_nil]
      omega

theorem tiles_runTokens {label? : Option String} {run? : Option StrayRun} {line : String}
    {row position : Nat} {gap : Nat → Char → Prop}
    (hrun : ∀ run ∈ run?, run.Reaches line row position)
    (hlabel : run?.isSome = true → label?.isSome = true) :
    Tiles line row gap ((run?.map StrayRun.start).getD position) (runTokens label? run?)
      position := by
  cases run? with
  | none => simpa using Tiles.nil position
  | some run =>
    obtain ⟨label, rfl⟩ := Option.isSome_iff_exists.1 (hlabel rfl)
    obtain ⟨hrow, hne, hpiece, rfl⟩ := hrun run rfl
    have htoken : Token.LiesIn ⟨label, run.text, run.start, run.row, []⟩ line row :=
      ⟨hrow, hne, hpiece⟩
    have hsingle : Tiles line row gap run.start [_] _ := .single htoken
    rwa [Token.LiesIn.stop_eq] at hsingle

theorem mem_gatherFrom {label? : Option String} {run? : Option StrayRun} {steps : List Step}
    {token : Token} (h : token ∈ gatherFrom label? run? steps) :
    token.parts = [] ∨ .token token ∈ steps := by
  have hrunTokens (run? : Option StrayRun) (h : token ∈ runTokens label? run?) :
      token.parts = [] := by
    cases label? <;> cases run? <;> simp_all [runTokens]
  induction steps generalizing run? with
  | nil => exact .inl (hrunTokens run? h)
  | cons step steps ih =>
    cases step with
    | token other =>
      rw [gatherFrom, List.mem_append, List.mem_cons] at h
      obtain h | rfl | h := h
      · exact .inl (hrunTokens run? h)
      · exact .inr (by simp)
      · exact (ih h).imp id (List.mem_cons_of_mem _)
    | blank c =>
      rw [gatherFrom, List.mem_append] at h
      obtain h | h := h
      · exact .inl (hrunTokens run? h)
      · exact (ih h).imp id (List.mem_cons_of_mem _)
    | stray c position row =>
      rw [gatherFrom] at h
      exact (ih h).imp id (List.mem_cons_of_mem _)

namespace Lexer

/-- The character is blank, the lexer skips such, and none of its rules finds anything there. -/
def Skips (lexer : Lexer) (line : String) (row position : Nat) (c : Char) : Prop :=
  isBlank c = true ∧ lexer.skipBlanks = true ∧
    ∀ rule ∈ lexer.rules, rule.tokenAt? line position row = none

/-- The tokens are pieces of the line one behind the other, and no character is left over but such
as the lexer skips. -/
structure Covers (lexer : Lexer) (line : String) (row : Nat) (tokens : List Token) : Prop where
  rows : ∀ token ∈ tokens, token.row = row
  spans : ∀ token ∈ tokens, token.start < token.stop ∧ IsPlace line token.start ∧
    IsPlace line token.stop
  texts : ∀ token ∈ tokens, PieceAt line token.start token.text.toList
  ordered : tokens.Pairwise fun a b ↦ a.start < b.start ∧ a.stop ≤ b.start
  gaps : ∀ position c, PieceAt line position [c] →
    (∀ token ∈ tokens, ¬ (token.start ≤ position ∧ position < token.stop)) →
    lexer.Skips line row position c
  whole : lexer.skipBlanks = false → tokens.flatMap (·.text.toList) = line.toList

variable {lexer : Lexer} {line : String} {row position stop : Nat} {tokens : List Token}
  {steps : List Step}

theorem covers_of_tiles (h : Tiles line row (lexer.Skips line row) 0 tokens line.utf8ByteSize) :
    lexer.Covers line row tokens where
  rows token htoken := (h.liesIn token htoken).row_eq
  spans token htoken := by
    have hlies := h.liesIn token htoken
    exact ⟨hlies.lt, hlies.piece.isPlace, hlies.fits.2.2⟩
  texts token htoken := (h.liesIn token htoken).piece
  ordered := h.pairwise
  gaps position c hc huncovered := by
    have hle := hc.le
    have hpos := c.utf8Size_pos
    simp only [byteLength_cons, byteLength_nil] at hle
    exact h.gap_of_uncovered (Nat.zero_le _) (by omega) hc huncovered
  whole hskip := by
    have hfull : Tiles line row (fun _ _ ↦ False) 0 tokens line.utf8ByteSize :=
      h.mono fun position c hgap ↦ Bool.false_ne_true (hskip.symm.trans hgap.2.1)
    obtain ⟨hpiece, hlen⟩ := hfull.piece (isPlace_zero line)
    refine hpiece.unique (pieceAt_zero line) ?_
    rw [← utf8ByteSize_eq_byteLength]
    omega

theorem tiles_unfolded {gap : Nat → Char → Prop} (h : Tiles line row gap position tokens stop)
    (hparts : ∀ token ∈ tokens, token.IsTiled line row) :
    Tiles line row gap position (Token.unfolded tokens) stop := by
  induction h with
  | nil => exact .nil _
  | gap hc hgap _ ih => exact .gap hc hgap (ih hparts)
  | @token stop token tokens htoken _ ih =>
    obtain ⟨htiled, hrest⟩ := List.forall_mem_cons.1 hparts
    rw [Token.unfolded, List.flatMap_cons]
    refine Tiles.append ?_ (ih hrest)
    split
    · exact .single htoken
    · next hne => exact (htiled.resolve_left hne).mono fun _ _ hgap ↦ hgap.elim

theorem Leads.exists_picks (h : lexer.Leads line row position steps stop) {token : Token}
    (htoken : .token token ∈ steps) : ∃ place, lexer.Picks line place row token := by
  induction h with
  | nil => simp at htoken
  | cons hstep _ ih =>
    obtain rfl | htoken := List.mem_cons.1 htoken
    · cases hstep with
      | token hpicks => exact ⟨_, hpicks⟩
    · exact ih htoken

theorem Picks.liesIn (hrules : ∀ rule ∈ lexer.rules, rule.HasPattern) {token : Token}
    (h : lexer.Picks line position row token) :
    token.start = position ∧ token.LiesIn line row ∧ token.IsTiled line row := by
  obtain ⟨rule, hrule, hfound, -⟩ := h.exists_offers
  exact Rule.liesIn_of_tokenAt? (hrules rule hrule) hfound

theorem Declines.tokenAt?_eq_none (hrules : ∀ rule ∈ lexer.rules, rule.HasPattern)
    (h : lexer.Declines line position row) :
    ∀ rule ∈ lexer.rules, rule.tokenAt? line position row = none := by
  intro rule hrule
  rw [Option.eq_none_iff_forall_ne_some]
  intro token hfound
  obtain ⟨rfl, hlies, -⟩ := Rule.liesIn_of_tokenAt? (hrules rule hrule) hfound
  exact h rule hrule token ⟨hfound, hlies.fits⟩

theorem Leads.tiles (hrules : ∀ rule ∈ lexer.rules, rule.HasPattern)
    (h : lexer.Leads line row position steps stop) (run? : Option StrayRun)
    (hrun : ∀ run ∈ run?, run.Reaches line row position)
    (hlabel : run?.isSome = true → lexer.strayLabel?.isSome = true) :
    Tiles line row (lexer.Skips line row) ((run?.map StrayRun.start).getD position)
      (gatherFrom lexer.strayLabel? run? steps) stop := by
  -- Each step either ends the open run or is a stray that makes it longer.
  induction h generalizing run? with
  | nil => exact tiles_runTokens hrun hlabel
  | @cons position next stop step steps hstep _ ih =>
    cases hstep with
    | @token token hpicks =>
      obtain ⟨rfl, hlies, -⟩ := hpicks.liesIn hrules
      have hrest := ih none (by simp) (by simp)
      exact (tiles_runTokens hrun hlabel).append (.token hlies hrest)
    | blank hdeclines hskip hc hblank =>
      have hrest := ih none (by simp) (by simp)
      have hnone := hdeclines.tokenAt?_eq_none hrules
      exact (tiles_runTokens hrun hlabel).append (.gap hc ⟨hblank, hskip, hnone⟩ hrest)
    | @stray c _ hc _ hstray =>
      obtain ⟨hreaches, hstart⟩ := StrayRun.Reaches.extend hrun hc
      have hrest := ih (some (.extend run? c position row)) (by simpa using hreaches) fun _ ↦ hstray
      rw [← hstart]
      exact hrest

theorem covers_of_tokensOfLine (hrules : ∀ rule ∈ lexer.rules, rule.HasPattern)
    (h : lexer.tokensOfLine line row = .ok tokens) :
    lexer.Covers line row tokens ∧ lexer.Covers line row (Token.unfolded tokens) := by
  rw [tokensOfLine_eq] at h
  cases hsteps : lexer.stepsFrom row (.start line) with
  | error error =>
    rw [hsteps] at h
    cases h
  | ok steps =>
    rw [hsteps] at h
    cases h
    have hleads := leads_of_stepsFrom hsteps
    have htiles := hleads.tiles hrules none (by simp) (by simp)
    refine ⟨covers_of_tiles htiles, covers_of_tiles (tiles_unfolded htiles fun token htoken ↦ ?_)⟩
    obtain hparts | hstep := mem_gatherFrom htoken
    · exact .inl hparts
    · obtain ⟨place, hpicks⟩ := hleads.exists_picks hstep
      exact (hpicks.liesIn hrules).2.2

/-- What a lexer of rules with patterns finds in a text covers each of its lines, and so do the
parts of what it finds. -/
theorem lex_covers (hrules : ∀ rule ∈ lexer.rules, rule.HasPattern) {text : String}
    {lines : List (List Token)} (h : lexer.lex text = .ok lines) :
    lines.length = (linesOf text).length ∧
      ∀ row line tokens, (linesOf text)[row]? = some line → lines[row]? = some tokens →
        lexer.Covers line row tokens ∧ lexer.Covers line row (Token.unfolded tokens) := by
  have hfound := lex_eq_ok_iff.1 h
  refine ⟨by simpa using hfound.length_eq.symm, fun row line tokens hline htokens ↦ ?_⟩
  obtain ⟨hrow, rfl⟩ := List.getElem?_eq_some_iff.1 hline
  obtain ⟨hrow', rfl⟩ := List.getElem?_eq_some_iff.1 htokens
  have hline := hfound.get (by simpa using hrow) hrow'
  exact covers_of_tokensOfLine hrules (by simpa using hline)

def pairs : Lexer where
  rules :=
    let letter := Regex.char (.range 0x61 0x7a)
    let digit := Regex.char (.range 0x30 0x39)
    [.compound "pair" ⟨"[a-z][0-9]", (letter.seq digit).program⟩
      [⟨"letter", ⟨"[a-z]", letter.program⟩⟩, ⟨"digit", ⟨"[0-9]", digit.program⟩⟩]]
  skipBlanks := true
  strayLabel? := some "?"

theorem lex_covers_pairs :
    ∃ lines,
      (∀ rule ∈ pairs.rules, rule.HasPattern) ∧ pairs.lex "é a1" = .ok lines ∧
      lines.length = (linesOf "é a1").length ∧
      ∀ row line tokens, (linesOf "é a1")[row]? = some line → lines[row]? = some tokens →
        pairs.Covers line row tokens ∧ pairs.Covers line row (Token.unfolded tokens) := by
  have hrules : ∀ rule ∈ pairs.rules, rule.HasPattern := by simp [pairs, Rule.HasPattern]
  have hlines : linesOf "é a1" = ["é a1"] := by decide
  have hstray : pairs.step? (.start "é a1") 0 =
      some (.stray 'é' 0 0, (Cursor.start "é a1").forward 1) := rfl
  have hblank : pairs.step? ((Cursor.start "é a1").forward 1) 0 =
      some (.blank ' ', (Cursor.start "é a1").forward 2) := rfl
  have htoken : pairs.step? ((Cursor.start "é a1").forward 2) 0 =
      some (.token ⟨"pair", "a1", 3, 0, [⟨"letter", "a", 3, 0, []⟩, ⟨"digit", "1", 4, 0, []⟩]⟩,
        ((Cursor.start "é a1").forward 2).forward 2) := rfl
  have hend : (((Cursor.start "é a1").forward 2).forward 2).atEnd = true := rfl
  have hlex : pairs.lex "é a1" = .ok [
      [⟨"?", "é", 0, 0, []⟩,
        ⟨"pair", "a1", 3, 0, [⟨"letter", "a", 3, 0, []⟩, ⟨"digit", "1", 4, 0, []⟩]⟩]] := by
    rw [lex_eq_ok_iff, hlines]
    refine .cons ?_ .nil
    rw [tokensOfLine_eq, stepsFrom_of_step? hstray, stepsFrom_of_step? hblank,
      stepsFrom_of_step? htoken, stepsFrom_of_atEnd hend]
    rfl
  exact ⟨_, hrules, hlex, lex_covers hrules hlex⟩

def signedPairs : Lexer := { pairs with rules := .ofWord "sign" "plus" "+" 0 :: pairs.rules }

end Lexer

end Linewise
