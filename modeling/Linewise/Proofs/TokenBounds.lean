import Linewise.Proofs.Coverage
import Linewise.Proofs.Endings
import Linewise.Proofs.Outcome

namespace Linewise

theorem EndedLine.Proper.sizes {lines : List EndedLine} (h : Proper lines) :
    lines.length ≤ byteLength (joined lines) ∧
      ∀ ended ∈ lines, byteLength ended.line ≤ byteLength (joined lines) := by
  induction h with
  | nil => exact ⟨Nat.le_refl 0, List.forall_mem_nil _⟩
  | @last line _ hne =>
    have hpos := List.length_pos_iff.2 hne
    have hle := length_le_byteLength line
    rw [joined_cons, byteLength_append]
    refine ⟨?_, List.forall_mem_singleton.2 (Nat.le_add_right _ _)⟩
    rw [List.length_singleton]
    omega
  | @cons line ending rest _ hending _ _ ih =>
    have hpos := List.length_pos_iff.2 hending.ne_nil
    have hle := length_le_byteLength ending
    obtain ⟨hlength, hlines⟩ := ih
    rw [joined_cons, byteLength_append, byteLength_append]
    refine ⟨?_, List.forall_mem_cons.2 ⟨Nat.le_add_right _ _, ?_⟩⟩
    · rw [List.length_cons]
      omega
    · intro ended hended
      have hline := hlines ended hended
      omega

theorem linesOf_sizes (text : String) :
    (linesOf text).length ≤ text.utf8ByteSize ∧
      ∀ line ∈ linesOf text, line.utf8ByteSize ≤ text.utf8ByteSize := by
  obtain ⟨lines, hproper, hjoined⟩ := EndedLine.exists_proper text.toList
  obtain ⟨hlength, hlines⟩ := hproper.sizes
  rw [hjoined, ← utf8ByteSize_eq_byteLength] at hlength hlines
  rw [linesOf, ← hjoined, EndedLine.splitAtBreaks_joined hproper, List.map_map]
  refine ⟨by rwa [List.length_map], List.forall_mem_map.2 ?_⟩
  intro ended hended
  rw [Function.comp_apply, utf8ByteSize_ofList]
  exact hlines ended hended

theorem parts_of_tile? {offset row : Nat} {rules : List SimpleRule} {cursor : Cursor}
    {tokens : List Token} (h : tile? offset row rules cursor = some tokens) :
    ∀ token ∈ tokens, token.parts = [] := by
  fun_induction tile? offset row rules cursor generalizing tokens with
  | case1 =>
    cases h
    exact List.forall_mem_nil _
  | case2 => cases h
  | case3 _ _ _ _ _ ih => exact ih h
  | case4 _ _ _ _ _ _ ih =>
    obtain ⟨rest, htiles, rfl⟩ := Option.map_eq_some_iff.1 h
    exact List.forall_mem_cons.2 ⟨rfl, ih htiles⟩

theorem Rule.parts_of_tokenAt? {rule : Rule} (hrule : rule.HasPattern) {line : String}
    {position row : Nat} {token : Token} (h : rule.tokenAt? line position row = some token) :
    ∀ part ∈ token.parts, part.parts = [] := by
  simp only [tokenAt?, Option.bind_eq_bind, Option.bind_eq_some_iff] at h
  obtain ⟨cursor, -, h⟩ := h
  cases rule with
  | simple rule =>
    obtain ⟨text, -, rfl⟩ := Option.map_eq_some_iff.1 h
    exact List.forall_mem_nil _
  | compound label pattern parts =>
    simp only [token?, Option.bind_eq_bind, Option.bind_eq_some_iff, Option.some.injEq] at h
    obtain ⟨text, -, tiles, htiles, rfl⟩ := h
    exact parts_of_tile? htiles
  | custom label classify => exact hrule.elim

theorem Token.mem_unfolded {tokens : List Token} {token part : Token} (htoken : token ∈ tokens)
    (hpart : part ∈ token.parts) : part ∈ unfolded tokens := by
  refine List.mem_flatMap.2 ⟨token, htoken, ?_⟩
  rwa [if_neg (List.ne_nil_of_mem hpart)]

namespace Lexer

variable {lexer : Lexer} {line : String} {row : Nat} {tokens : List Token}

theorem Covers.bounds (h : lexer.Covers line row tokens) :
    ∀ token ∈ tokens, token.row = row ∧ token.start < line.utf8ByteSize := by
  intro token htoken
  obtain ⟨hlt, -, hstop⟩ := h.spans token htoken
  exact ⟨h.rows token htoken, Nat.lt_of_lt_of_le hlt hstop.le⟩

theorem parts_of_tokensOfLine (hrules : ∀ rule ∈ lexer.rules, rule.HasPattern)
    (h : lexer.tokensOfLine line row = .ok tokens) :
    ∀ token ∈ tokens, ∀ part ∈ token.parts, part.parts = [] := by
  rw [tokensOfLine_eq] at h
  obtain ⟨steps, hsteps, rfl⟩ := map_eq_ok_iff.1 h
  intro token htoken
  obtain hparts | hstep := mem_gatherFrom htoken
  · rw [hparts]
    exact List.forall_mem_nil _
  · obtain ⟨place, hpicks⟩ := (leads_of_stepsFrom hsteps).exists_picks hstep
    obtain ⟨rule, hrule, hoffers, -⟩ := hpicks.exists_offers
    exact Rule.parts_of_tokenAt? (hrules rule hrule) hoffers

/-- Places of tokens and parts are less than the size of the text, and parts have no parts. -/
theorem bounds_of_lex (hrules : ∀ rule ∈ lexer.rules, rule.HasPattern) {text : String}
    {lines : List (List Token)} (h : lexer.lex text = .ok lines) (htokens : tokens ∈ lines)
    {token : Token} (htoken : token ∈ tokens) :
    (token.start < text.utf8ByteSize ∧ token.row < text.utf8ByteSize) ∧
      ∀ part ∈ token.parts,
        part.start < text.utf8ByteSize ∧ part.row < text.utf8ByteSize ∧ part.parts = [] := by
  obtain ⟨row, hrow⟩ := List.mem_iff_getElem?.1 htokens
  obtain ⟨line, hline, hfound⟩ := (getElem?_of_lex h).1 hrow
  obtain ⟨hlength, hsizes⟩ := linesOf_sizes text
  have hsize := hsizes line (List.mem_of_getElem? hline)
  have hlt := (List.getElem?_eq_some_iff.1 hline).1
  obtain ⟨hcovers, hunfolded⟩ := covers_of_tokensOfLine hrules hfound
  obtain ⟨rfl, hstart⟩ := hcovers.bounds token htoken
  refine ⟨⟨by omega, by omega⟩, ?_⟩
  intro part hpart
  obtain ⟨hrow, hstart⟩ := hunfolded.bounds part (Token.mem_unfolded htoken hpart)
  exact ⟨by omega, by omega, parts_of_tokensOfLine hrules hfound token htoken part hpart⟩

end Lexer

end Linewise
