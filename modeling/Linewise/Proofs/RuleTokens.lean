import Linewise.Proofs.Tiling

namespace Linewise

def Rule.HasPattern : Rule → Prop
  | .simple _ | .compound _ _ _ => True
  | .custom _ _ => False

/-- The parts of the token, if there are any, lie in it one behind the other and make it up. -/
def Token.IsTiled (token : Token) (line : String) (row : Nat) : Prop :=
  token.parts = [] ∨
    Tiles line row (fun _ _ ↦ False) token.start token.parts token.stop

theorem PieceAt.within {line inner : String} {offset position : Nat} {piece : List Char}
    (hinner : PieceAt line offset inner.toList) (h : PieceAt inner position piece) :
    PieceAt line (offset + position) piece := by
  obtain ⟨before, after, hline, rfl⟩ := hinner
  obtain ⟨before', after', hinner, rfl⟩ := h
  rw [hinner] at hline
  exact ⟨before ++ before', after' ++ after, by simpa using hline, by simp⟩

theorem Pattern.pieceAt_of_matched? {pattern : Pattern} {cursor : Cursor} {text : List Char}
    (h : pattern.matched? cursor = some text) :
    text ≠ [] ∧ PieceAt cursor.line cursor.position text := by
  obtain ⟨hne, rest, hafter⟩ := matched?_eq_some h
  exact ⟨hne, Cursor.pieceAt_iff.2 ⟨rest, hafter⟩⟩

theorem Pattern.liesIn_of_matched? {pattern : Pattern} {cursor : Cursor} {text : List Char}
    (h : pattern.matched? cursor = some text) {line : String} {offset : Nat}
    (hinner : PieceAt line offset cursor.line.toList) (label : String) (row : Nat)
    (parts : List Token) :
    Token.LiesIn ⟨label, String.ofList text, offset + cursor.position, row, parts⟩ line row := by
  obtain ⟨hne, hpiece⟩ := pieceAt_of_matched? h
  refine ⟨rfl, ?_, ?_⟩
  · simpa [← String.toList_inj] using hne
  · simpa using hinner.within hpiece

theorem Cursor.forward_eq {cursor : Cursor} {text rest : List Char}
    (h : cursor.after = text ++ rest) :
    (cursor.forward text.length).line = cursor.line ∧
      (cursor.forward text.length).position = cursor.position + byteLength text := by
  simp [forward, h]

theorem tiles_of_tile? {line : String} {offset row : Nat} {rules : List SimpleRule}
    {cursor : Cursor} {tokens : List Token} (h : tile? offset row rules cursor = some tokens)
    (hinner : PieceAt line offset cursor.line.toList) :
    Tiles line row (fun _ _ ↦ False) (offset + cursor.position) tokens
      (offset + cursor.line.utf8ByteSize) := by
  fun_induction tile? offset row rules cursor generalizing tokens with
  | case1 rules cursor hend =>
    cases h
    rw [Cursor.position_eq_of_atEnd hend]
    exact .nil _
  | case2 cursor hend => cases h
  | case3 cursor hend rule rules hnone ih => exact ih h hinner
  | case4 cursor hend rule rules text hmatched ih =>
    obtain ⟨rest, htiles, rfl⟩ := Option.map_eq_some_iff.1 h
    obtain ⟨-, after, hafter⟩ := Pattern.matched?_eq_some hmatched
    obtain ⟨hline, hposition⟩ := Cursor.forward_eq hafter
    have htoken := Pattern.liesIn_of_matched? hmatched hinner rule.label row []
    have hrest := ih htiles (hline ▸ hinner)
    rw [hline, hposition] at hrest
    refine .token htoken ?_
    rw [Token.LiesIn.stop_eq]
    simpa [Nat.add_assoc] using hrest

theorem pieceAt_zero (line : String) : PieceAt line 0 line.toList := ⟨[], [], by simp, rfl⟩

theorem Rule.liesIn_of_token? {rule : Rule} (hrule : rule.HasPattern) {cursor : Cursor} {row : Nat}
    {token : Token} (h : rule.token? cursor row = some token) :
    token.start = cursor.position ∧ token.LiesIn cursor.line row ∧
      token.IsTiled cursor.line row := by
  cases rule with
  | simple rule =>
    obtain ⟨text, hmatched, rfl⟩ := Option.map_eq_some_iff.1 h
    have htoken :=
      Pattern.liesIn_of_matched? hmatched (pieceAt_zero cursor.line) rule.label row []
    rw [Nat.zero_add] at htoken
    exact ⟨rfl, htoken, .inl rfl⟩
  | compound label pattern parts =>
    simp only [token?, Option.bind_eq_bind, Option.bind_eq_some_iff, Option.some.injEq] at h
    obtain ⟨text, hmatched, tiles, htiles, rfl⟩ := h
    have htoken :=
      Pattern.liesIn_of_matched? hmatched (pieceAt_zero cursor.line) label row tiles
    rw [Nat.zero_add] at htoken
    refine ⟨rfl, htoken, .inr ?_⟩
    have hparts := tiles_of_tile? htiles (by simpa using htoken.piece)
    rw [Token.stop]
    simpa using hparts
  | custom label classify => exact hrule.elim

theorem Rule.liesIn_of_tokenAt? {rule : Rule} (hrule : rule.HasPattern) {line : String}
    {position row : Nat} {token : Token} (h : rule.tokenAt? line position row = some token) :
    token.start = position ∧ token.LiesIn line row ∧ token.IsTiled line row := by
  simp only [tokenAt?, Option.bind_eq_bind, Option.bind_eq_some_iff] at h
  obtain ⟨cursor, hcursor, htoken⟩ := h
  obtain ⟨rfl, rfl⟩ := Cursor.at?_eq_some_iff.1 hcursor
  exact liesIn_of_token? hrule htoken

end Linewise
