import Linewise.Proofs.Gathering

namespace Linewise

section

variable {α β ε : Type} {f : α → Except ε β}

theorem mapM_eq_ok_iff {items : List α} {found : List β} :
    items.mapM f = .ok found ↔ List.Forall₂ (fun item value ↦ f item = .ok value) items found := by
  induction items generalizing found with
  | nil => simp [pure, Except.pure, eq_comm]
  | cons item items ih =>
    rw [List.mapM_cons, List.forall₂_cons_left_iff]
    cases hitem : f item with
    | error error => simp [bind, Except.bind]
    | ok value =>
      cases hrest : items.mapM f with
      | error error => simp [bind, Except.bind, ← ih, hrest]
      | ok rest =>
        simp [bind, Except.bind, pure, Except.pure, ← ih, hrest, eq_comm]

theorem mapM_map_result {γ : Type} (g : β → γ) (items : List α) :
    (items.mapM fun item ↦ (f item).map g) = (items.mapM f).map (List.map g) := by
  induction items with
  | nil => rfl
  | cons item items ih =>
    rw [List.mapM_cons, List.mapM_cons, ih]
    cases f item with
    | error error => rfl
    | ok value => cases items.mapM f <;> rfl

theorem mapM_eq_error_iff {items : List α} {error : ε} :
    items.mapM f = .error error ↔
      ∃ earlier item later, items = earlier ++ item :: later ∧
        (∀ other ∈ earlier, ∃ value, f other = .ok value) ∧ f item = .error error := by
  induction items with
  | nil => simp [pure, Except.pure]
  | cons item items ih =>
    rw [List.mapM_cons]
    cases hitem : f item with
    | error error' =>
      constructor
      · intro h
        cases h
        exact ⟨[], item, items, rfl, by simp, hitem⟩
      · rintro ⟨earlier, other, later, hitems, hearlier, herror⟩
        cases earlier with
        | nil =>
          obtain ⟨rfl, -⟩ := List.cons.inj hitems
          cases hitem.symm.trans herror
          rfl
        | cons first earlier =>
          obtain ⟨rfl, -⟩ := List.cons.inj hitems
          obtain ⟨value, hvalue⟩ := hearlier item (by simp)
          rw [hitem] at hvalue
          cases hvalue
    | ok value =>
      have hrest : (do
          let rest ← items.mapM f
          pure (value :: rest)) = .error error ↔ items.mapM f = .error error := by
        cases items.mapM f <;> simp [bind, Except.bind, pure, Except.pure]
      refine hrest.trans (ih.trans ?_)
      constructor
      · rintro ⟨earlier, other, later, rfl, hearlier, herror⟩
        refine ⟨item :: earlier, other, later, rfl, ?_, herror⟩
        exact List.forall_mem_cons.2 ⟨⟨value, hitem⟩, hearlier⟩
      · rintro ⟨earlier, other, later, hitems, hearlier, herror⟩
        cases earlier with
        | nil =>
          obtain ⟨rfl, -⟩ := List.cons.inj hitems
          rw [hitem] at herror
          cases herror
        | cons first earlier =>
          obtain ⟨rfl, rfl⟩ := List.cons.inj hitems
          exact ⟨earlier, other, later, rfl, (List.forall_mem_cons.1 hearlier).2, herror⟩

end

namespace Lexer

theorem scanFrom_eq_map (lexer : Lexer) (row : Nat) (assembly : Assembly) (cursor : Cursor) :
    lexer.scanFrom row assembly cursor =
      (lexer.stepsFrom row cursor).map (·.foldl Assembly.take assembly) := by
  fun_induction scanFrom lexer row assembly cursor with
  | case1 assembly cursor hend =>
    rw [stepsFrom_of_atEnd hend]
    rfl
  | case2 assembly cursor hend hnone =>
    rw [stepsFrom_of_stuck (Bool.eq_false_iff.2 hend) hnone]
    rfl
  | case3 assembly cursor hend step next hstep _ ih =>
    rw [stepsFrom_of_step? hstep, ih]
    cases lexer.stepsFrom row next <;> rfl

theorem strayLabel?_of_stray {lexer : Lexer} {cursor next : Cursor} {row : Nat} {step : Step}
    (h : lexer.step? cursor row = some (step, next)) (hnone : lexer.strayLabel? = none) :
    step.strayChar? = none := by
  unfold step? at h
  split at h
  · cases h
    rfl
  · split at h
    · cases h
    · simp only [hnone, Option.isSome_none, Bool.false_eq_true, if_false] at h
      split at h
      · cases h
        rfl
      · cases h

theorem no_stray_of_stepsFrom {lexer : Lexer} {cursor : Cursor} {row : Nat} {steps : List Step}
    (h : lexer.stepsFrom row cursor = .ok steps) (hnone : lexer.strayLabel? = none) :
    ∀ step ∈ steps, step.strayChar? = none := by
  fun_induction stepsFrom lexer row cursor generalizing steps with
  | case1 cursor hend =>
    cases h
    simp
  | case2 cursor hend _ => cases h
  | case3 cursor hend step next hstep _ ih =>
    cases hrest : lexer.stepsFrom row next with
    | error error =>
      rw [hrest] at h
      cases h
    | ok rest =>
      rw [hrest] at h
      cases h
      exact List.forall_mem_cons.2 ⟨strayLabel?_of_stray hstep hnone, ih hrest⟩

theorem tokensOfLine_eq (lexer : Lexer) (line : String) (row : Nat) :
    lexer.tokensOfLine line row =
      (lexer.stepsFrom row (.start line)).map (gatherFrom lexer.strayLabel? none) := by
  rw [tokensOfLine]
  cases hsteps : lexer.stepsFrom row (.start line) with
  | error error => rfl
  | ok steps =>
    refine congrArg Except.ok ?_
    rw [gather_eq_gatherFrom]
    cases hlabel : lexer.strayLabel? with
    | none => exact gatherFrom_eq_of_no_stray (no_stray_of_stepsFrom hsteps hlabel) _ _
    | some label => rfl

theorem scanLine_between (lexer : Lexer) (lines : List (List Token)) (line : String) (row : Nat) :
    lexer.scanLine (.between lexer.strayLabel? lines) line row =
      (lexer.tokensOfLine line row).map fun tokens ↦
        .between lexer.strayLabel? (lines ++ [tokens]) := by
  rw [scanLine, scanFrom_eq_map, tokensOfLine_eq]
  cases lexer.stepsFrom row (.start line) with
  | error error => rfl
  | ok steps => exact congrArg Except.ok (Assembly.endLine_foldl_take _ lines steps)

theorem foldlM_scanLine (lexer : Lexer) (rows : List (String × Nat)) (lines : List (List Token)) :
    rows.foldlM (fun assembly (line, row) ↦ lexer.scanLine assembly line row)
        (.between lexer.strayLabel? lines) =
      (rows.mapM fun (line, row) ↦ lexer.tokensOfLine line row).map fun found ↦
        .between lexer.strayLabel? (lines ++ found) := by
  induction rows generalizing lines with
  | nil => simp [Except.map, pure, Except.pure]
  | cons entry rows ih =>
    obtain ⟨line, row⟩ := entry
    rw [List.foldlM_cons, List.mapM_cons]
    dsimp only
    rw [scanLine_between]
    cases lexer.tokensOfLine line row with
    | error error => rfl
    | ok tokens =>
      refine (ih (lines ++ [tokens])).trans ?_
      dsimp only [bind, Except.bind]
      cases rows.mapM fun (line, row) ↦ lexer.tokensOfLine line row with
      | error error => rfl
      | ok found => simp [Except.map, pure, Except.pure]

/-- One assembly is carried through a text, but between two lines it holds nothing but the lines
that are done. So it comes to the same to take each line on its own. -/
theorem lex_eq_lexByLine (lexer : Lexer) (text : String) :
    lexer.lex text = lexer.lexByLine text := by
  have hscan := foldlM_scanLine lexer (linesOf text).zipIdx []
  rw [lex, lexByLine]
  refine (congrArg (Except.map Assembly.finish) hscan).trans ?_
  cases (linesOf text).zipIdx.mapM fun (line, row) ↦ lexer.tokensOfLine line row with
  | error error => rfl
  | ok lines => exact congrArg Except.ok (Assembly.finish_between _ lines)

theorem lex_eq_ok_iff {lexer : Lexer} {text : String} {lines : List (List Token)} :
    lexer.lex text = .ok lines ↔
      List.Forall₂ (fun entry tokens ↦ lexer.tokensOfLine entry.1 entry.2 = .ok tokens)
        (linesOf text).zipIdx lines := by
  rw [lex_eq_lexByLine, lexByLine, mapM_eq_ok_iff]

theorem getElem?_of_lex {lexer : Lexer} {text : String} {lines : List (List Token)}
    (h : lexer.lex text = .ok lines) {row : Nat} {tokens : List Token} :
    lines[row]? = some tokens ↔
      ∃ line, (linesOf text)[row]? = some line ∧ lexer.tokensOfLine line row = .ok tokens := by
  have hfound := lex_eq_ok_iff.1 h
  have hlength : (linesOf text).length = lines.length := by simpa using hfound.length_eq
  have hline (hrow : row < (linesOf text).length) (hrow' : row < lines.length) :
      lexer.tokensOfLine (linesOf text)[row] row = .ok lines[row] := by
    simpa using hfound.get (by simpa using hrow) hrow'
  constructor
  · intro htokens
    obtain ⟨hrow, rfl⟩ := List.getElem?_eq_some_iff.1 htokens
    exact ⟨_, List.getElem?_eq_getElem (hlength ▸ hrow), hline (hlength ▸ hrow) hrow⟩
  · rintro ⟨line, hat, htokens⟩
    obtain ⟨hrow, rfl⟩ := List.getElem?_eq_some_iff.1 hat
    rw [hline hrow (hlength ▸ hrow), Except.ok.injEq] at htokens
    exact List.getElem?_eq_some_iff.2 ⟨hlength ▸ hrow, htokens⟩

theorem lex_eq_error_iff {lexer : Lexer} {text : String} {error : ScanError} :
    lexer.lex text = .error error ↔
      ∃ earlier line later, linesOf text = earlier ++ line :: later ∧
        (∀ entry ∈ earlier.zipIdx, ∃ tokens, lexer.tokensOfLine entry.1 entry.2 = .ok tokens) ∧
        lexer.tokensOfLine line earlier.length = .error error := by
  rw [lex_eq_lexByLine, lexByLine, mapM_eq_error_iff]
  constructor
  · rintro ⟨earlier, ⟨line, row⟩, later, hrows, hearlier, herror⟩
    obtain ⟨lines, rest, hlines, rfl, hrest⟩ := List.zipIdx_eq_append_iff.1 hrows
    obtain ⟨line', rest, rfl, hentry, -⟩ := List.zipIdx_eq_cons_iff.1 hrest.symm
    rw [Prod.mk.injEq, Nat.zero_add] at hentry
    obtain ⟨rfl, rfl⟩ := hentry
    exact ⟨lines, line, rest, hlines, hearlier, herror⟩
  · rintro ⟨earlier, line, later, hlines, hearlier, herror⟩
    refine ⟨earlier.zipIdx, (line, earlier.length), later.zipIdx (earlier.length + 1), ?_,
      hearlier, herror⟩
    rw [hlines, List.zipIdx_append, List.zipIdx_cons]
    simp

end Lexer

end Linewise
