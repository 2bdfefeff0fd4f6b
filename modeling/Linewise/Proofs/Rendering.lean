import Linewise.Proofs.Numerals
import Linewise.Proofs.Printing
import Linewise.Proofs.TwoPhases

namespace Linewise

/-- What marks a column below a text: a tab under each tab before it, a blank under each other
character, and a caret. -/
structure PointsAt (pointer text : List Char) (column : Nat) : Prop where
  length : pointer.length = column + 1
  caret : ∀ i : Nat, pointer[i]? = some '^' ↔ i = column
  tab : ∀ i < column, pointer[i]? = some '\t' ↔ text[i]? = some '\t'
  blank : ∀ i < column, pointer[i]? = some ' ' ↔ text[i]? ≠ some '\t'

theorem Unbroken.notMem_feed {line : List Char} (h : Unbroken line) : '\n' ∉ line := by
  intro hmem
  have hbreak := h '\n' hmem
  revert hbreak
  decide

namespace ScanError

theorem toList_pointer (error : ScanError) :
    error.pointer.toList =
      error.before.map (fun c ↦ if c = '\t' then '\t' else ' ') ++ ['^'] := by
  rw [pointer, String.toList_ofList]

theorem mem_pointer {error : ScanError} {c : Char} (hc : c ∈ error.pointer.toList) :
    c = '\t' ∨ c = ' ' ∨ c = '^' := by
  rw [toList_pointer, List.mem_append, List.mem_map, List.mem_singleton] at hc
  rcases hc with ⟨d, -, hd⟩ | hc
  · split at hd
    · exact .inl hd.symm
    · exact .inr (.inl hd.symm)
  · exact .inr (.inr hc)

theorem pointsAt_pointer {error : ScanError} {after : List Char}
    (hline : error.line.toList = error.before ++ after) :
    PointsAt error.pointer.toList error.line.toList error.before.length := by
  have hmarked {i : Nat} (hi : i < error.before.length) :
      error.pointer.toList[i]? = some (if error.before[i] = '\t' then '\t' else ' ') := by
    rw [toList_pointer, List.getElem?_append_left (by simpa using hi), List.getElem?_map,
      List.getElem?_eq_getElem hi, Option.map_some]
  have hbefore {i : Nat} (hi : i < error.before.length) :
      error.line.toList[i]? = some error.before[i] := by
    rw [hline, List.getElem?_append_left hi, List.getElem?_eq_getElem hi]
  constructor
  · simp [toList_pointer]
  · intro i
    by_cases hi : i < error.before.length
    · rw [hmarked hi]
      have hne : i ≠ error.before.length := by omega
      split <;> simp [hne]
    · rw [toList_pointer, List.getElem?_append_right (by simpa using hi), List.length_map]
      by_cases hcolumn : i = error.before.length
      · simp [hcolumn]
      · rw [List.getElem?_eq_none (by simp; omega)]
        simp [hcolumn]
  · intro i hi
    rw [hmarked hi, hbefore hi]
    split <;> simp_all
  · intro i hi
    rw [hmarked hi, hbefore hi]
    split <;> simp_all

def header (error : ScanError) : String :=
  "Unmatched text at line " ++ toString error.row ++ " and position " ++
    toString error.position ++ ":"

theorem toList_header (error : ScanError) :
    error.header.toList =
      "Unmatched text at line ".toList ++ (Nat.toDigits 10 error.row ++
        ' ' :: ("and position ".toList ++ (Nat.toDigits 10 error.position ++ [':']))) := by
  have hmiddle : " and position ".toList = ' ' :: "and position ".toList := rfl
  have hcolon : ":".toList = [':'] := rfl
  -- The equation of a definition with long texts in it takes `rw` too much time.
  unfold header
  simp only [String.toList_append, toList_toString, hmiddle, hcolon, List.append_assoc,
    List.cons_append]

theorem toList_render (error : ScanError) :
    error.render.toList =
      error.header.toList ++ '\n' :: (error.line.toList ++ '\n' :: error.pointer.toList) := by
  have hcolon : ":\n".toList = ":".toList ++ ['\n'] := rfl
  have hfeed : "\n".toList = ['\n'] := rfl
  unfold render header
  simp only [String.toList_append, hcolon, hfeed, List.append_assoc, List.cons_append,
    List.nil_append]

theorem unbroken_header (error : ScanError) : Unbroken error.header.toList := by
  have hdigits (n : Nat) : Unbroken (Nat.toDigits 10 n) := by
    intro c hc
    obtain ⟨digit, rfl⟩ := exists_digitChar_of_mem_toDigits (by decide) hc
    simp [isLineBreak]
  have hhead : Unbroken "Unmatched text at line ".toList := by simp [Unbroken, isLineBreak]
  have hmiddle : Unbroken "and position ".toList := by simp [Unbroken, isLineBreak]
  rw [toList_header]
  intro c hc
  simp only [List.mem_append, List.mem_cons, List.not_mem_nil, or_false] at hc
  rcases hc with hc | hc | rfl | hc | hc | rfl
  · exact hhead c hc
  · exact hdigits _ c hc
  · rfl
  · exact hmiddle c hc
  · exact hdigits _ c hc
  · rfl

theorem unbroken_pointer (error : ScanError) : Unbroken error.pointer.toList := by
  intro c hc
  rcases mem_pointer hc with rfl | rfl | rfl <;> rfl

theorem header_inj {a b : ScanError} (h : a.header = b.header) :
    a.row = b.row ∧ a.position = b.position := by
  have hblank (digit : Nat) : Nat.digitChar digit ≠ ' ' := Nat.digitChar_ne ' ' (by decide)
  have hcolon (digit : Nat) : Nat.digitChar digit ≠ ':' := Nat.digitChar_ne ':' (by decide)
  have hlists := congrArg String.toList h
  rw [toList_header, toList_header] at hlists
  obtain ⟨hrow, hmiddle⟩ :=
    toDigits_append_inj (by decide) (by decide) hblank (List.append_cancel_left hlists)
  obtain ⟨hposition, -⟩ :=
    toDigits_append_inj (by decide) (by decide) hcolon (List.append_cancel_left hmiddle)
  exact ⟨hrow, hposition⟩

/-- Nothing of an error is lost in its text, whatever its line is and wherever its place is. -/
theorem render_eq_iff (a b : ScanError) :
    a.render = b.render ↔ a.line = b.line ∧ a.position = b.position ∧ a.row = b.row := by
  constructor
  · intro h
    have hlists := congrArg String.toList h
    rw [toList_render, toList_render] at hlists
    obtain ⟨hheader, hrest⟩ := append_cons_inj_of_notMem_left
      (unbroken_header a).notMem_feed (unbroken_header b).notMem_feed hlists
    -- The line may have line feeds in it, but the pointer has none, so the last one ends the line.
    obtain ⟨hline, -⟩ := append_cons_inj_of_notMem_right
      (unbroken_pointer a).notMem_feed (unbroken_pointer b).notMem_feed hrest
    obtain ⟨hrow, hposition⟩ := header_inj (String.toList_inj.1 hheader)
    exact ⟨String.toList_inj.1 hline, hposition, hrow⟩
  · intro h
    obtain ⟨hline, hposition, hrow⟩ := h
    cases a
    cases b
    dsimp only at hline hposition hrow
    rw [hline, hposition, hrow]

theorem linesOf_render {error : ScanError} (hline : Unbroken error.line.toList) :
    linesOf error.render = [error.header, error.line, error.pointer] := by
  have hfeed : IsEnding ['\n'] := .inr ⟨'\n', by decide, rfl⟩
  have hpointer : error.pointer.toList ≠ [] := by simp [toList_pointer]
  have hproper : EndedLine.Proper [⟨error.header.toList, ['\n']⟩, ⟨error.line.toList, ['\n']⟩,
      ⟨error.pointer.toList, []⟩] :=
    .cons error.unbroken_header hfeed (by simp)
      (.cons hline hfeed (by simp) (.last error.unbroken_pointer hpointer))
  have hrender : error.render =
      String.ofList (EndedLine.joined [⟨error.header.toList, ['\n']⟩,
        ⟨error.line.toList, ['\n']⟩, ⟨error.pointer.toList, []⟩]) := by
    apply String.toList_inj.1
    simp [toList_render, EndedLine.joined]
  rw [hrender, linesOf_joined hproper]
  simp

theorem before_of_isPlace {error : ScanError} (hplace : IsPlace error.line error.position) :
    (Cursor.at? error.line error.position).isSome = true ∧
      byteLength error.before = error.position ∧
      ∃ after, error.line.toList = error.before ++ after := by
  obtain ⟨cursor, hline, hposition⟩ := Cursor.exists_of_isPlace hplace
  have hfound := Cursor.at?_eq_some_iff.2 ⟨hline, hposition⟩
  have hbefore : error.before = cursor.before.reverse := by rw [before, hfound]
  rw [hfound, hbefore, byteLength_reverse, ← cursor.position_eq, hposition, ← hline]
  exact ⟨rfl, rfl, cursor.after, cursor.toList_line⟩

end ScanError

namespace Lexer

/-- The text of an error that a lexer gives has three lines: what happened and where, the line of
the text that it happened in, and a caret below the first character without a step. -/
theorem linesOf_render_of_lex {lexer : Lexer} {text : String} {error : ScanError}
    (h : lexer.lex text = .error error) :
    (linesOf text)[error.row]? = some error.line ∧
    (∀ row < error.row, ∃ line steps, (linesOf text)[row]? = some line ∧
      lexer.Classifies line row 0 (.ok steps)) ∧
    lexer.Classifies error.line error.row 0 (.error error.position) ∧
    (Cursor.at? error.line error.position).isSome = true ∧
    ∃ before c after, error.line.toList = before ++ c :: after ∧
      byteLength before = error.position ∧
      ∃ pointer, linesOf error.render = [error.header, error.line, pointer] ∧
        PointsAt pointer.toList error.line.toList before.length := by
  obtain ⟨hat, hstuck, hearlier⟩ := rows_of_lex_error h
  have hclassifies := (tokensOfLine_eq_error_iff.1 hstuck).2.2
  have ⟨hlt, _, steps, hleads⟩ := hclassifies
  obtain ⟨hfound, hlength, after, hline⟩ :=
    ScanError.before_of_isPlace (hleads.isPlace (isPlace_zero error.line))
  have hunbroken := unbroken_of_mem_linesOf (List.mem_of_getElem? hat)
  refine ⟨hat, ?_, hclassifies, hfound, ?_⟩
  · intro row hrow
    obtain ⟨line, tokens, hline, htokens⟩ := hearlier row hrow
    obtain ⟨steps, hsteps, -⟩ := tokensOfLine_eq_ok_iff.1 htokens
    exact ⟨line, steps, hline, hsteps⟩
  · cases after with
    | nil =>
      rw [utf8ByteSize_eq_byteLength, hline, List.append_nil, hlength] at hlt
      exact absurd hlt (Nat.lt_irrefl _)
    | cons c after =>
      exact ⟨error.before, c, after, hline, hlength, error.pointer,
        ScanError.linesOf_render hunbroken, ScanError.pointsAt_pointer hline⟩

def accents : Lexer := ⟨[.ofWord "accent" "é" "é" 0], true, none⟩

theorem linesOf_render_of_lex_accents :
    ∃ error : ScanError, accents.lex "é\r\n\té#é" = .error error ∧
      error.render = "Unmatched text at line 1 and position 3:\n\té#é\n\t ^" ∧
      (linesOf "é\r\n\té#é")[error.row]? = some error.line ∧
      (∀ row < error.row, ∃ line steps, (linesOf "é\r\n\té#é")[row]? = some line ∧
        accents.Classifies line row 0 (.ok steps)) ∧
      accents.Classifies error.line error.row 0 (.error error.position) ∧
      (Cursor.at? error.line error.position).isSome = true ∧
      ∃ before c after, error.line.toList = before ++ c :: after ∧
        byteLength before = error.position ∧
        ∃ pointer, linesOf error.render = [error.header, error.line, pointer] ∧
          PointsAt pointer.toList error.line.toList before.length := by
  have hlines : linesOf "é\r\n\té#é" = ["é", "\té#é"] := by decide
  have hfirst : accents.step? (.start "é") 0 =
      some (.token ⟨"accent", "é", 0, 0, []⟩, (Cursor.start "é").forward 1) := rfl
  have hend : ((Cursor.start "é").forward 1).atEnd = true := rfl
  have hblank : accents.step? (.start "\té#é") 1 =
      some (.blank '\t', (Cursor.start "\té#é").forward 1) := rfl
  have htoken : accents.step? ((Cursor.start "\té#é").forward 1) 1 =
      some (.token ⟨"accent", "é", 1, 1, []⟩, (Cursor.start "\té#é").forward 2) := rfl
  have hstuck : accents.step? ((Cursor.start "\té#é").forward 2) 1 = none := rfl
  have herror : accents.lex "é\r\n\té#é" = .error ⟨"\té#é", 3, 1⟩ := by
    refine lex_eq_error_iff.2 ⟨["é"], "\té#é", [], hlines, ?_, ?_⟩
    · intro entry hentry
      obtain rfl := List.mem_singleton.1 hentry
      refine ⟨[⟨"accent", "é", 0, 0, []⟩], ?_⟩
      rw [tokensOfLine_eq, stepsFrom_of_step? hfirst, stepsFrom_of_atEnd hend]
      rfl
    · rw [tokensOfLine_eq, List.length_singleton, stepsFrom_of_step? hblank,
        stepsFrom_of_step? htoken, stepsFrom_of_stuck rfl hstuck]
      rfl
  exact ⟨_, herror, rfl, linesOf_render_of_lex herror⟩

end Lexer

end Linewise
