import Linewise.Text.Lines
import Mathlib

namespace Linewise

def Unbroken (line : List Char) : Prop := ∀ c ∈ line, isLineBreak c = false

def IsEnding (ending : List Char) : Prop :=
  ending = ['\r', '\n'] ∨ ∃ c, isLineBreak c = true ∧ ending = [c]

structure EndedLine where
  line : List Char
  ending : List Char

namespace EndedLine

def joined (lines : List EndedLine) : List Char :=
  lines.flatMap fun line ↦ line.line ++ line.ending

/-- The lines are without breaks and each has an ending. The last may go without one if it is not
empty. A carriage return is an ending of its own only if no line feed comes next. -/
inductive Proper : List EndedLine → Prop
  | nil : Proper []
  | last {line : List Char} (hline : Unbroken line) (hne : line ≠ []) : Proper [⟨line, []⟩]
  | cons {line ending : List Char} {rest : List EndedLine} (hline : Unbroken line)
      (hending : IsEnding ending) (hseam : ending = ['\r'] → (joined rest).head? ≠ some '\n')
      (hrest : Proper rest) : Proper (⟨line, ending⟩ :: rest)

theorem joined_cons (line ending : List Char) (rest : List EndedLine) :
    joined (⟨line, ending⟩ :: rest) = line ++ (ending ++ joined rest) := by
  simp [joined]

end EndedLine

section

variable {c : Char} {line ending rest : List Char}

@[simp]
theorem splitAtBreaks_nil : splitAtBreaks [] = [] := rfl

theorem splitAtBreaks_break (hc : isLineBreak c = true)
    (hseam : c = '\r' → rest.head? ≠ some '\n') :
    splitAtBreaks (c :: rest) = [] :: splitAtBreaks rest := by
  rw [splitAtBreaks.eq_def]
  split
  · next h => cases h
  · next later h =>
    cases h
    exact absurd rfl (hseam rfl)
  · next h =>
    cases h
    exact if_pos hc

theorem splitAtBreaks_char (hc : isLineBreak c = false) :
    splitAtBreaks (c :: rest) =
      match splitAtBreaks rest with
      | [] => [[c]]
      | line :: lines => (c :: line) :: lines := by
  rw [splitAtBreaks.eq_def]
  split
  · next h => cases h
  · next later h =>
    cases h
    exact absurd hc (by decide)
  · next h =>
    cases h
    exact if_neg (by simp [hc])

theorem splitAtBreaks_ending (hending : IsEnding ending)
    (hseam : ending = ['\r'] → rest.head? ≠ some '\n') :
    splitAtBreaks (ending ++ rest) = [] :: splitAtBreaks rest := by
  rcases hending with rfl | ⟨c, hc, rfl⟩
  · rfl
  · apply splitAtBreaks_break hc
    rintro rfl
    exact hseam rfl

theorem splitAtBreaks_line (hline : Unbroken line) (hending : IsEnding ending)
    (hseam : ending = ['\r'] → rest.head? ≠ some '\n') :
    splitAtBreaks (line ++ (ending ++ rest)) = line :: splitAtBreaks rest := by
  induction line with
  | nil => exact splitAtBreaks_ending hending hseam
  | cons c line ih =>
    obtain ⟨hc, hline⟩ := List.forall_mem_cons.1 hline
    rw [List.cons_append, splitAtBreaks_char hc, ih hline]

theorem splitAtBreaks_unbroken (hline : Unbroken line) (hne : line ≠ []) :
    splitAtBreaks line = [line] := by
  induction line with
  | nil => exact absurd rfl hne
  | cons c line ih =>
    obtain ⟨hc, hline⟩ := List.forall_mem_cons.1 hline
    rw [splitAtBreaks_char hc]
    by_cases hnil : line = []
    · rw [hnil]
      rfl
    · rw [ih hline hnil]

theorem IsEnding.ne_nil (h : IsEnding ending) : ending ≠ [] := by
  rcases h with rfl | ⟨c, -, rfl⟩ <;> simp

theorem IsEnding.exists_getLast? (h : IsEnding ending) :
    ∃ c, ending.getLast? = some c ∧ isLineBreak c = true := by
  rcases h with rfl | ⟨c, hc, rfl⟩
  · exact ⟨'\n', rfl, by decide⟩
  · exact ⟨c, rfl, hc⟩

theorem IsEnding.append_inj {ending' rest' : List Char} (h : IsEnding ending)
    (h' : IsEnding ending') (hseam : ending = ['\r'] → rest.head? ≠ some '\n')
    (hseam' : ending' = ['\r'] → rest'.head? ≠ some '\n')
    (heq : ending ++ rest = ending' ++ rest') : ending = ending' ∧ rest = rest' := by
  rcases h with rfl | ⟨c, -, rfl⟩ <;> rcases h' with rfl | ⟨c', -, rfl⟩
  · exact ⟨rfl, List.append_cancel_left heq⟩
  · obtain ⟨rfl, hrest⟩ := List.cons.inj heq
    exact absurd (congrArg List.head? hrest).symm (hseam' rfl)
  · obtain ⟨rfl, hrest⟩ := List.cons.inj heq
    exact absurd (congrArg List.head? hrest) (hseam rfl)
  · obtain ⟨rfl, hrest⟩ := List.cons.inj heq
    exact ⟨rfl, hrest⟩

end

namespace EndedLine

variable {lines others : List EndedLine}

theorem splitAtBreaks_joined (h : Proper lines) :
    splitAtBreaks (joined lines) = lines.map line := by
  induction h with
  | nil => rfl
  | @last line hline hne =>
    rw [joined_cons]
    simpa [joined] using splitAtBreaks_unbroken hline hne
  | cons hline hending hseam _ ih =>
    rw [joined_cons, splitAtBreaks_line hline hending hseam, ih]
    rfl

theorem Proper.exists_cons {c : Char} (hc : isLineBreak c = false) (h : Proper lines) :
    ∃ longer, Proper longer ∧ joined longer = c :: joined lines := by
  have hlonger {line : List Char} (hline : Unbroken line) : Unbroken (c :: line) :=
    List.forall_mem_cons.2 ⟨hc, hline⟩
  cases h with
  | nil => exact ⟨[⟨[c], []⟩], .last (hlonger (by simp [Unbroken])) (by simp), rfl⟩
  | @last line hline => exact ⟨[⟨c :: line, []⟩], .last (hlonger hline) (by simp), rfl⟩
  | @cons line ending rest hline hending hseam hrest =>
    exact ⟨⟨c :: line, ending⟩ :: rest, .cons (hlonger hline) hending hseam hrest, rfl⟩

theorem exists_proper (text : List Char) : ∃ lines, Proper lines ∧ joined lines = text := by
  have hempty : Unbroken [] := by simp [Unbroken]
  fun_induction splitAtBreaks text with
  | case1 => exact ⟨[], .nil, rfl⟩
  | case2 rest ih =>
    obtain ⟨lines, hproper, rfl⟩ := ih
    exact ⟨⟨[], ['\r', '\n']⟩ :: lines, .cons hempty (.inl rfl) (by simp) hproper, rfl⟩
  | case3 c rest hnext hc ih =>
    obtain ⟨lines, hproper, rfl⟩ := ih
    refine ⟨⟨[], [c]⟩ :: lines, .cons hempty (.inr ⟨c, hc, rfl⟩) ?_ hproper, rfl⟩
    intro hreturn hfeed
    obtain ⟨later, hlater⟩ := List.head?_eq_some_iff.1 hfeed
    exact hnext later (List.cons.inj hreturn).1 hlater
  | case4 c rest _ hc _ ih | case5 c rest _ hc _ _ _ ih =>
    obtain ⟨lines, hproper, rfl⟩ := ih
    exact hproper.exists_cons (Bool.eq_false_iff.2 hc)

theorem Proper.joined_inj (h : Proper lines) (h' : Proper others)
    (heq : joined lines = joined others) : lines = others := by
  have hsame : lines.map line = others.map line := by
    rw [← splitAtBreaks_joined h, ← splitAtBreaks_joined h', heq]
  -- The lines are the same, so it is only endings that could differ.
  induction h generalizing others with
  | nil => exact (List.map_eq_nil_iff.1 hsame.symm).symm
  | last hline hne =>
    cases h' with
    | nil => cases hsame
    | last hline' hne' =>
      obtain ⟨rfl, -⟩ := List.cons.inj hsame
      rfl
    | cons hline' hending' hseam' hrest' =>
      obtain ⟨rfl, hnil⟩ := List.cons.inj hsame
      obtain rfl := List.map_eq_nil_iff.1 hnil.symm
      rw [joined_cons, joined_cons, List.append_cancel_left_eq] at heq
      exact absurd (List.append_eq_nil_iff.1 heq.symm).1 hending'.ne_nil
  | cons hline hending hseam hrest ih =>
    cases h' with
    | nil => cases hsame
    | last hline' hne' =>
      obtain ⟨rfl, hnil⟩ := List.cons.inj hsame
      obtain rfl := List.map_eq_nil_iff.1 hnil
      rw [joined_cons, joined_cons, List.append_cancel_left_eq] at heq
      exact absurd (List.append_eq_nil_iff.1 heq).1 hending.ne_nil
    | cons hline' hending' hseam' hrest' =>
      obtain ⟨rfl, hlines⟩ := List.cons.inj hsame
      rw [joined_cons, joined_cons, List.append_cancel_left_eq] at heq
      obtain ⟨rfl, hjoined⟩ := hending.append_inj hending' hseam hseam' heq
      rw [ih hrest' hjoined hlines]

theorem joined_append (lines others : List EndedLine) :
    joined (lines ++ others) = joined lines ++ joined others :=
  List.flatMap_append

theorem joined_eq_nil_iff (h : Proper lines) : joined lines = [] ↔ lines = [] := by
  cases h with
  | nil => simp [joined]
  | last hline hne => simp [joined, hne]
  | cons hline hending => simp [joined, hending.ne_nil]

theorem getLast?_joined_cons {line ending : List Char} {rest : List EndedLine}
    (h : joined rest ≠ []) :
    (joined (⟨line, ending⟩ :: rest)).getLast? = (joined rest).getLast? := by
  rw [joined_cons, ← List.append_assoc, List.getLast?_append_of_ne_nil _ h]

/-- Texts that are put together make one if the first of them is ended, and not in the middle of an
ending. -/
theorem Proper.append (h : Proper lines) (h' : Proper others)
    (hended : ∀ c ∈ (joined lines).getLast?, isLineBreak c = true)
    (hseam : ¬ ((joined lines).getLast? = some '\r' ∧ (joined others).head? = some '\n')) :
    Proper (lines ++ others) := by
  induction h with
  | nil => exact h'
  | @last line hline hne =>
    obtain ⟨c, hc⟩ := Option.isSome_iff_exists.1 (List.getLast?_isSome.2 hne)
    have hbreak := hended c (by simpa [joined] using hc)
    rw [hline c (List.mem_of_getLast? hc)] at hbreak
    cases hbreak
  | @cons line ending rest hline hending hseam' hrest ih =>
    by_cases hnil : rest = []
    · subst hnil
      refine .cons hline hending ?_ h'
      rintro rfl hfeed
      exact hseam ⟨by simp [joined], hfeed⟩
    · have hne := mt (joined_eq_nil_iff hrest).1 hnil
      rw [getLast?_joined_cons hne] at hended hseam
      have hnext : (joined (rest ++ others)).head? = (joined rest).head? := by
        rw [joined_append, List.head?_append_of_ne_nil _ hne]
      exact .cons hline hending (hnext ▸ hseam') (ih hended hseam)

theorem Proper.splitAtBreaks_append (h : Proper lines)
    (hopen : ∃ c ∈ (joined lines).getLast?, isLineBreak c = false) {ending : List Char}
    (hending : IsEnding ending) :
    splitAtBreaks (joined lines ++ ending) = lines.map line := by
  induction h with
  | nil => simp [joined] at hopen
  | @last line hline hne =>
    have hsplit := @splitAtBreaks_line line ending [] hline hending (by simp)
    simpa [joined] using hsplit
  | @cons line ending' rest hline hending' hseam hrest ih =>
    have hne : joined rest ≠ [] := by
      intro hnil
      obtain ⟨c, hlast, hc⟩ := hending'.exists_getLast?
      rw [joined_cons, hnil, List.append_nil, List.getLast?_append_of_ne_nil _ hending'.ne_nil,
        hlast] at hopen
      simp [hc] at hopen
    rw [getLast?_joined_cons hne] at hopen
    have hnext : (joined rest ++ ending).head? = (joined rest).head? :=
      List.head?_append_of_ne_nil _ hne
    rw [joined_cons, List.append_assoc, List.append_assoc,
      splitAtBreaks_line hline hending' (hnext ▸ hseam), ih hopen]
    rfl

end EndedLine

open EndedLine

theorem linesOf_joined {lines : List EndedLine} (h : Proper lines) :
    linesOf (String.ofList (joined lines)) = lines.map fun line ↦ String.ofList line.line := by
  simp [linesOf, splitAtBreaks_joined h]

theorem linesOf_append {text later : String}
    (hended : ∀ c ∈ text.toList.getLast?, isLineBreak c = true)
    (hseam : ¬ (text.toList.getLast? = some '\r' ∧ later.toList.head? = some '\n')) :
    linesOf (text ++ later) = linesOf text ++ linesOf later := by
  obtain ⟨lines, hlines, htext⟩ := exists_proper text.toList
  obtain ⟨others, hothers, hlater⟩ := exists_proper later.toList
  rw [← htext] at hended hseam
  rw [← hlater] at hseam
  have hjoined := splitAtBreaks_joined (hlines.append hothers hended hseam)
  rw [joined_append, htext, hlater] at hjoined
  rw [linesOf, linesOf, linesOf, String.toList_append, hjoined, ← htext, ← hlater,
    splitAtBreaks_joined hlines, splitAtBreaks_joined hothers, List.map_append, List.map_append]

/-- The lines of a text are those of its one decomposition. The empty text has none, an ending
behind a line without one adds none, and it does not matter which endings a text has. -/
theorem linesOf_decomposition :
    (∀ text, ∃! lines, Proper lines ∧ String.ofList (joined lines) = text) ∧
    (∀ lines, Proper lines →
      linesOf (String.ofList (joined lines)) = lines.map fun line ↦ String.ofList line.line) ∧
    linesOf "" = [] ∧
    (∀ text ending, IsEnding ending → (∃ c ∈ text.toList.getLast?, isLineBreak c = false) →
      linesOf (text ++ String.ofList ending) = linesOf text) ∧
    (∀ lines others, Proper lines → Proper others → lines.map line = others.map line →
      linesOf (String.ofList (joined lines)) = linesOf (String.ofList (joined others))) := by
  refine ⟨fun text ↦ ?_, fun lines ↦ linesOf_joined, rfl, fun text ending hending hopen ↦ ?_,
    fun lines others hlines hothers hsame ↦ ?_⟩
  · obtain ⟨lines, hproper, hjoined⟩ := exists_proper text.toList
    refine ⟨lines, ⟨hproper, by simp [hjoined]⟩, ?_⟩
    rintro others ⟨hothers, rfl⟩
    exact hothers.joined_inj hproper (by simp [hjoined])
  · obtain ⟨lines, hproper, hjoined⟩ := exists_proper text.toList
    rw [← hjoined] at hopen
    rw [linesOf, linesOf, String.toList_append, String.toList_ofList, ← hjoined,
      hproper.splitAtBreaks_append hopen hending, splitAtBreaks_joined hproper]
  · rw [linesOf, linesOf, String.toList_ofList, String.toList_ofList, splitAtBreaks_joined hlines,
      splitAtBreaks_joined hothers, hsame]

end Linewise
