import Linewise.Proofs.Place
import Linewise.Text.Blank

namespace Linewise

def wordTokens (label : String) (row : Nat) : Nat → List Char → List Token
  | _, [] => []
  | position, c :: cs =>
    if isBlank c then wordTokens label row (position + c.utf8Size) cs
    else
      let word := c :: cs.takeWhile (!isBlank ·)
      ⟨label, String.ofList word, position, row, []⟩ ::
        wordTokens label row (position + byteLength word) (cs.dropWhile (!isBlank ·))
termination_by _ cs => cs.length
decreasing_by
  · simp
  · exact Nat.lt_succ_of_le (List.dropWhile_sublist _).length_le

def Token.words (token : Token) : List Token :=
  wordTokens token.label token.row token.start token.text.toList

/-- The piece between the two others is not empty and free of blanks, and no longer piece around it
is. -/
structure IsWord (before word after : List Char) : Prop where
  ne_nil : word ≠ []
  unblank : ∀ c ∈ word, isBlank c = false
  before_blank : ∀ c ∈ before.getLast?, isBlank c = true
  after_blank : ∀ c ∈ after.head?, isBlank c = true

structure Token.SplitsInto (token : Token) (words : List Token) : Prop where
  ordered : words.Pairwise fun a b ↦ a.stop < b.start
  mem_iff : ∀ word, word ∈ words ↔ ∃ before piece after,
    token.text.toList = before ++ piece ++ after ∧ IsWord before piece after ∧
      word = ⟨token.label, String.ofList piece, token.start + byteLength before, token.row, []⟩

namespace IsWord

variable {c : Char} {before word after : List Char}

theorem cons_blank_iff (hc : isBlank c = true) :
    IsWord (c :: before) word after ↔ IsWord before word after := by
  have hlast : (∀ d ∈ (c :: before).getLast?, isBlank d = true) ↔
      ∀ d ∈ before.getLast?, isBlank d = true := by
    cases before with
    | nil => simp [hc]
    | cons d before => rw [List.getLast?_cons_cons]
  constructor
  · rintro ⟨hne, hunblank, hbefore, hafter⟩
    exact ⟨hne, hunblank, hlast.1 hbefore, hafter⟩
  · rintro ⟨hne, hunblank, hbefore, hafter⟩
    exact ⟨hne, hunblank, hlast.2 hbefore, hafter⟩

theorem append_iff (skipped : List Char) (hne : before ≠ []) :
    IsWord (skipped ++ before) word after ↔ IsWord before word after := by
  have hlast := List.getLast?_append_of_ne_nil skipped hne
  constructor
  · rintro ⟨hword, hunblank, hbefore, hafter⟩
    exact ⟨hword, hunblank, hlast ▸ hbefore, hafter⟩
  · rintro ⟨hword, hunblank, hbefore, hafter⟩
    exact ⟨hword, hunblank, hlast ▸ hbefore, hafter⟩

theorem before_ne_nil (h : IsWord before word after) {text : List Char}
    (htext : text = before ++ word ++ after) (hblank : ∀ c ∈ text.head?, isBlank c = true) :
    before ≠ [] := by
  rintro rfl
  obtain ⟨c, word, rfl⟩ := List.exists_cons_of_ne_nil h.ne_nil
  have hc := hblank c (by simp [htext])
  rw [h.unblank c List.mem_cons_self] at hc
  cases hc

end IsWord

theorem isBlank_head?_dropWhile (cs : List Char) :
    ∀ c ∈ (cs.dropWhile (!isBlank ·)).head?, isBlank c = true := by
  intro c hc
  have hnot := List.head?_dropWhile_not (!isBlank ·) cs
  rw [hc] at hnot
  simpa using hnot

theorem takeWhile_append_blank {word after : List Char} (hword : ∀ c ∈ word, isBlank c = false)
    (hafter : ∀ c ∈ after.head?, isBlank c = true) :
    (word ++ after).takeWhile (!isBlank ·) = word := by
  rw [List.takeWhile_append_of_pos (by simpa using hword)]
  cases after with
  | nil => simp
  | cons c after => simp [hafter c rfl]

theorem IsWord.first_or_later {c : Char} {cs before word after : List Char}
    (hc : isBlank c = false) (htext : c :: cs = before ++ word ++ after)
    (h : IsWord before word after) :
    before = [] ∧ word = c :: cs.takeWhile (!isBlank ·) ∨
      ∃ later, later ≠ [] ∧ before = c :: cs.takeWhile (!isBlank ·) ++ later ∧
        cs.dropWhile (!isBlank ·) = later ++ word ++ after := by
  cases before with
  | nil =>
    have htake := takeWhile_append_blank h.unblank h.after_blank
    rw [List.nil_append] at htext
    rw [← htext, List.takeWhile_cons_of_pos (by simp [hc])] at htake
    exact .inl ⟨rfl, htake.symm⟩
  | cons d before =>
    obtain rfl : c = d := (List.cons.inj htext).1
    obtain rfl : cs = before ++ word ++ after := (List.cons.inj htext).2
    have hne : before.dropWhile (!isBlank ·) ≠ [] := by
      intro hnil
      have hunblank := List.dropWhile_eq_nil_iff.1 hnil
      have hall : ∀ e ∈ c :: before, isBlank e = false :=
        List.forall_mem_cons.2 ⟨hc, by simpa using hunblank⟩
      obtain ⟨e, he⟩ :=
        Option.isSome_iff_exists.1 (List.getLast?_isSome.2 (List.cons_ne_nil c before))
      have hblank := h.before_blank e he
      rw [hall e (List.mem_of_getLast? he)] at hblank
      cases hblank
    have hdrop : (before ++ word ++ after).dropWhile (!isBlank ·) =
        before.dropWhile (!isBlank ·) ++ word ++ after := by
      rw [List.append_assoc, List.dropWhile_append, if_neg (by simpa using hne),
        List.append_assoc]
    have htake : (before ++ word ++ after).takeWhile (!isBlank ·) =
        before.takeWhile (!isBlank ·) := by
      have hwhole := @List.takeWhile_append_dropWhile _ (!isBlank ·) (before ++ word ++ after)
      have hbefore : before.takeWhile (!isBlank ·) ++
          (before.dropWhile (!isBlank ·) ++ word ++ after) = before ++ word ++ after := by
        rw [← List.append_assoc, ← List.append_assoc, List.takeWhile_append_dropWhile]
      rw [hdrop] at hwhole
      exact List.append_cancel_right (hwhole.trans hbefore.symm)
    refine .inr ⟨before.dropWhile (!isBlank ·), hne, ?_, hdrop⟩
    rw [htake, List.cons_append, List.takeWhile_append_dropWhile]

theorem mem_wordTokens_iff {label : String} {row position : Nat} {cs : List Char} {token : Token} :
    token ∈ wordTokens label row position cs ↔ ∃ before word after,
      cs = before ++ word ++ after ∧ IsWord before word after ∧
        token = ⟨label, String.ofList word, position + byteLength before, row, []⟩ := by
  fun_induction wordTokens label row position cs with
  | case1 position =>
    refine iff_of_false (by simp) ?_
    rintro ⟨before, word, after, htext, hword, -⟩
    exact hword.ne_nil (List.append_eq_nil_iff.1 (List.append_eq_nil_iff.1 htext.symm).1).2
  | case2 position c cs hc ih =>
    rw [ih]
    constructor
    · rintro ⟨before, word, after, rfl, hword, rfl⟩
      refine ⟨c :: before, word, after, rfl, (IsWord.cons_blank_iff hc).2 hword, ?_⟩
      rw [byteLength_cons, Nat.add_assoc]
    · rintro ⟨before, word, after, htext, hword, rfl⟩
      cases before with
      | nil => exact absurd rfl (hword.before_ne_nil htext (by simpa using hc))
      | cons d before =>
        obtain ⟨rfl, rfl⟩ := List.cons.inj htext
        refine ⟨before, word, after, rfl, (IsWord.cons_blank_iff hc).1 hword, ?_⟩
        rw [byteLength_cons, Nat.add_assoc]
  | case3 position c cs hc first ih =>
    have hc' := Bool.eq_false_iff.2 hc
    have hblank := isBlank_head?_dropWhile cs
    rw [List.mem_cons, ih]
    constructor
    · rintro (rfl | ⟨before, word, after, htext, hword, rfl⟩)
      · refine ⟨[], first, cs.dropWhile (!isBlank ·), ?_, ⟨by simp [first], ?_, by simp, hblank⟩,
          rfl⟩
        · simp [first, List.takeWhile_append_dropWhile]
        · refine List.forall_mem_cons.2 ⟨hc', fun d hd ↦ ?_⟩
          simpa using List.mem_takeWhile_imp hd
      · have hne := hword.before_ne_nil htext hblank
        refine ⟨first ++ before, word, after, ?_, (IsWord.append_iff first hne).2 hword, ?_⟩
        · rw [List.append_assoc, List.append_assoc, ← List.append_assoc before, ← htext]
          simp [first, List.takeWhile_append_dropWhile]
        · rw [byteLength_append, Nat.add_assoc]
    · rintro ⟨before, word, after, htext, hword, rfl⟩
      rcases hword.first_or_later hc' htext with ⟨rfl, rfl⟩ | ⟨later, hne, rfl, hlater⟩
      · exact .inl rfl
      · refine .inr ⟨later, word, after, hlater, (IsWord.append_iff first hne).1 hword, ?_⟩
        rw [byteLength_append, Nat.add_assoc]

theorem pairwise_wordTokens (label : String) (row position : Nat) (cs : List Char) :
    (wordTokens label row position cs).Pairwise fun a b ↦ a.stop < b.start := by
  fun_induction wordTokens label row position cs with
  | case1 => exact .nil
  | case2 _ _ _ _ ih => exact ih
  | case3 position c cs hc first ih =>
    refine List.pairwise_cons.2 ⟨fun token htoken ↦ ?_, ih⟩
    obtain ⟨before, word, after, htext, hword, rfl⟩ := mem_wordTokens_iff.1 htoken
    have hne := hword.before_ne_nil htext (isBlank_head?_dropWhile cs)
    have hpos := length_le_byteLength before
    have hlength := List.length_pos_iff.2 hne
    rw [Token.stop, utf8ByteSize_ofList]
    dsimp only
    omega

theorem Token.splitsInto_words (token : Token) : token.SplitsInto token.words where
  ordered := pairwise_wordTokens _ _ _ _
  mem_iff _ := mem_wordTokens_iff

example : Token.words ⟨"?", " é\u3000+b ", 4, 0, []⟩ =
    [⟨"?", "é", 5, 0, []⟩, ⟨"?", "+b", 10, 0, []⟩] := by cbv

end Linewise
