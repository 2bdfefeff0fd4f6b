import Linewise.Proofs.Numerals
import Linewise.Token

namespace Linewise

def quoteMarks : List (Char × Char) :=
  [('\x00', '0'), ('\t', 't'), ('\n', 'n'), ('\r', 'r'), ('"', '"'), ('\\', '\\')]

/-- The ways to write a character between quotes: by a mark, by its code point, or as it is. -/
inductive WrittenAs : Char → List Char → Prop
  | marked {c mark : Char} (hmark : (c, mark) ∈ quoteMarks) : WrittenAs c ['\\', mark]
  | coded (c : Char) :
      WrittenAs c ('\\' :: 'u' :: '\x7b' :: (Nat.toDigits 16 c.toNat ++ ['\x7d']))
  | plain {c : Char} (hquote : c ≠ '"') (hslash : c ≠ '\\') : WrittenAs c [c]

theorem writtenAs_quotedChar (c : Char) : WrittenAs c (quotedChar c) := by
  unfold quotedChar
  split
  · exact .marked (by decide)
  · exact .marked (by decide)
  · exact .marked (by decide)
  · exact .marked (by decide)
  · exact .marked (by decide)
  · exact .marked (by decide)
  · next hquote hslash =>
    split
    · exact .coded c
    · exact .plain hquote hslash

section

variable {c d : Char} {written written' rest rest' : List Char}

theorem WrittenAs.append_ne_quote (h : WrittenAs c written) :
    written ++ rest ≠ '"' :: rest' := by
  intro hsame
  cases h with
  | marked => cases hsame
  | coded => cases hsame
  | plain hquote => exact hquote (List.cons.inj hsame).1

theorem eq_of_quoteMarks {mark : Char} (hc : (c, mark) ∈ quoteMarks)
    (hd : (d, mark) ∈ quoteMarks) : c = d := by
  have hall : ∀ p ∈ quoteMarks, ∀ q ∈ quoteMarks, p.2 = q.2 → p.1 = q.1 := by decide
  exact hall _ hc _ hd rfl

theorem u_notMem_quoteMarks : (c, 'u') ∉ quoteMarks := by
  intro hc
  have hall : ∀ p ∈ quoteMarks, p.2 ≠ 'u' := by decide
  exact hall _ hc rfl

/-- Where one character ends and the next begins is never in doubt. -/
theorem WrittenAs.append_inj (hc : WrittenAs c written) (hd : WrittenAs d written')
    (h : written ++ rest = written' ++ rest') : c = d ∧ rest = rest' := by
  -- A backslash begins a mark or a code, and what comes second tells these apart: no mark is a `u`.
  cases hc with
  | marked hmark =>
    cases hd with
    | marked hmark' =>
      obtain ⟨rfl, hrest⟩ := List.cons.inj (List.cons.inj h).2
      exact ⟨eq_of_quoteMarks hmark hmark', hrest⟩
    | coded =>
      obtain ⟨rfl, -⟩ := List.cons.inj (List.cons.inj h).2
      exact absurd hmark u_notMem_quoteMarks
    | plain _ hslash => exact absurd (List.cons.inj h).1.symm hslash
  | coded =>
    cases hd with
    | marked hmark =>
      obtain ⟨rfl, -⟩ := List.cons.inj (List.cons.inj h).2
      exact absurd hmark u_notMem_quoteMarks
    | coded =>
      have hbrace (digit : Nat) : Nat.digitChar digit ≠ '\x7d' :=
        Nat.digitChar_ne '\x7d' (by decide)
      simp only [List.cons_append, List.append_assoc, List.cons.injEq, true_and,
        List.nil_append] at h
      obtain ⟨hcode, hrest⟩ := toDigits_append_inj (by decide) (by decide) hbrace h
      exact ⟨Char.toNat_inj.1 hcode, hrest⟩
    | plain _ hslash => exact absurd (List.cons.inj h).1.symm hslash
  | plain _ hslash =>
    cases hd with
    | marked => exact absurd (List.cons.inj h).1 hslash
    | coded => exact absurd (List.cons.inj h).1 hslash
    | plain => exact List.cons.inj h

theorem flatMap_quotedChar_append_inj {text text' : List Char}
    (h : text.flatMap quotedChar ++ '"' :: rest = text'.flatMap quotedChar ++ '"' :: rest') :
    text = text' ∧ rest = rest' := by
  induction text generalizing text' with
  | nil =>
    cases text' with
    | nil => exact ⟨rfl, (List.cons.inj h).2⟩
    | cons d text' =>
      rw [List.flatMap_cons, List.append_assoc] at h
      exact absurd h.symm (writtenAs_quotedChar d).append_ne_quote
  | cons c text ih =>
    rw [List.flatMap_cons, List.append_assoc] at h
    cases text' with
    | nil => exact absurd h (writtenAs_quotedChar c).append_ne_quote
    | cons d text' =>
      rw [List.flatMap_cons, List.append_assoc] at h
      obtain ⟨rfl, hlater⟩ := (writtenAs_quotedChar c).append_inj (writtenAs_quotedChar d) h
      obtain ⟨rfl, hrest⟩ := ih hlater
      exact ⟨rfl, hrest⟩

theorem quoted_append_inj {text text' : String}
    (h : (quoted text).toList ++ rest = (quoted text').toList ++ rest') :
    text = text' ∧ rest = rest' := by
  simp only [quoted, String.toList_ofList, List.cons_append, List.append_assoc, List.nil_append,
    List.cons.injEq, true_and] at h
  obtain ⟨htext, hrest⟩ := flatMap_quotedChar_append_inj h
  exact ⟨String.toList_inj.1 htext, hrest⟩

end

theorem length_eraseDups (texts : List String) :
    texts.eraseDups.length = texts.toFinset.card := by
  induction hlength : texts.length using Nat.strong_induction_on generalizing texts with
  | _ n ih =>
    cases texts with
    | nil => rfl
    | cons text texts =>
      have hshorter := List.length_filter_le (fun other ↦ !other == text) texts
      rw [List.length_cons] at hlength
      have hnot : text ∉ (texts.filter fun other ↦ !other == text).toFinset := by simp
      have hsame : (text :: texts).toFinset =
          insert text (texts.filter fun other ↦ !other == text).toFinset := by
        ext other
        by_cases hother : other = text <;> simp [hother]
      rw [List.eraseDups_cons, List.length_cons, ih _ (by omega) _ rfl, hsame,
        Finset.card_insert_of_notMem hnot]

namespace Token

variable {a b : Token}

theorem beq_iff :
    (a == b) = true ↔ a.label = b.label ∧ a.text = b.text ∧ a.start = b.start ∧ a.row = b.row := by
  change (a.label == b.label && a.text == b.text && a.start == b.start && a.row == b.row) = true ↔ _
  simp [and_assoc]

theorem toList_display (token : Token) :
    token.display.toList =
      "Token(".toList ++ ((quoted token.label).toList ++ ',' :: ' ' ::
        ((quoted token.text).toList ++ ',' :: ' ' :: (Nat.toDigits 10 token.start ++ ',' :: ' ' ::
          (Nat.toDigits 10 token.row ++ [')'])))) := by
  have hcomma : ", ".toList = [',', ' '] := rfl
  have hclose : ")".toList = [')'] := rfl
  unfold display
  simp only [String.toList_append, toList_toString, hcomma, hclose, List.append_assoc,
    List.cons_append, List.nil_append]

theorem display_eq_iff : a.display = b.display ↔ (a == b) = true := by
  rw [beq_iff]
  constructor
  · intro h
    have hcomma (digit : Nat) : Nat.digitChar digit ≠ ',' := Nat.digitChar_ne ',' (by decide)
    have hclose (digit : Nat) : Nat.digitChar digit ≠ ')' := Nat.digitChar_ne ')' (by decide)
    have hlists := congrArg String.toList h
    rw [toList_display, toList_display] at hlists
    obtain ⟨hlabel, hafterLabel⟩ := quoted_append_inj (List.append_cancel_left hlists)
    simp only [List.cons.injEq, true_and] at hafterLabel
    obtain ⟨htext, hafterText⟩ := quoted_append_inj hafterLabel
    simp only [List.cons.injEq, true_and] at hafterText
    obtain ⟨hstart, hafterStart⟩ :=
      toDigits_append_inj (by decide) (by decide) hcomma hafterText
    simp only [List.cons.injEq, true_and] at hafterStart
    obtain ⟨hrow, -⟩ := toDigits_append_inj (by decide) (by decide) hclose hafterStart
    exact ⟨hlabel, htext, hstart, hrow⟩
  · intro h
    obtain ⟨hlabel, htext, hstart, hrow⟩ := h
    unfold display
    rw [hlabel, htext, hstart, hrow]

theorem display_beq (a b : Token) : (a.display == b.display) = (a == b) := by
  rw [Bool.eq_iff_iff, beq_iff_eq]
  exact display_eq_iff

instance : EquivBEq Token where
  rfl := display_eq_iff.1 rfl
  symm h := display_eq_iff.1 (display_eq_iff.2 h).symm
  trans h h' := display_eq_iff.1 ((display_eq_iff.2 h).trans (display_eq_iff.2 h'))

instance : LawfulHashable Token where
  hash_eq a b h := by
    obtain ⟨hlabel, htext, hstart, hrow⟩ := beq_iff.1 h
    change hash (a.label, a.text, a.start, a.row) = hash (b.label, b.text, b.start, b.row)
    rw [hlabel, htext, hstart, hrow]

theorem map_display_distinct (tokens : List Token) :
    (distinct tokens).map display = (tokens.map display).eraseDups := by
  unfold distinct
  -- What is left to go through is filtered, so the induction is on its length.
  induction hlength : tokens.length using Nat.strong_induction_on generalizing tokens with
  | _ n ih =>
    cases tokens with
    | nil => rfl
    | cons token tokens =>
      have hshorter := List.length_filter_le (fun other ↦ !other == token) tokens
      rw [List.length_cons] at hlength
      rw [List.eraseDups_cons, List.map_cons, ih _ (by omega) _ rfl, List.map_cons,
        List.eraseDups_cons, List.filter_map]
      simp only [Function.comp_def, display_beq]

theorem length_distinct (tokens : List Token) :
    (distinct tokens).length = (tokens.map display).toFinset.card := by
  rw [← length_eraseDups, ← map_display_distinct, List.length_map]

theorem mem_map_display_iff {tokens : List Token} {text : String} :
    text ∈ tokens.map display ↔ ∃ token, tokens.contains token = true ∧ token.display = text := by
  rw [List.mem_map]
  constructor
  · intro h
    obtain ⟨token, hmem, htext⟩ := h
    exact ⟨token, List.contains_iff_exists_mem_beq.2 ⟨token, hmem, BEq.rfl⟩, htext⟩
  · intro h
    obtain ⟨token, hcontains, htext⟩ := h
    obtain ⟨other, hmem, hother⟩ := List.contains_iff_exists_mem_beq.1 hcontains
    exact ⟨other, hmem, (display_eq_iff.2 hother).symm.trans htext⟩

theorem size_hashSet (tokens : List Token) :
    (Std.HashSet.ofList tokens).size = (tokens.map display).toFinset.card := by
  have hnodup : ((Std.HashSet.ofList tokens).toList.map display).Nodup := by
    refine List.pairwise_map.2 (Std.HashSet.distinct_toList.imp ?_)
    intro a b hdistinct hsame
    rw [display_eq_iff.1 hsame] at hdistinct
    cases hdistinct
  have hsame : ((Std.HashSet.ofList tokens).toList.map display).toFinset =
      (tokens.map display).toFinset := by
    ext text
    simp only [List.mem_toFinset, mem_map_display_iff, Std.HashSet.contains_toList,
      Std.HashSet.contains_ofList]
  rw [← Std.HashSet.length_toList, ← List.length_map display,
    ← List.toFinset_card_of_nodup hnodup, hsame]

theorem beq_withParts (token : Token) (parts : List Token) :
    ({ token with parts := parts } == token) = true := beq_iff.2 ⟨rfl, rfl, rfl, rfl⟩

/-- What is shown of tokens tells them apart as equality and sets do. What a token is made of makes
no difference to any of them. -/
theorem display_separates :
    (∀ a b : Token, a.display = b.display ↔ (a == b) = true) ∧
    (∀ tokens : List Token,
      (Std.HashSet.ofList tokens).size = (tokens.map display).toFinset.card ∧
      (distinct tokens).length = (tokens.map display).toFinset.card) ∧
    ∀ (token : Token) (parts : List Token),
      ({ token with parts := parts } : Token).display = token.display ∧
      (∀ other, ({ token with parts := parts } == other) = (token == other) ∧
        (other == { token with parts := parts }) = (other == token)) ∧
      (∀ tokens, { token with parts := parts } ∈ Std.HashSet.ofList tokens ↔
        token ∈ Std.HashSet.ofList tokens) ∧
      ∀ earlier later other,
        other ∈ Std.HashSet.ofList (earlier ++ { token with parts := parts } :: later) ↔
          other ∈ Std.HashSet.ofList (earlier ++ token :: later) := by
  refine ⟨fun a b ↦ display_eq_iff, fun tokens ↦ ⟨size_hashSet tokens, length_distinct tokens⟩, ?_⟩
  intro token parts
  have hsame := beq_withParts token parts
  have hother (other : Token) :
      (other == { token with parts := parts }) = (other == token) := BEq.congr_right hsame
  refine ⟨rfl, ?_, ?_, ?_⟩
  · intro other
    exact ⟨BEq.congr_left hsame, hother other⟩
  · intro tokens
    exact Std.HashSet.mem_congr hsame
  · intro earlier later other
    simp only [Std.HashSet.mem_ofList, List.contains_append, List.contains_cons, hother]

end Token

end Linewise
