import Linewise.Proofs.RuleTokens

namespace Linewise

def Pattern.textAt? (pattern : Pattern) (line : String) (position : Nat) : Option (List Char) :=
  Cursor.at? line position >>= pattern.matched?

def partStop? (parts : List SimpleRule) (text : String) (index offset : Nat) : Option Nat :=
  parts[index]?.bind (·.pattern.matchAt? text offset)

structure PartUse where
  index : Nat
  start : Nat
  stop : Nat

/-- The parts that are used, of those from the index `first` on, cover the text from the offset to
its end. Each starts where the one before it stops, and no part between the two matches there. -/
structure Cover (parts : List SimpleRule) (text : String) (first offset : Nat)
    (uses : List PartUse) : Prop where
  first_le : ∀ use ∈ uses, first ≤ use.index
  ordered : uses.Pairwise (·.index < ·.index)
  offsets : offset :: uses.map PartUse.stop = uses.map PartUse.start ++ [text.utf8ByteSize]
  start_lt : ∀ use ∈ uses, use.start < use.stop
  matched : ∀ use ∈ uses, partStop? parts text use.index use.start = some use.stop
  passed : ∀ use ∈ uses, ∀ index, first ≤ index → index < use.index →
    (∀ other ∈ uses, other.index < use.index → other.index < index) →
    partStop? parts text index use.start = none

/-- The token is what the part finds where it is used. The text lies in a line at the byte position
`base`. -/
def PartUse.Finds (parts : List SimpleRule) (text : String) (base row : Nat) (use : PartUse)
    (token : Token) : Prop :=
  ∃ part piece, parts[use.index]? = some part ∧ PieceAt text use.start piece ∧
    use.start + byteLength piece = use.stop ∧
    token = ⟨part.label, String.ofList piece, base + use.start, row, []⟩

/-- The tokens that cover what is left of the line, where each rule is tried even when nothing is
left. -/
def tileToEnd? (offset row : Nat) : List SimpleRule → Cursor → Option (List Token)
  | [], cursor => if cursor.atEnd then some [] else none
  | rule :: rules, cursor =>
    match rule.pattern.matched? cursor with
    | none => tileToEnd? offset row rules cursor
    | some text =>
      (tileToEnd? offset row rules (cursor.forward text.length)).map
        (⟨rule.label, String.ofList text, offset + cursor.position, row, []⟩ :: ·)

theorem Pattern.matchAt?_eq_map (pattern : Pattern) (line : String) (position : Nat) :
    pattern.matchAt? line position =
      (pattern.textAt? line position).map (position + byteLength ·) := by
  unfold matchAt? textAt?
  cases Cursor.at? line position with
  | none => rfl
  | some cursor =>
    rw [Option.bind_eq_bind, Option.bind_some, Option.map_eq_bind]
    rfl

theorem Pattern.matchAt?_position (pattern : Pattern) (cursor : Cursor) :
    pattern.matchAt? cursor.line cursor.position =
      (pattern.matched? cursor).map (cursor.position + byteLength ·) := by
  rw [matchAt?_eq_map, textAt?, Cursor.at?_position]
  rfl

theorem Pattern.pieceAt_of_textAt? {pattern : Pattern} {line : String} {position : Nat}
    {text : List Char} (h : pattern.textAt? line position = some text) :
    text ≠ [] ∧ PieceAt line position text := by
  obtain ⟨cursor, hcursor, hmatched⟩ := Option.bind_eq_some_iff.1 h
  obtain ⟨rfl, rfl⟩ := Cursor.at?_eq_some_iff.1 hcursor
  exact pieceAt_of_matched? hmatched

theorem Pattern.places_of_matchAt? {pattern : Pattern} {line : String} {position stop : Nat}
    (h : pattern.matchAt? line position = some stop) :
    IsPlace line position ∧ IsPlace line stop ∧ position < stop ∧ stop ≤ line.utf8ByteSize := by
  rw [matchAt?_eq_map, Option.map_eq_some_iff] at h
  obtain ⟨text, htext, rfl⟩ := h
  obtain ⟨hne, hpiece⟩ := pieceAt_of_textAt? htext
  have hlength := List.length_pos_iff.2 hne
  have hle := length_le_byteLength text
  exact ⟨hpiece.isPlace, hpiece.isPlace_end, by omega, hpiece.le⟩

theorem Pattern.matched?_of_atEnd (pattern : Pattern) {cursor : Cursor}
    (h : cursor.atEnd = true) : pattern.matched? cursor = none := by
  rw [Option.eq_none_iff_forall_ne_some]
  intro text hmatched
  obtain ⟨hne, rest, hafter⟩ := matched?_eq_some hmatched
  rw [List.isEmpty_iff.1 h] at hafter
  exact hne (List.append_eq_nil_iff.1 hafter.symm).1

section

variable {parts : List SimpleRule} {text : String} {first offset index stop : Nat} {use : PartUse}
  {uses : List PartUse}

theorem drop_eq_cons {part : SimpleRule} {rest : List SimpleRule}
    (h : parts.drop index = part :: rest) :
    parts[index]? = some part ∧ parts.drop (index + 1) = rest := by
  rw [← List.head?_drop, ← List.drop_drop, h]
  exact ⟨rfl, rfl⟩

theorem partStop?_position {part : SimpleRule} (h : parts[index]? = some part)
    (cursor : Cursor) :
    partStop? parts cursor.line index cursor.position =
      (part.pattern.matched? cursor).map (cursor.position + byteLength ·) := by
  rw [partStop?, h, Option.bind_some, Pattern.matchAt?_position]

theorem partStop?_bounds (h : partStop? parts text index offset = some stop) :
    offset < stop ∧ stop ≤ text.utf8ByteSize := by
  obtain ⟨part, -, hmatch⟩ := Option.bind_eq_some_iff.1 h
  exact (Pattern.places_of_matchAt? hmatch).2.2

namespace Cover

theorem nil_iff : Cover parts text first offset [] ↔ offset = text.utf8ByteSize := by
  constructor
  · intro h
    simpa using h.offsets
  · rintro rfl
    exact ⟨by simp, .nil, rfl, by simp, by simp, by simp⟩

theorem cons_iff : Cover parts text first offset (use :: uses) ↔
    first ≤ use.index ∧ use.start = offset ∧
      partStop? parts text use.index offset = some use.stop ∧
      (∀ index, first ≤ index → index < use.index → partStop? parts text index offset = none) ∧
      Cover parts text (use.index + 1) use.stop uses := by
  constructor
  · rintro ⟨hfirst, hordered, hoffsets, hlt, hmatched, hpassed⟩
    obtain ⟨hbehind, hordered⟩ := List.pairwise_cons.1 hordered
    rw [List.map_cons, List.map_cons, List.cons_append, List.cons.injEq] at hoffsets
    obtain ⟨rfl, hoffsets⟩ := hoffsets
    refine ⟨hfirst use List.mem_cons_self, rfl, hmatched use List.mem_cons_self, ?_,
      hbehind, hordered, hoffsets, (List.forall_mem_cons.1 hlt).2,
      (List.forall_mem_cons.1 hmatched).2, ?_⟩
    · intro index hle hindex
      apply hpassed use List.mem_cons_self index hle hindex
      intro other hother hbefore
      rcases List.mem_cons.1 hother with rfl | hother
      · omega
      · have hlater := hbehind other hother
        omega
    · intro later hlater index hle hindex hothers
      have huse := hfirst use List.mem_cons_self
      apply hpassed later (List.mem_cons_of_mem _ hlater) index (by omega) hindex
      refine List.forall_mem_cons.2 ⟨fun _ ↦ hle, hothers⟩
  · rintro ⟨hfirst, rfl, hmatched, hpassed, hrest⟩
    obtain ⟨hbehind, hordered, hoffsets, hlt, hmatches, hpasses⟩ := hrest
    refine ⟨?_, List.pairwise_cons.2 ⟨hbehind, hordered⟩, by simpa using hoffsets,
      List.forall_mem_cons.2 ⟨(partStop?_bounds hmatched).1, hlt⟩,
      List.forall_mem_cons.2 ⟨hmatched, hmatches⟩, ?_⟩
    · refine List.forall_mem_cons.2 ⟨hfirst, fun later hlater ↦ ?_⟩
      have hlater := hbehind later hlater
      omega
    · refine List.forall_mem_cons.2 ⟨fun index hle hindex _ ↦ hpassed index hle hindex, ?_⟩
      intro later hlater index _ hindex hothers
      obtain ⟨huse, hothers⟩ := List.forall_mem_cons.1 hothers
      exact hpasses later hlater index (huse (hbehind later hlater)) hindex hothers

theorem eq_nil (h : Cover parts text first text.utf8ByteSize uses) : uses = [] := by
  cases uses with
  | nil => rfl
  | cons use uses =>
    obtain ⟨-, -, hmatched, -⟩ := cons_iff.1 h
    have hbounds := partStop?_bounds hmatched
    omega

theorem unique {others : List PartUse} (h : Cover parts text first offset uses)
    (h' : Cover parts text first offset others) : uses = others := by
  induction uses generalizing first offset others with
  | nil =>
    obtain rfl := nil_iff.1 h
    exact h'.eq_nil.symm
  | cons use uses ih =>
    cases others with
    | nil =>
      obtain rfl := nil_iff.1 h'
      exact h.eq_nil
    | cons other others =>
      obtain ⟨hle, hstart, hmatched, hpassed, hrest⟩ := cons_iff.1 h
      obtain ⟨hle', hstart', hmatched', hpassed', hrest'⟩ := cons_iff.1 h'
      have hindex : use.index = other.index := by
        -- The one with the smaller index would have been passed by the other.
        rcases Nat.lt_trichotomy use.index other.index with hlt | heq | hgt
        · rw [hpassed' _ hle hlt] at hmatched
          cases hmatched
        · exact heq
        · rw [hpassed _ hle' hgt] at hmatched'
          cases hmatched'
      rw [← hindex, hmatched, Option.some.injEq] at hmatched'
      obtain rfl : use = other := by
        cases use
        cases other
        simp_all
      rw [ih hrest hrest']

theorem skip_iff (hnone : partStop? parts text first offset = none) :
    Cover parts text first offset uses ↔ Cover parts text (first + 1) offset uses := by
  cases uses with
  | nil => rw [nil_iff, nil_iff]
  | cons use uses =>
    rw [cons_iff, cons_iff]
    constructor
    · rintro ⟨hle, hstart, hmatched, hpassed, hrest⟩
      have hne : first ≠ use.index := by
        rintro rfl
        rw [hnone] at hmatched
        cases hmatched
      refine ⟨by omega, hstart, hmatched, fun index hfirst ↦ hpassed index (by omega), hrest⟩
    · rintro ⟨hle, hstart, hmatched, hpassed, hrest⟩
      refine ⟨by omega, hstart, hmatched, fun index hfirst hindex ↦ ?_, hrest⟩
      rcases Nat.eq_or_lt_of_le hfirst with rfl | hfirst
      · exact hnone
      · exact hpassed index hfirst hindex

theorem use_iff (hlt : offset < text.utf8ByteSize)
    (hmatched : partStop? parts text first offset = some stop) :
    Cover parts text first offset uses ↔
      ∃ rest, uses = ⟨first, offset, stop⟩ :: rest ∧ Cover parts text (first + 1) stop rest := by
  constructor
  · intro h
    cases uses with
    | nil =>
      have hend := nil_iff.1 h
      omega
    | cons use uses =>
      obtain ⟨hle, hstart, hfound, hpassed, hrest⟩ := cons_iff.1 h
      have hindex : first = use.index := by
        rcases Nat.eq_or_lt_of_le hle with heq | hlt
        · exact heq
        · rw [hpassed first (Nat.le_refl _) hlt] at hmatched
          cases hmatched
      subst hindex hstart
      obtain rfl := Option.some.inj (hmatched.symm.trans hfound)
      exact ⟨uses, rfl, hrest⟩
  · rintro ⟨rest, rfl, hrest⟩
    refine cons_iff.2 ⟨Nat.le_refl _, rfl, hmatched, fun index hle hindex ↦ ?_, hrest⟩
    exact absurd hindex (Nat.not_lt.2 hle)

end Cover

end

/-- The rules find tokens exactly where some of them cover what is left of the text, and each token
is what a rule finds where it is used. -/
theorem tile?_eq_some_iff {parts rules : List SimpleRule} {base row first : Nat} {cursor : Cursor}
    {tokens : List Token} (hrules : parts.drop first = rules) :
    tile? base row rules cursor = some tokens ↔
      ∃ uses, Cover parts cursor.line first cursor.position uses ∧
        List.Forall₂ (PartUse.Finds parts cursor.line base row) uses tokens := by
  -- The walk goes through the parts from `first` on, so `first` grows with each rule it leaves.
  fun_induction tile? base row rules cursor generalizing first tokens with
  | case1 rules cursor hend =>
    rw [Cursor.position_eq_of_atEnd hend]
    constructor
    · intro h
      cases h
      exact ⟨[], Cover.nil_iff.2 rfl, .nil⟩
    · rintro ⟨uses, hcover, hfinds⟩
      obtain rfl := hcover.eq_nil
      cases hfinds
      rfl
  | case2 cursor hend =>
    have hlt := Cursor.position_lt_iff.2 (Bool.eq_false_iff.2 hend)
    have hlength := List.drop_eq_nil_iff.1 hrules
    refine iff_of_false (fun h ↦ by cases h) ?_
    rintro ⟨uses, hcover, -⟩
    cases uses with
    | nil =>
      have hposition := Cover.nil_iff.1 hcover
      omega
    | cons use uses =>
      obtain ⟨hle, -, hmatched, -⟩ := Cover.cons_iff.1 hcover
      rw [partStop?, List.getElem?_eq_none (by omega)] at hmatched
      cases hmatched
  | case3 cursor hend rule rules hnone ih =>
    obtain ⟨hpart, hrest⟩ := drop_eq_cons hrules
    have hstop := partStop?_position hpart cursor
    rw [hnone] at hstop
    rw [ih hrest]
    simp only [Cover.skip_iff hstop]
  | case4 cursor hend rule rules text hmatched ih =>
    have hlt := Cursor.position_lt_iff.2 (Bool.eq_false_iff.2 hend)
    obtain ⟨hpart, hrest⟩ := drop_eq_cons hrules
    have hstop := partStop?_position hpart cursor
    rw [hmatched] at hstop
    obtain ⟨-, hpiece⟩ := Pattern.pieceAt_of_matched? hmatched
    obtain ⟨-, after, hafter⟩ := Pattern.matched?_eq_some hmatched
    obtain ⟨hline, hposition⟩ := Cursor.forward_eq hafter
    simp only [Option.map_eq_some_iff, ih hrest, hline, hposition, Cover.use_iff hlt hstop]
    constructor
    · rintro ⟨tiles, ⟨uses, hcover, hfinds⟩, rfl⟩
      exact ⟨_, ⟨uses, rfl, hcover⟩, .cons ⟨rule, text, hpart, hpiece, rfl, rfl⟩ hfinds⟩
    · rintro ⟨_, ⟨uses, rfl, hcover⟩, hfinds⟩
      cases hfinds with
      | cons hfirst hfinds =>
        obtain ⟨part, piece, hpart', hpiece', hlen, rfl⟩ := hfirst
        obtain rfl := Option.some.inj (hpart.symm.trans hpart')
        obtain rfl := hpiece.unique hpiece' (Nat.add_left_cancel hlen.symm)
        exact ⟨_, ⟨uses, hcover, hfinds⟩, rfl⟩

theorem tile?_eq_tileToEnd? (offset row : Nat) (rules : List SimpleRule) (cursor : Cursor) :
    tile? offset row rules cursor = tileToEnd? offset row rules cursor := by
  fun_induction tile? offset row rules cursor with
  | case1 rules cursor hend =>
    induction rules with
    | nil => rw [tileToEnd?, if_pos hend]
    | cons rule rules ih => rw [tileToEnd?, rule.pattern.matched?_of_atEnd hend, ← ih]
  | case2 cursor hend => rw [tileToEnd?, if_neg hend]
  | case3 cursor hend rule rules hnone ih => rw [tileToEnd?, hnone, ih]
  | case4 cursor hend rule rules text hmatched ih => rw [tileToEnd?, hmatched, ih]

namespace Rule

variable {label : String} {pattern : Pattern} {parts : List SimpleRule} {line : String}
  {position row : Nat} {token : Token}

theorem tokenAt?_compound_iff :
    (compound label pattern parts).tokenAt? line position row = some token ↔
      ∃ whole uses tiles, (simple ⟨label, pattern⟩).tokenAt? line position row = some whole ∧
        Cover parts whole.text 0 0 uses ∧
        List.Forall₂ (PartUse.Finds parts whole.text position row) uses tiles ∧
        token = { whole with parts := tiles } := by
  have hparts : parts.drop 0 = parts := List.drop_zero
  simp only [tokenAt?, token?, SimpleRule.token?, Option.bind_eq_bind, Option.bind_eq_some_iff,
    Option.map_eq_some_iff, Option.some.injEq, tile?_eq_some_iff hparts, Cursor.line_start,
    Cursor.position_start]
  constructor
  · rintro ⟨cursor, hcursor, text, hmatched, tiles, ⟨uses, hcover, hfinds⟩, rfl⟩
    obtain ⟨rfl, rfl⟩ := Cursor.at?_eq_some_iff.1 hcursor
    exact ⟨_, uses, tiles, ⟨cursor, hcursor, text, hmatched, rfl⟩, hcover, hfinds, rfl⟩
  · rintro ⟨_, uses, tiles, ⟨cursor, hcursor, text, hmatched, rfl⟩, hcover, hfinds, rfl⟩
    obtain ⟨rfl, rfl⟩ := Cursor.at?_eq_some_iff.1 hcursor
    exact ⟨cursor, hcursor, text, hmatched, tiles, ⟨uses, hcover, hfinds⟩, rfl⟩

theorem exists_use_of_cover {whole : Token} {uses : List PartUse}
    (hwhole : (simple ⟨label, pattern⟩).tokenAt? line position row = some whole)
    (hcover : Cover parts whole.text 0 0 uses) : ∃ use rest, uses = use :: rest := by
  have hpattern : (simple ⟨label, pattern⟩).HasPattern := trivial
  obtain ⟨-, hlies, -⟩ := liesIn_of_tokenAt? hpattern hwhole
  cases uses with
  | nil =>
    have hsize := Cover.nil_iff.1 hcover
    exact absurd (String.utf8ByteSize_eq_zero_iff.1 hsize.symm) hlies.text_ne
  | cons use rest => exact ⟨use, rest, rfl⟩

theorem not_cover_nil {whole : Token} {uses : List PartUse}
    (hwhole : (simple ⟨label, pattern⟩).tokenAt? line position row = some whole) :
    ¬ Cover [] whole.text 0 0 uses := by
  intro hcover
  obtain ⟨use, rest, rfl⟩ := exists_use_of_cover hwhole hcover
  obtain ⟨-, -, hmatched, -⟩ := Cover.cons_iff.1 hcover
  cases hmatched

theorem tokenAt?_compound_nil : (compound label pattern []).tokenAt? line position row = none := by
  rw [Option.eq_none_iff_forall_ne_some]
  intro token hfound
  obtain ⟨whole, uses, tiles, hwhole, hcover, -⟩ := tokenAt?_compound_iff.1 hfound
  exact not_cover_nil hwhole hcover

theorem tiles_of_tokenAt?_compound
    (h : (compound label pattern parts).tokenAt? line position row = some token) :
    Tiles line row (fun _ _ ↦ False) position token.parts token.stop := by
  have hpattern : (compound label pattern parts).HasPattern := trivial
  obtain ⟨rfl, -, htiled⟩ := liesIn_of_tokenAt? hpattern h
  apply htiled.resolve_left
  intro hnil
  obtain ⟨whole, uses, tiles, hwhole, hcover, hfinds, rfl⟩ := tokenAt?_compound_iff.1 h
  obtain ⟨use, rest, rfl⟩ := exists_use_of_cover hwhole hcover
  obtain rfl : tiles = [] := hnil
  cases hfinds

/-- A compound rule finds a token exactly where a simple rule with its pattern finds one that some
of its parts cover, one behind the other and none of them twice. There is one way to choose them,
and each makes a part of the token; so the parts tile the token, and a rule without parts finds
nothing. Trying the parts behind the end of the token would change nothing. -/
theorem tokenAt?_compound (label : String) (pattern : Pattern) (parts : List SimpleRule)
    (line : String) (position row : Nat) :
    (∀ token, (compound label pattern parts).tokenAt? line position row = some token ↔
      ∃ whole uses tiles, (simple ⟨label, pattern⟩).tokenAt? line position row = some whole ∧
        Cover parts whole.text 0 0 uses ∧
        List.Forall₂ (PartUse.Finds parts whole.text position row) uses tiles ∧
        token = { whole with parts := tiles }) ∧
    (∀ text uses others, Cover parts text 0 0 uses → Cover parts text 0 0 others →
      uses = others) ∧
    (∀ token, (compound label pattern parts).tokenAt? line position row = some token →
      Tiles line row (fun _ _ ↦ False) position token.parts token.stop) ∧
    (compound label pattern []).tokenAt? line position row = none ∧
    ∀ offset cursor, tile? offset row parts cursor = tileToEnd? offset row parts cursor := by
  refine ⟨fun token ↦ tokenAt?_compound_iff, ?_, ?_, tokenAt?_compound_nil, ?_⟩
  · intro text uses others h h'
    exact h.unique h'
  · intro token h
    exact tiles_of_tokenAt?_compound h
  · intro offset cursor
    exact tile?_eq_tileToEnd? offset row parts cursor

def digit : Pattern := ⟨"[0-9]", (Regex.char (.range 0x30 0x39)).program⟩

def signedDigit : Pattern :=
  ⟨"[+][0-9]", ((Regex.char (.range 0x2b 0x2b)).seq (Regex.char (.range 0x30 0x39))).program⟩

def numberParts : List SimpleRule :=
  [⟨"sign", ⟨"[+]", (Regex.char (.range 0x2b 0x2b)).program⟩⟩,
    ⟨"space", ⟨"[ ]", (Regex.char (.range 0x20 0x20)).program⟩⟩, ⟨"digit", digit⟩]

def signedNumber : Rule := compound "number" signedDigit numberParts

theorem cover_numberParts : Cover numberParts "+7" 0 0 [⟨0, 0, 1⟩, ⟨2, 1, 2⟩] := by
  have hdigit : Cover numberParts "+7" 1 1 [⟨2, 1, 2⟩] := by
    refine Cover.cons_iff.2 ⟨by decide, rfl, rfl, ?_, Cover.nil_iff.2 rfl⟩
    intro index hle hlt
    -- Only the space lies between, and it is not there.
    obtain rfl : index = 1 := by dsimp only at hlt; omega
    rfl
  refine Cover.cons_iff.2 ⟨Nat.le_refl 0, rfl, rfl, ?_, hdigit⟩
  intro index _ hlt
  exact absurd hlt (Nat.not_lt_zero index)

theorem tokenAt?_compound_signedNumber :
    ∃ token, signedNumber.tokenAt? "é+7" 2 0 = some token ∧
      token = ⟨"number", "+7", 2, 0, [⟨"sign", "+", 2, 0, []⟩, ⟨"digit", "7", 3, 0, []⟩]⟩ ∧
      Cover numberParts "+7" 0 0 [⟨0, 0, 1⟩, ⟨2, 1, 2⟩] ∧
      (∀ uses, Cover numberParts "+7" 0 0 uses → uses = [⟨0, 0, 1⟩, ⟨2, 1, 2⟩]) ∧
      Tiles "é+7" 0 (fun _ _ ↦ False) 2 token.parts token.stop := by
  obtain ⟨hiff, hunique, htiles, -⟩ := tokenAt?_compound "number" signedDigit numberParts "é+7" 2 0
  have hwhole : (simple ⟨"number", signedDigit⟩).tokenAt? "é+7" 2 0 =
      some ⟨"number", "+7", 2, 0, []⟩ := rfl
  have hsign : PartUse.Finds numberParts "+7" 2 0 ⟨0, 0, 1⟩ ⟨"sign", "+", 2, 0, []⟩ :=
    ⟨_, ['+'], rfl, ⟨[], ['7'], rfl, rfl⟩, rfl, rfl⟩
  have hdigit : PartUse.Finds numberParts "+7" 2 0 ⟨2, 1, 2⟩ ⟨"digit", "7", 3, 0, []⟩ :=
    ⟨_, ['7'], rfl, ⟨['+'], [], rfl, rfl⟩, rfl, rfl⟩
  have hfound := (hiff _).2
    ⟨_, _, _, hwhole, cover_numberParts, .cons hsign (.cons hdigit .nil), rfl⟩
  refine ⟨_, hfound, rfl, cover_numberParts, ?_, htiles _ hfound⟩
  intro uses huses
  exact hunique _ _ _ huses cover_numberParts

end Rule

end Linewise
