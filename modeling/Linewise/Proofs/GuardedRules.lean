import Linewise.Proofs.Guarded
import Linewise.Proofs.PartCover

namespace Linewise

def addWithin (limit a b : Nat) : Except Fault Nat :=
  if a + b ≤ limit then .ok (a + b) else .error .overflow

def slice (text : String) (position stop : Nat) : Except Fault String :=
  match cut? stop text.toList >>= fun (before, _) ↦ cut? position before with
  | some (_, piece) => .ok (String.ofList piece)
  | none => .error .slice

namespace Pattern

/-- Where a match that begins at the byte position ends, which may be empty. A search must not begin
behind the text, and inside a character nothing matches. -/
def search (pattern : Pattern) (text : String) (position : Nat) : Except Fault (Option Nat) :=
  if text.utf8ByteSize < position then .error .slice
  else .ok do
    let (before, after) ← cut? position text.toList
    let length ← pattern.program.matchLength? before.getLast? after
    some (position + byteLength (after.take length))

def guardedMatchAt (pattern : Pattern) (text : String) (position : Nat) :
    Except Fault (Option Nat) :=
  if text.utf8ByteSize < position then .ok none
  else (pattern.search text position).map (Option.filter (· ≠ position))

def guardedText (pattern : Pattern) (line : String) (position : Nat) :
    Except Fault (Option String) := do
  match ← pattern.guardedMatchAt line position with
  | none => .ok none
  | some stop => (slice line position stop).map some

end Pattern

def SimpleRule.guardedToken (rule : SimpleRule) (line : String) (position row : Nat) :
    Except Fault (Option Token) :=
  (rule.pattern.guardedText line position).map fun text? ↦
    text?.map fun text ↦ ⟨rule.label, text, position, row, []⟩

/-- The tokens that cover the text from the offset on. Positions count from `base` and must not be
more than the limit. When the rules end before the text does, what is left of it is cut off to be
reported. -/
def guardedTile (limit : Nat) (text : String) (base row : Nat) :
    List SimpleRule → Nat → Except Fault (Option (List Token))
  | [], offset =>
    if offset < text.utf8ByteSize then (sliceFrom text offset).map fun _ ↦ none
    else .ok (some [])
  | rule :: rules, offset =>
    if offset = text.utf8ByteSize then .ok (some [])
    else do
      match ← rule.guardedToken text offset row with
      | none => guardedTile limit text base row rules offset
      | some token =>
        let next ← addWithin limit token.start token.text.utf8ByteSize
        let start ← addWithin limit base token.start
        let rest? ← guardedTile limit text base row rules next
        .ok (rest?.map ({ token with start := start } :: ·))

/-- What a rule answers when it is asked at a byte position, with a fault where it would cut or add
what it must not. -/
def Rule.guardedToken (rule : Rule) (line : String) (position row : Nat) :
    Except Fault (Option Token) :=
  match rule with
  | .simple rule => rule.guardedToken line position row
  | .compound label pattern parts => do
    match ← pattern.guardedText line position with
    | none => .ok none
    | some text =>
      let tiles? ← guardedTile line.utf8ByteSize text position row parts 0
      .ok (tiles?.map fun tiles ↦ ⟨label, text, position, row, tiles⟩)
  | .custom _ classify => .ok (classify line position row)

theorem addWithin_of_le {limit a b : Nat} (h : a + b ≤ limit) :
    addWithin limit a b = .ok (a + b) := if_pos h

theorem slice_eq_ok_iff {text piece : String} {position stop : Nat} :
    slice text position stop = .ok piece ↔
      PieceAt text position piece.toList ∧ position + piece.utf8ByteSize = stop := by
  constructor
  · intro h
    unfold slice at h
    split at h
    · next before found hcut =>
      simp only [Option.bind_eq_bind, Option.bind_eq_some_iff, Prod.exists, cut?_eq_some_iff]
        at hcut
      obtain ⟨whole, after, ⟨htext, rfl⟩, rfl, rfl⟩ := hcut
      cases h
      refine ⟨⟨before, after, by simpa using htext, rfl⟩, ?_⟩
      rw [utf8ByteSize_ofList, byteLength_append]
    · cases h
  · intro h
    obtain ⟨⟨before, after, htext, rfl⟩, rfl⟩ := h
    have hstop : byteLength before + piece.utf8ByteSize =
        byteLength (before ++ piece.toList) := by
      rw [byteLength_append, utf8ByteSize_eq_byteLength]
    simp only [slice, htext, hstop, cut?_append, Option.bind_eq_bind, Option.bind_some,
      String.ofList_toList]

theorem Cursor.at?_eq_none_iff {line : String} {position : Nat} :
    at? line position = none ↔ ¬ IsPlace line position := by
  rw [Option.eq_none_iff_forall_ne_some]
  constructor
  · intro h hplace
    obtain ⟨cursor, hcursor⟩ := exists_of_isPlace hplace
    exact h cursor (at?_eq_some_iff.2 hcursor)
  · intro h cursor hcursor
    obtain ⟨rfl, rfl⟩ := at?_eq_some_iff.1 hcursor
    exact h cursor.isPlace

namespace Pattern

theorem guardedMatchAt_position (pattern : Pattern) (cursor : Cursor) :
    pattern.guardedMatchAt cursor.line cursor.position =
      .ok (pattern.matchAt? cursor.line cursor.position) := by
  have hprevious : cursor.before.reverse.getLast? = cursor.previous? := List.getLast?_reverse
  have hle := cursor.isPlace.le
  rw [guardedMatchAt, if_neg (Nat.not_lt.2 hle), search, if_neg (Nat.not_lt.2 hle),
    cursor.cut?_position, matchAt?_position, matched?]
  cases hrun : pattern.program.matchLength? cursor.previous? cursor.after with
  | none => simp [Except.map, hprevious, hrun]
  | some length =>
    cases length with
    | zero => simp [Except.map, hprevious, hrun]
    | succ length =>
      -- The match does not end behind the text, so all its characters take part in the sum.
      have hlength := Program.matchLength?_le hrun
      have htaken := length_le_byteLength (cursor.after.take (length + 1))
      have hne : byteLength (cursor.after.take (length + 1)) ≠ 0 := by
        rw [List.length_take] at htaken
        omega
      simp [Except.map, hprevious, hrun, hne]

theorem guardedMatchAt_eq (pattern : Pattern) (text : String) (position : Nat) :
    pattern.guardedMatchAt text position = .ok (pattern.matchAt? text position) := by
  cases hcursor : Cursor.at? text position with
  | some cursor =>
    obtain ⟨rfl, rfl⟩ := Cursor.at?_eq_some_iff.1 hcursor
    exact guardedMatchAt_position pattern cursor
  | none =>
    have hnone : pattern.matchAt? text position = none := by
      rw [matchAt?, hcursor]
      rfl
    have hcut : cut? position text.toList = none := by
      rw [Cursor.at?_eq_none_iff, ← isSome_cut?_iff, Option.not_isSome_iff_eq_none] at hcursor
      exact hcursor
    rw [hnone, guardedMatchAt]
    split
    · rfl
    · next hle =>
      rw [search, if_neg hle, hcut]
      rfl

theorem guardedText_eq (pattern : Pattern) (line : String) (position : Nat) :
    pattern.guardedText line position =
      .ok ((pattern.textAt? line position).map String.ofList) := by
  rw [guardedText, guardedMatchAt_eq, matchAt?_eq_map]
  cases htext : pattern.textAt? line position with
  | none => rfl
  | some text =>
    obtain ⟨-, hpiece⟩ := pieceAt_of_textAt? htext
    have hslice : slice line position (position + byteLength text) = .ok (String.ofList text) := by
      rw [slice_eq_ok_iff, String.toList_ofList, utf8ByteSize_ofList]
      exact ⟨hpiece, rfl⟩
    simp [bind, Except.bind, Except.map, hslice]

end Pattern

theorem Rule.tokenAt?_of_simple (rule : SimpleRule) (line : String) (position row : Nat) :
    (simple rule).tokenAt? line position row =
      (rule.pattern.textAt? line position).map fun text ↦
        ⟨rule.label, String.ofList text, position, row, []⟩ := by
  unfold tokenAt? Pattern.textAt?
  cases hcursor : Cursor.at? line position with
  | none => rfl
  | some cursor =>
    obtain ⟨rfl, rfl⟩ := Cursor.at?_eq_some_iff.1 hcursor
    rfl

theorem Rule.tokenAt?_of_compound (label : String) (pattern : Pattern) (parts : List SimpleRule)
    (line : String) (position row : Nat) :
    (compound label pattern parts).tokenAt? line position row =
      (pattern.textAt? line position).bind fun text ↦
        (tile? position row parts (.start (String.ofList text))).map fun tiles ↦
          ⟨label, String.ofList text, position, row, tiles⟩ := by
  unfold tokenAt? Pattern.textAt?
  cases hcursor : Cursor.at? line position with
  | none => rfl
  | some cursor =>
    obtain ⟨rfl, rfl⟩ := Cursor.at?_eq_some_iff.1 hcursor
    simp only [token?, Option.bind_eq_bind, Option.bind_some, Option.map_eq_bind]
    rfl

theorem SimpleRule.guardedToken_eq (rule : SimpleRule) (line : String) (position row : Nat) :
    rule.guardedToken line position row =
      .ok ((Rule.simple rule).tokenAt? line position row) := by
  rw [guardedToken, Pattern.guardedText_eq, Rule.tokenAt?_of_simple]
  cases rule.pattern.textAt? line position <;> rfl

theorem SimpleRule.guardedToken_position (rule : SimpleRule) (cursor : Cursor) (row : Nat) :
    rule.guardedToken cursor.line cursor.position row = .ok (rule.token? cursor row) := by
  rw [guardedToken_eq, Rule.tokenAt?_position]
  rfl

theorem guardedTile_position {limit base row : Nat} {rules : List SimpleRule} {cursor : Cursor}
    (h : base + cursor.line.utf8ByteSize ≤ limit) :
    guardedTile limit cursor.line base row rules cursor.position =
      .ok (tile? base row rules cursor) := by
  fun_induction tile? base row rules cursor with
  | case1 rules cursor hend =>
    have hposition := Cursor.position_eq_of_atEnd hend
    cases rules with
    | nil => rw [guardedTile, if_neg (by omega)]
    | cons rule rules => rw [guardedTile, if_pos hposition]
  | case2 cursor hend =>
    have hlt := Cursor.position_lt_iff.2 (Bool.eq_false_iff.2 hend)
    rw [guardedTile, if_pos hlt, sliceFrom_position]
    rfl
  | case3 cursor hend rule rules hnone ih =>
    have hlt := Cursor.position_lt_iff.2 (Bool.eq_false_iff.2 hend)
    rw [guardedTile, if_neg (Nat.ne_of_lt hlt), SimpleRule.guardedToken_position,
      SimpleRule.token?, hnone]
    exact ih h
  | case4 cursor hend rule rules text hmatched ih =>
    have hlt := Cursor.position_lt_iff.2 (Bool.eq_false_iff.2 hend)
    obtain ⟨-, hpiece⟩ := Pattern.pieceAt_of_matched? hmatched
    obtain ⟨-, rest, hafter⟩ := Pattern.matched?_eq_some hmatched
    obtain ⟨hline, hposition⟩ := Cursor.forward_eq hafter
    -- The token ends within the text, which ends where the limit allows; so both sums are made.
    have hle := hpiece.le
    have hnext : addWithin limit cursor.position (String.ofList text).utf8ByteSize =
        .ok (cursor.forward text.length).position := by
      rw [hposition, utf8ByteSize_ofList]
      exact addWithin_of_le (by omega)
    have hstart : addWithin limit base cursor.position = .ok (base + cursor.position) :=
      addWithin_of_le (by omega)
    have hrest := ih (hline ▸ h)
    rw [hline] at hrest
    rw [guardedTile, if_neg (Nat.ne_of_lt hlt), SimpleRule.guardedToken_position,
      SimpleRule.token?, hmatched]
    simp [bind, Except.bind, hnext, hstart, hrest]

/-- Wherever a rule is asked, it cuts at places only and adds up to no more than the line has
bytes. -/
theorem Rule.guardedToken_eq (rule : Rule) (line : String) (position row : Nat) :
    rule.guardedToken line position row = .ok (rule.answer? line position row) := by
  cases rule with
  | simple rule => exact rule.guardedToken_eq line position row
  | compound label pattern parts =>
    have hanswer : (compound label pattern parts).answer? line position row =
        (compound label pattern parts).tokenAt? line position row := rfl
    rw [guardedToken, Pattern.guardedText_eq, hanswer, tokenAt?_of_compound]
    cases htext : pattern.textAt? line position with
    | none => rfl
    | some text =>
      obtain ⟨-, hpiece⟩ := Pattern.pieceAt_of_textAt? htext
      have hle : position + (String.ofList text).utf8ByteSize ≤ line.utf8ByteSize := by
        rw [utf8ByteSize_ofList]
        exact hpiece.le
      have htiles := @guardedTile_position _ _ row parts (.start (String.ofList text)) hle
      rw [Cursor.line_start, Cursor.position_start] at htiles
      simp [bind, Except.bind, htiles]
  | custom label classify => rfl

/-- The token is cut out of the line at the byte position, and a scan that stands there takes it. -/
structure Token.CutAt (token : Token) (line : String) (position : Nat) : Prop where
  start_eq : token.start = position
  text_ne : token.text ≠ ""
  slice_eq : slice line position token.stop = .ok token.text
  isPlace_stop : IsPlace line token.stop
  accepted : ∃ cursor next, Cursor.at? line position = some cursor ∧
    cursor.accept? token = some next

namespace Rule

variable {rule : Rule} {line : String} {position row : Nat} {token : Token}

theorem answer?_of_hasPattern (hrule : rule.HasPattern) (line : String) (position row : Nat) :
    rule.answer? line position row = rule.tokenAt? line position row := by
  cases rule with
  | simple rule => rfl
  | compound label pattern parts => rfl
  | custom label classify => exact hrule.elim

theorem cutAt_of_tokenAt? (hrule : rule.HasPattern)
    (h : rule.tokenAt? line position row = some token) : token.CutAt line position := by
  obtain ⟨rfl, hlies, -⟩ := liesIn_of_tokenAt? hrule h
  have hfits := hlies.fits
  obtain ⟨cursor, hline, hposition⟩ := Cursor.exists_of_isPlace hlies.piece.isPlace
  obtain ⟨next, hnext⟩ := Cursor.exists_of_isPlace hfits.2.2
  rw [← hline, ← hposition] at hfits
  refine ⟨rfl, hlies.text_ne, ?_, hlies.fits.2.2, cursor, next, ?_, ?_⟩
  · exact slice_eq_ok_iff.2 ⟨hlies.piece, rfl⟩
  · exact Cursor.at?_eq_some_iff.2 ⟨hline, hposition⟩
  · exact Cursor.accept?_eq_some_iff.2 ⟨hfits, hnext.1.trans hline.symm, hnext.2⟩

theorem taken?_of_hasPattern (hrule : rule.HasPattern) (cursor : Cursor) (row : Nat) :
    (rule.taken? cursor row).map Prod.fst = rule.tokenAt? cursor.line cursor.position row := by
  rw [taken?, tokenAt?_position]
  cases hfound : rule.token? cursor row with
  | none => rfl
  | some token =>
    rw [← tokenAt?_position] at hfound
    obtain ⟨place, next, hplace, haccepted⟩ := (cutAt_of_tokenAt? hrule hfound).accepted
    rw [Cursor.at?_position, Option.some.injEq] at hplace
    rw [← hplace] at haccepted
    simp [haccepted]

end Rule

theorem map_findSome?_taken? {rules : List Rule} (hrules : ∀ rule ∈ rules, rule.HasPattern)
    (cursor : Cursor) (row : Nat) :
    (rules.findSome? (·.taken? cursor row)).map Prod.fst =
      rules.findSome? (·.tokenAt? cursor.line cursor.position row) := by
  induction rules with
  | nil => rfl
  | cons rule rules ih =>
    obtain ⟨hrule, hrules⟩ := List.forall_mem_cons.1 hrules
    rw [List.findSome?_cons, List.findSome?_cons, ← Rule.taken?_of_hasPattern hrule]
    cases rule.taken? cursor row with
    | none => exact ih hrules
    | some found => rfl

theorem guardedMatch_of_hasPattern {line : String} {position row : Nat} {rules : List Rule}
    (hrules : ∀ rule ∈ rules, rule.HasPattern) (hline : line.utf8ByteSize < 2 ^ 63) :
    guardedMatch line position row rules =
      .ok (rules.findSome? (·.tokenAt? line position row)) := by
  induction rules with
  | nil => rfl
  | cons rule rules ih =>
    obtain ⟨hrule, hrules⟩ := List.forall_mem_cons.1 hrules
    rw [guardedMatch, Rule.answer?_of_hasPattern hrule, List.findSome?_cons]
    cases hfound : rule.tokenAt? line position row with
    | none => exact ih hrules
    | some token =>
      -- Only a rule that finds something has its end computed, and that end lies within the line.
      obtain ⟨rfl, hlies, -⟩ := Rule.liesIn_of_tokenAt? hrule hfound
      have hle := hlies.fits.2.2.le
      rw [Token.stop] at hle
      obtain ⟨answer, hadvances, hiff⟩ :=
        @Token.advances_eq line token.start token (by omega) (by omega)
      obtain rfl := hiff.2 hlies.fits
      dsimp only
      rw [hadvances]
      rfl

namespace Lexer

theorem match?_of_hasPattern {lexer : Lexer} (hrules : ∀ rule ∈ lexer.rules, rule.HasPattern)
    (line : String) (position row : Nat) :
    ((Cursor.at? line position).bind (lexer.match? · row)).map Prod.fst =
      lexer.rules.findSome? (·.tokenAt? line position row) := by
  cases hcursor : Cursor.at? line position with
  | none =>
    have hnone : ∀ rule ∈ lexer.rules, rule.tokenAt? line position row = none := by
      intro rule _
      rw [Rule.tokenAt?, hcursor]
      rfl
    rw [List.findSome?_eq_none_iff.2 hnone]
    rfl
  | some cursor =>
    obtain ⟨rfl, rfl⟩ := Cursor.at?_eq_some_iff.1 hcursor
    rw [Option.bind_some, match?_eq_findSome?]
    exact map_findSome?_taken? hrules cursor row

/-- A pattern matches from one place of a line to a later one. So a rule with a pattern has no
fault wherever it is asked, and what it finds is cut out of the line there. A scan takes each such
token: in a table of such rules, it finds what the first rule finds that finds anything, also where
its test adds in words of 64 bits. -/
theorem match?_unchecked (line : String) (position row : Nat) :
    (∀ pattern : Pattern,
      pattern.guardedMatchAt line position = .ok (pattern.matchAt? line position) ∧
      ∀ stop, pattern.matchAt? line position = some stop →
        IsPlace line position ∧ IsPlace line stop ∧ position < stop ∧
          stop ≤ line.utf8ByteSize) ∧
    (∀ rule : Rule, rule.HasPattern →
      rule.guardedToken line position row = .ok (rule.tokenAt? line position row) ∧
      ∀ token, rule.tokenAt? line position row = some token → token.CutAt line position) ∧
    ∀ lexer : Lexer, (∀ rule ∈ lexer.rules, rule.HasPattern) →
      ((Cursor.at? line position).bind (lexer.match? · row)).map Prod.fst =
        lexer.rules.findSome? (·.tokenAt? line position row) ∧
      (line.utf8ByteSize < 2 ^ 63 →
        guardedMatch line position row lexer.rules =
          .ok (lexer.rules.findSome? (·.tokenAt? line position row))) := by
  refine ⟨?_, ?_, ?_⟩
  · intro pattern
    exact ⟨pattern.guardedMatchAt_eq line position, fun stop ↦ Pattern.places_of_matchAt?⟩
  · intro rule hrule
    refine ⟨?_, fun token ↦ Rule.cutAt_of_tokenAt? hrule⟩
    rw [rule.guardedToken_eq, Rule.answer?_of_hasPattern hrule]
  · intro lexer hrules
    exact ⟨match?_of_hasPattern hrules line position row, guardedMatch_of_hasPattern hrules⟩

def numbers : Lexer := ⟨[.simple ⟨"digit", Rule.digit⟩, Rule.signedNumber], false, none⟩

theorem match?_unchecked_numbers :
    ∃ token, (∀ rule ∈ numbers.rules, rule.HasPattern) ∧ "é+7".utf8ByteSize < 2 ^ 63 ∧
      Rule.signedDigit.matchAt? "é+7" 2 = some 4 ∧
      (IsPlace "é+7" 2 ∧ IsPlace "é+7" 4 ∧ 2 < 4 ∧ 4 ≤ "é+7".utf8ByteSize) ∧
      Rule.signedNumber.HasPattern ∧ Rule.signedNumber.tokenAt? "é+7" 2 0 = some token ∧
      Rule.signedNumber.guardedToken "é+7" 2 0 = .ok (some token) ∧ token.CutAt "é+7" 2 ∧
      ((Cursor.at? "é+7" 2).bind (numbers.match? · 0)).map Prod.fst = some token ∧
      guardedMatch "é+7" 2 0 numbers.rules = .ok (some token) ∧
      guardedMatch "é+7" 1 0 numbers.rules = .ok none := by
  have hrules : ∀ rule ∈ numbers.rules, rule.HasPattern := by
    simp [numbers, Rule.signedNumber, Rule.HasPattern]
  have hsize : "é+7".utf8ByteSize < 2 ^ 63 := by decide
  have hmatch : Rule.signedDigit.matchAt? "é+7" 2 = some 4 := rfl
  have hfound : Rule.signedNumber.tokenAt? "é+7" 2 0 =
      some ⟨"number", "+7", 2, 0, [⟨"sign", "+", 2, 0, []⟩, ⟨"digit", "7", 3, 0, []⟩]⟩ := rfl
  have hfirst : numbers.rules.findSome? (·.tokenAt? "é+7" 2 0) =
      Rule.signedNumber.tokenAt? "é+7" 2 0 := rfl
  have hinside : numbers.rules.findSome? (·.tokenAt? "é+7" 1 0) = none := rfl
  obtain ⟨hpatterns, htokens, htables⟩ := match?_unchecked "é+7" 2 0
  obtain ⟨-, -, htablesWithin⟩ := match?_unchecked "é+7" 1 0
  obtain ⟨-, hplaces⟩ := hpatterns Rule.signedDigit
  obtain ⟨hanswer, hcut⟩ := htokens Rule.signedNumber trivial
  obtain ⟨htaken, hguarded⟩ := htables numbers hrules
  obtain ⟨-, hwithin⟩ := htablesWithin numbers hrules
  rw [hfirst, hfound] at htaken hguarded
  rw [hfound] at hanswer
  rw [hinside] at hwithin
  exact ⟨_, hrules, hsize, hmatch, hplaces 4 hmatch, trivial, hfound, hanswer, hcut _ hfound,
    htaken, hguarded hsize, hwithin hsize⟩

end Lexer

end Linewise
