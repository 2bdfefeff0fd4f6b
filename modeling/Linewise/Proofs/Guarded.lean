import Linewise.Proofs.Classification
import Linewise.Proofs.LineByLine

namespace Linewise

/-- What a scan must not do, whatever tokens its rules find: compute a sum that no word of 64 bits
can hold, or the end of a token that does not start where the scan is, cut the line inside a
character or behind its end, take a character behind the last one, make more rounds than allowed. -/
inductive Fault where
  | overflow
  | misplaced
  | slice
  | noCharacter
  | stalled
  deriving DecidableEq

def addWords (a b : Nat) : Except Fault Nat :=
  if a + b < 2 ^ 64 then .ok (a + b) else .error .overflow

def sliceFrom (line : String) (position : Nat) : Except Fault (List Char) :=
  match cut? position line.toList with
  | some (_, rest) => .ok rest
  | none => .error .slice

def Token.guardedStop (token : Token) (position : Nat) : Except Fault Nat :=
  if token.start = position then addWords token.start token.text.utf8ByteSize
  else .error .misplaced

/-- The scan may go on behind the token. The three tests are made one after the other, each only if
those before it hold. -/
def Token.advances (token : Token) (line : String) (position : Nat) : Except Fault Bool :=
  if token.start ≠ position then .ok false
  else do
    let stop ← token.guardedStop position
    if stop ≤ position then .ok false
    else do
      let stop ← token.guardedStop position
      .ok (cut? stop line.toList).isSome

/-- What a rule answers when it is asked at a byte position, which need not be a place. -/
def Rule.answer? (rule : Rule) (line : String) (position row : Nat) : Option Token :=
  match rule with
  | .custom _ classify => classify line position row
  | rule => rule.tokenAt? line position row

def guardedMatch (line : String) (position row : Nat) : List Rule → Except Fault (Option Token)
  | [] => .ok none
  | rule :: rules =>
    match rule.answer? line position row with
    | none => guardedMatch line position row rules
    | some token => do
      if ← token.advances line position then .ok (some token)
      else guardedMatch line position row rules

namespace Lexer

def guardedRound (lexer : Lexer) (line : String) (row : Nat) (assembly : Assembly)
    (position : Nat) : Except Fault (Option (Assembly × Nat)) := do
  match ← guardedMatch line position row lexer.rules with
  | some token => .ok (some (assembly.push token, ← token.guardedStop position))
  | none =>
    match if lexer.skipBlanks then blankWidth? line position else none with
    | some width => .ok (some (assembly.breakRun, ← addWords position width))
    | none =>
      match ← sliceFrom line position with
      | [] => .error .noCharacter
      | c :: _ =>
        if lexer.strayLabel?.isSome then
          .ok (some (assembly.pushStray c position row, ← addWords position c.utf8Size))
        else .ok none

/-- Scans the line from the byte position on in at most `rounds` rounds. The result comes with the
positions at which the scan asked whether the line has ended. -/
def guardedScan (lexer : Lexer) (line : String) (row : Nat) :
    (rounds : Nat) → Assembly → Nat → Except Fault (List Nat × Except ScanError Assembly)
  | rounds, assembly, position =>
    if line.utf8ByteSize ≤ position then .ok ([position], .ok assembly)
    else
      match rounds with
      | 0 => .error .stalled
      | rounds + 1 => do
        match ← lexer.guardedRound line row assembly position with
        | none => .ok ([position], .error ⟨line, position, row⟩)
        | some (assembly, next) =>
          let (positions, result) ← lexer.guardedScan line row rounds assembly next
          .ok (position :: positions, result)

end Lexer

theorem Rule.answer?_position (rule : Rule) (cursor : Cursor) (row : Nat) :
    rule.answer? cursor.line cursor.position row = rule.token? cursor row := by
  cases rule with
  | simple rule => exact tokenAt?_position _ cursor row
  | compound label pattern parts => exact tokenAt?_position _ cursor row
  | custom label classify => rfl

theorem isSome_cut?_iff {line : String} {position : Nat} :
    (cut? position line.toList).isSome = true ↔ IsPlace line position := by
  rw [Option.isSome_iff_exists, Prod.exists]
  simp only [cut?_eq_some_iff, IsPlace, PieceAt, List.append_nil]

theorem Cursor.cut?_position (cursor : Cursor) :
    cut? cursor.position cursor.line.toList = some (cursor.before.reverse, cursor.after) := by
  rw [cut?_eq_some_iff, byteLength_reverse]
  exact ⟨cursor.toList_line, cursor.position_eq.symm⟩

theorem sliceFrom_position (cursor : Cursor) :
    sliceFrom cursor.line cursor.position = .ok cursor.after := by
  rw [sliceFrom, cursor.cut?_position]

theorem blankWidth?_position {cursor : Cursor} {c : Char} (h : cursor.next? = some c) :
    blankWidth? cursor.line cursor.position = if isBlank c then some c.utf8Size else none := by
  simp [blankWidth?, h]

section

variable {line : String} {position : Nat} {token : Token}

theorem addWords_of_lt {a b : Nat} (ha : a < 2 ^ 63) (hb : b < 2 ^ 63) :
    addWords a b = .ok (a + b) := if_pos (by omega)

theorem Token.guardedStop_eq (hstart : token.start = position) (hposition : position < 2 ^ 63)
    (htext : token.text.utf8ByteSize < 2 ^ 63) : token.guardedStop position = .ok token.stop := by
  rw [guardedStop, if_pos hstart, addWords_of_lt (hstart ▸ hposition) htext]
  rfl

/-- The end of a token is computed only if the token starts where the scan is, and then a word holds
it. -/
theorem Token.advances_eq (hposition : position < 2 ^ 63)
    (htext : token.text.utf8ByteSize < 2 ^ 63) :
    ∃ answer, token.advances line position = .ok answer ∧
      (answer = true ↔ token.Fits line position) := by
  unfold advances Fits
  by_cases hstart : token.start = position
  · rw [if_neg (by simpa using hstart), guardedStop_eq hstart hposition htext]
    by_cases hstop : token.stop ≤ position
    · refine ⟨false, ?_, by simp only [Bool.false_eq_true, false_iff]; omega⟩
      simp [bind, Except.bind, hstop]
    · refine ⟨(cut? token.stop line.toList).isSome, ?_, ?_⟩
      · simp [bind, Except.bind, hstop]
      · rw [isSome_cut?_iff]
        exact ⟨fun hplace ↦ ⟨hstart, by omega, hplace⟩, fun h ↦ h.2.2⟩
  · rw [if_pos hstart]
    exact ⟨false, rfl, by simp [hstart]⟩

end

theorem guardedMatch_eq {cursor : Cursor} {row : Nat} {rules : List Rule}
    (hposition : cursor.position < 2 ^ 63)
    (htexts : ∀ rule ∈ rules, ∀ token, rule.answer? cursor.line cursor.position row = some token →
      token.text.utf8ByteSize < 2 ^ 63) :
    guardedMatch cursor.line cursor.position row rules =
      .ok ((rules.findSome? (·.taken? cursor row)).map Prod.fst) := by
  induction rules with
  | nil => rfl
  | cons rule rules ih =>
    obtain ⟨hrule, hrules⟩ := List.forall_mem_cons.1 htexts
    rw [guardedMatch, List.findSome?_cons, ih hrules]
    cases hanswer : rule.answer? cursor.line cursor.position row with
    | none =>
      rw [Rule.answer?_position] at hanswer
      simp [Rule.taken?, hanswer]
    | some token =>
      obtain ⟨answer, hadvances, hiff⟩ :=
        @Token.advances_eq cursor.line _ _ hposition (hrule token hanswer)
      rw [Rule.answer?_position, ← Rule.tokenAt?_position] at hanswer
      dsimp only
      rw [hadvances]
      by_cases hfits : token.Fits cursor.line cursor.position
      · obtain ⟨next, hline, hnext⟩ := Cursor.exists_of_isPlace hfits.2.2
        have htaken : rule.taken? cursor row = some (token, next) :=
          Rule.taken?_eq_some_iff.2 ⟨⟨hanswer, hfits⟩, hline, hnext⟩
        rw [htaken, hiff.2 hfits]
        rfl
      · have htaken : rule.taken? cursor row = none := by
          rw [Rule.taken?_eq_none_iff]
          rintro other ⟨hother, hother'⟩
          rw [hanswer, Option.some.injEq] at hother
          exact hfits (hother ▸ hother')
        obtain rfl : answer = false := by simpa [hfits] using hiff
        rw [htaken]
        rfl

namespace Lexer

def ShortTexts (lexer : Lexer) (line : String) (row : Nat) : Prop :=
  ∀ rule ∈ lexer.rules, ∀ position token, rule.answer? line position row = some token →
    token.text.utf8ByteSize < 2 ^ 63

variable {lexer : Lexer} {row : Nat} {cursor : Cursor}

theorem guardedMatch_rules (hline : cursor.line.utf8ByteSize < 2 ^ 63)
    (htexts : lexer.ShortTexts cursor.line row) :
    guardedMatch cursor.line cursor.position row lexer.rules =
      .ok ((lexer.match? cursor row).map Prod.fst) :=
  guardedMatch_eq (Nat.lt_of_le_of_lt cursor.isPlace.le hline)
    fun rule hrule token ↦ htexts rule hrule _ token

theorem Picks.text_lt {token : Token}
    (h : lexer.Picks cursor.line cursor.position row token)
    (htexts : lexer.ShortTexts cursor.line row) : token.text.utf8ByteSize < 2 ^ 63 := by
  obtain ⟨rule, hrule, hanswer, -⟩ := h.exists_offers
  rw [Rule.tokenAt?_position, ← Rule.answer?_position] at hanswer
  exact htexts rule hrule _ token hanswer

theorem guardedRound_eq (assembly : Assembly) (hline : cursor.line.utf8ByteSize < 2 ^ 63)
    (htexts : lexer.ShortTexts cursor.line row) (hend : cursor.atEnd = false) :
    lexer.guardedRound cursor.line row assembly cursor.position =
      .ok ((lexer.step? cursor row).map fun found ↦
        (assembly.take found.1, found.2.position)) := by
  have hposition : cursor.position < 2 ^ 63 := Nat.lt_of_le_of_lt cursor.isPlace.le hline
  rw [guardedRound, guardedMatch_rules hline htexts, step?]
  cases hmatch : lexer.match? cursor row with
  | some found =>
    obtain ⟨token, next⟩ := found
    obtain ⟨hpicks, -, hnext⟩ := match?_eq_some_iff.1 hmatch
    have hstop := Token.guardedStop_eq hpicks.fits.1 hposition (hpicks.text_lt htexts)
    simp [bind, Except.bind, hstop, hnext, Assembly.take]
  | none =>
    obtain ⟨c, hc⟩ := cursor.isPlace.exists_char (Cursor.position_lt_iff.2 hend)
    have hnext := Cursor.next?_eq_some_iff.2 hc
    have hwidth : addWords cursor.position c.utf8Size = .ok (cursor.position + c.utf8Size) :=
      addWords_of_lt hposition (by have := c.utf8Size_le_four; omega)
    obtain ⟨-, hforward⟩ := Cursor.forward_position hnext
    obtain ⟨rest, hafter⟩ := List.head?_eq_some_iff.1 hnext
    have hskip : (if lexer.skipBlanks then blankWidth? cursor.line cursor.position else none) =
        if lexer.skipBlanks && isBlank c then some c.utf8Size else none := by
      rw [blankWidth?_position hnext]
      cases lexer.skipBlanks <;> simp
    rw [hskip, sliceFrom_position, hnext, hafter]
    by_cases hblank : (lexer.skipBlanks && isBlank c) = true
    · simp [bind, Except.bind, hblank, hwidth, hforward, Assembly.take]
    · by_cases hlabel : lexer.strayLabel?.isSome = true
      · simp [bind, Except.bind, hblank, hlabel, hwidth, hforward, Assembly.take]
      · simp [bind, Except.bind, hblank, hlabel]

theorem guardedScan_eq {line : String} (hsize : line.utf8ByteSize < 2 ^ 63)
    (htexts : lexer.ShortTexts line row) {rounds : Nat} (assembly : Assembly)
    (hline : cursor.line = line) (hrounds : cursor.after.length ≤ rounds) :
    ∃ positions,
      lexer.guardedScan line row rounds assembly cursor.position =
        .ok (cursor.position :: positions, lexer.scanFrom row assembly cursor) ∧
      (cursor.position :: positions).Pairwise (· < ·) ∧
      (∀ position ∈ cursor.position :: positions, IsPlace line position) ∧
      positions.length ≤ rounds := by
  induction rounds generalizing assembly cursor with
  | zero =>
    subst hline
    have hend : cursor.atEnd = true := by
      simpa [Cursor.atEnd] using List.length_eq_zero_iff.1 (Nat.le_zero.1 hrounds)
    refine ⟨[], ?_, by simp, by simpa using cursor.isPlace, by simp⟩
    rw [guardedScan, if_pos (Nat.le_of_eq (Cursor.position_eq_of_atEnd hend).symm), scanFrom,
      if_pos hend]
  | succ rounds ih =>
    subst hline
    rw [guardedScan, scanFrom]
    cases hend : cursor.atEnd with
    | true =>
      refine ⟨[], ?_, by simp, by simpa using cursor.isPlace, by simp⟩
      rw [if_pos (Nat.le_of_eq (Cursor.position_eq_of_atEnd hend).symm), if_pos rfl]
    | false =>
      have hlt := Cursor.position_lt_iff.2 hend
      rw [if_neg (Nat.not_le.2 hlt), if_neg (by simp), guardedRound_eq assembly hsize htexts hend]
      split
      · next hnone =>
        refine ⟨[], ?_, by simp, by simpa using cursor.isPlace, by simp⟩
        simp [bind, Except.bind, hnone]
      · next step next hstep =>
        obtain ⟨hat, hnext⟩ := stepAt_of_step? hstep
        have hshorter := length_after_step? hstep
        obtain ⟨positions, hscan, hpairwise, hplaces, hlength⟩ :=
          ih (assembly.take step) hnext (by omega)
        refine ⟨next.position :: positions, ?_, ?_, ?_, by simpa using hlength⟩
        · simp [bind, Except.bind, hstep, hscan]
        · refine List.pairwise_cons.2 ⟨fun position hposition ↦ ?_, hpairwise⟩
          have hfirst := List.pairwise_cons.1 hpairwise
          obtain rfl | hposition := List.mem_cons.1 hposition
          · exact hat.lt
          · exact Nat.lt_trans hat.lt (hfirst.1 position hposition)
        · exact List.forall_mem_cons.2 ⟨cursor.isPlace, hplaces⟩

theorem le_of_guardedMatch {line : String} {position : Nat} {token : Token}
    (hsize : line.utf8ByteSize < 2 ^ 63) (htexts : lexer.ShortTexts line row)
    (hplace : IsPlace line position)
    (h : guardedMatch line position row lexer.rules = .ok (some token)) :
    token.start = position ∧ token.stop ≤ line.utf8ByteSize := by
  obtain ⟨cursor, rfl, rfl⟩ := Cursor.exists_of_isPlace hplace
  rw [guardedMatch_rules hsize htexts, Except.ok.injEq, Option.map_eq_some_iff] at h
  obtain ⟨⟨token', next⟩, hmatch, rfl⟩ := h
  have hfits := (match?_eq_some_iff.1 hmatch).1.fits
  exact ⟨hfits.1, hfits.2.2.le⟩

/-- Whatever tokens the rules find, the scan of a line has no fault. It takes one round for each
character at most, and the positions at which it stands are places of the line, each behind the one
before. A token that it takes starts where it stands and ends within the line. -/
theorem guardedScan_safe (lexer : Lexer) (line : String) (row : Nat) (assembly : Assembly)
    (hsize : line.utf8ByteSize < 2 ^ 63) (htexts : lexer.ShortTexts line row) :
    ∃ positions,
      lexer.guardedScan line row line.length assembly 0 =
        .ok (positions, lexer.scanFrom row assembly (.start line)) ∧
      positions.length ≤ line.length + 1 ∧
      positions.Pairwise (· < ·) ∧
      ∀ position ∈ positions, IsPlace line position ∧ position ≤ line.utf8ByteSize ∧
        ∀ token, guardedMatch line position row lexer.rules = .ok (some token) →
          token.start = position ∧ token.stop ≤ line.utf8ByteSize := by
  obtain ⟨positions, hscan, hpairwise, hplaces, hlength⟩ :=
    @guardedScan_eq lexer row (.start line) line hsize htexts line.length assembly rfl
      (Nat.le_of_eq String.length_toList)
  refine ⟨0 :: positions, hscan, by simpa using hlength, hpairwise, fun position hposition ↦ ?_⟩
  have hplace := hplaces position hposition
  exact ⟨hplace, hplace.le, fun token ↦ le_of_guardedMatch hsize htexts hplace⟩

def unruly : Lexer where
  rules := [
    .custom "empty" fun _ position row ↦ some ⟨"empty", "", position, row, []⟩,
    .custom "far" fun _ _ row ↦ some ⟨"far", "ab", 2 ^ 64 - 1, row, []⟩,
    .custom "half" fun _ position row ↦ some ⟨"half", "a", position, row, []⟩,
    .custom "long" fun _ position row ↦ some ⟨"long", "abcdefgh", position, row, []⟩]
  skipBlanks := true
  strayLabel? := some "?"

theorem guardedScan_safe_unruly :
    "é b".utf8ByteSize < 2 ^ 63 ∧ unruly.ShortTexts "é b" 0 ∧
    ∃ positions,
      unruly.guardedScan "é b" 0 "é b".length (.empty (some "?")) 0 =
        .ok (positions, unruly.scanFrom 0 (.empty (some "?")) (.start "é b")) ∧
      positions.length ≤ "é b".length + 1 ∧
      positions.Pairwise (· < ·) ∧
      ∀ position ∈ positions, IsPlace "é b" position ∧ position ≤ "é b".utf8ByteSize ∧
        ∀ token, guardedMatch "é b" position 0 unruly.rules = .ok (some token) →
          token.start = position ∧ token.stop ≤ "é b".utf8ByteSize := by
  have hsize : "é b".utf8ByteSize < 2 ^ 63 := by decide
  have htexts : unruly.ShortTexts "é b" 0 := by
    rintro rule hrule position token hanswer
    simp only [unruly, List.mem_cons, List.not_mem_nil, or_false] at hrule
    obtain rfl | rfl | rfl | rfl := hrule <;> cases hanswer <;> dsimp only <;> decide
  exact ⟨hsize, htexts, guardedScan_safe unruly "é b" 0 (.empty (some "?")) hsize htexts⟩

end Lexer

end Linewise
