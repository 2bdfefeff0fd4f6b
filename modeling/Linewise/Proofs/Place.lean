import Linewise.Lexer
import Mathlib

namespace Linewise

/-- The text of the line from the byte position on begins with `piece`. -/
def PieceAt (line : String) (position : Nat) (piece : List Char) : Prop :=
  ∃ before after, line.toList = before ++ piece ++ after ∧ byteLength before = position

/-- The byte position falls between two characters of the line, or at one of its ends. -/
def IsPlace (line : String) (position : Nat) : Prop := PieceAt line position []

theorem append_inj_of_byteLength {a b a' b' : List Char} (h : a ++ b = a' ++ b')
    (hlen : byteLength a = byteLength a') : a = a' ∧ b = b' := by
  have hcut := cut?_append a b
  rw [h, hlen, cut?_append, Option.some.injEq, Prod.mk.injEq] at hcut
  exact ⟨hcut.1.symm, hcut.2.symm⟩

namespace PieceAt

variable {line : String} {position : Nat} {a b : List Char}

theorem isPlace (h : PieceAt line position a) : IsPlace line position := by
  obtain ⟨before, after, hline, hlen⟩ := h
  exact ⟨before, a ++ after, by simpa using hline, hlen⟩

theorem isPlace_end (h : PieceAt line position a) : IsPlace line (position + byteLength a) := by
  obtain ⟨before, after, hline, rfl⟩ := h
  exact ⟨before ++ a, after, by simpa using hline, by simp⟩

theorem le (h : PieceAt line position a) : position + byteLength a ≤ line.utf8ByteSize := by
  obtain ⟨before, after, hline, rfl⟩ := h
  rw [utf8ByteSize_eq_byteLength, hline]
  simp

theorem append (ha : PieceAt line position a) (hb : PieceAt line (position + byteLength a) b) :
    PieceAt line position (a ++ b) := by
  obtain ⟨before, after, hline, rfl⟩ := ha
  obtain ⟨before', after', hline', hlen⟩ := hb
  have hsplit : before ++ a ++ after = before' ++ (b ++ after') := by
    rw [← hline, hline', List.append_assoc]
  obtain ⟨rfl, rfl⟩ := append_inj_of_byteLength hsplit (by simpa using hlen.symm)
  exact ⟨before, after', by simpa using hline, rfl⟩

theorem of_append_left (h : PieceAt line position (a ++ b)) : PieceAt line position a := by
  obtain ⟨before, after, hline, hlen⟩ := h
  exact ⟨before, b ++ after, by simpa using hline, hlen⟩

theorem unique (ha : PieceAt line position a) (hb : PieceAt line position b)
    (hlen : byteLength a = byteLength b) : a = b := by
  obtain ⟨before, after, hline, rfl⟩ := ha
  obtain ⟨before', after', hline', hbefore⟩ := hb
  rw [hline, List.append_assoc, List.append_assoc] at hline'
  obtain ⟨-, hrest⟩ := append_inj_of_byteLength hline' hbefore.symm
  exact (append_inj_of_byteLength hrest hlen).1

theorem char_unique {c d : Char} (hc : PieceAt line position [c])
    (hd : PieceAt line position [d]) : c = d := by
  obtain ⟨before, after, hline, rfl⟩ := hc
  obtain ⟨before', after', hline', hbefore⟩ := hd
  rw [hline, List.append_assoc, List.append_assoc] at hline'
  obtain ⟨-, hrest⟩ := append_inj_of_byteLength hline' hbefore.symm
  simpa using congrArg List.head? hrest

end PieceAt

namespace IsPlace

variable {line : String} {position : Nat}

theorem le (h : IsPlace line position) : position ≤ line.utf8ByteSize := by
  simpa using PieceAt.le h

theorem exists_char (h : IsPlace line position) (hlt : position < line.utf8ByteSize) :
    ∃ c, PieceAt line position [c] := by
  obtain ⟨before, after, hline, rfl⟩ := h
  cases after with
  | nil =>
    rw [utf8ByteSize_eq_byteLength, hline] at hlt
    simp at hlt
  | cons c after => exact ⟨c, before, after, by simpa using hline, rfl⟩

theorem exists_piece {stop : Nat} (h : IsPlace line position) (hstop : IsPlace line stop)
    (hle : position ≤ stop) :
    ∃ piece, PieceAt line position piece ∧ position + byteLength piece = stop := by
  obtain ⟨before, after, hline, rfl⟩ := h
  obtain ⟨before', after', hline', rfl⟩ := hstop
  rw [List.append_nil] at hline hline'
  rw [hline] at hline'
  obtain ⟨piece, rfl, rfl⟩ | ⟨piece, rfl, rfl⟩ := List.append_eq_append_iff.1 hline'
  · exact ⟨piece, ⟨before, after', by simpa using hline, rfl⟩, by simp⟩
  · rw [byteLength_append] at hle
    obtain rfl := byteLength_eq_zero_iff.1 (show byteLength piece = 0 by omega)
    exact ⟨[], ⟨before', after, by simpa using hline, by simp⟩, by simp⟩

end IsPlace

theorem PieceAt.stop_le_of_lt {line : String} {position place : Nat} {c : Char}
    (hc : PieceAt line position [c]) (hplace : IsPlace line place) (hlt : position < place) :
    position + c.utf8Size ≤ place := by
  obtain ⟨piece, hpiece, hlen⟩ := hc.isPlace.exists_piece hplace (Nat.le_of_lt hlt)
  cases piece with
  | nil =>
    rw [byteLength_nil] at hlen
    omega
  | cons d piece =>
    have hd : PieceAt line position [d] := @of_append_left _ _ [d] piece hpiece
    rw [byteLength_cons, hd.char_unique hc] at hlen
    omega

theorem isPlace_zero (line : String) : IsPlace line 0 := ⟨[], line.toList, rfl, rfl⟩

theorem isPlace_utf8ByteSize (line : String) : IsPlace line line.utf8ByteSize :=
  ⟨line.toList, [], by simp, (utf8ByteSize_eq_byteLength line).symm⟩

/-- A scan may take the token at the byte position: it starts there, is not empty and ends at a
place. -/
def Token.Fits (token : Token) (line : String) (position : Nat) : Prop :=
  token.start = position ∧ position < token.stop ∧ IsPlace line token.stop

namespace Cursor

theorem pieceAt_iff {cursor : Cursor} {piece : List Char} :
    PieceAt cursor.line cursor.position piece ↔ ∃ rest, cursor.after = piece ++ rest := by
  constructor
  · rintro ⟨before, after, hline, hlen⟩
    rw [cursor.toList_line, List.append_assoc] at hline
    have hlen' : byteLength cursor.before.reverse = byteLength before := by
      rw [byteLength_reverse, ← cursor.position_eq, hlen]
    exact ⟨after, (append_inj_of_byteLength hline hlen').2⟩
  · rintro ⟨rest, hafter⟩
    refine ⟨cursor.before.reverse, rest, ?_, ?_⟩
    · rw [cursor.toList_line, hafter, List.append_assoc]
    · rw [byteLength_reverse, cursor.position_eq]

theorem isPlace (cursor : Cursor) : IsPlace cursor.line cursor.position :=
  pieceAt_iff.2 ⟨cursor.after, rfl⟩

theorem eq_of_position {a b : Cursor} (hline : a.line = b.line)
    (hposition : a.position = b.position) : a = b := by
  obtain ⟨line, before, after, position, htoList, hlen⟩ := a
  obtain ⟨line', before', after', position', htoList', hlen'⟩ := b
  dsimp only at hline hposition
  subst hline hposition
  have hsplit := htoList.symm.trans htoList'
  obtain ⟨hbefore, rfl⟩ := append_inj_of_byteLength hsplit (by simp [← hlen, ← hlen'])
  obtain rfl := List.reverse_inj.1 hbefore
  rfl

theorem position_lt_iff {cursor : Cursor} :
    cursor.position < cursor.line.utf8ByteSize ↔ cursor.atEnd = false := by
  have hline : cursor.line.utf8ByteSize = cursor.position + byteLength cursor.after := by
    rw [utf8ByteSize_eq_byteLength, cursor.toList_line, cursor.position_eq]
    simp
  rw [atEnd, List.isEmpty_eq_false_iff, ne_eq, ← byteLength_eq_zero_iff]
  omega

theorem position_eq_of_atEnd {cursor : Cursor} (h : cursor.atEnd = true) :
    cursor.position = cursor.line.utf8ByteSize := by
  have hle := cursor.isPlace.le
  have hlt : ¬ cursor.position < cursor.line.utf8ByteSize := by
    rw [position_lt_iff, h]
    simp
  omega

theorem exists_advance? {cursor : Cursor} {taken rest : List Char}
    (h : cursor.after = taken ++ rest) :
    ∃ next, cursor.advance? (byteLength taken) = some next := by
  unfold advance?
  split
  · exact ⟨_, rfl⟩
  · next hcut =>
    rw [h, cut?_append] at hcut
    cases hcut

theorem advance?_eq_some_iff {cursor next : Cursor} {bytes : Nat} :
    cursor.advance? bytes = some next ↔
      next.line = cursor.line ∧ next.position = cursor.position + bytes := by
  constructor
  · intro h
    obtain ⟨-, -, -, hline, hposition⟩ := advance?_eq_some h
    exact ⟨hline, hposition⟩
  · rintro ⟨hline, hposition⟩
    have hplace := next.isPlace
    rw [hline, hposition] at hplace
    obtain ⟨taken, htaken, hlen⟩ := cursor.isPlace.exists_piece hplace (Nat.le_add_right _ _)
    obtain ⟨rest, hafter⟩ := pieceAt_iff.1 htaken
    obtain ⟨found, hfound⟩ := exists_advance? hafter
    obtain ⟨-, -, -, hline', hposition'⟩ := advance?_eq_some hfound
    obtain rfl : found = next :=
      eq_of_position (hline'.trans hline.symm) (by rw [hposition', hposition, hlen])
    rwa [← Nat.add_left_cancel hlen]

theorem at?_eq_some_iff {line : String} {position : Nat} {cursor : Cursor} :
    at? line position = some cursor ↔ cursor.line = line ∧ cursor.position = position := by
  rw [at?, advance?_eq_some_iff, line_start, position_start, Nat.zero_add]

@[simp]
theorem at?_position (cursor : Cursor) : at? cursor.line cursor.position = some cursor :=
  at?_eq_some_iff.2 ⟨rfl, rfl⟩

theorem exists_of_isPlace {line : String} {position : Nat} (h : IsPlace line position) :
    ∃ cursor : Cursor, cursor.line = line ∧ cursor.position = position := by
  obtain ⟨before, after, hline, hlen⟩ := h
  exact ⟨⟨line, before.reverse, after, position, by simpa using hline, by simp [hlen]⟩, rfl, rfl⟩

theorem next?_eq_some_iff {cursor : Cursor} {c : Char} :
    cursor.next? = some c ↔ PieceAt cursor.line cursor.position [c] := by
  rw [pieceAt_iff, next?, List.head?_eq_some_iff]
  rfl

theorem forward_position {cursor : Cursor} {c : Char} (h : cursor.next? = some c) :
    (cursor.forward 1).line = cursor.line ∧
      (cursor.forward 1).position = cursor.position + c.utf8Size := by
  obtain ⟨rest, hafter⟩ := List.head?_eq_some_iff.1 h
  simp [forward, hafter]

theorem accept?_eq_some_iff {cursor next : Cursor} {token : Token} :
    cursor.accept? token = some next ↔
      token.Fits cursor.line cursor.position ∧ next.line = cursor.line ∧
        next.position = token.stop := by
  have hsize : token.text = "" ↔ token.text.utf8ByteSize = 0 :=
    String.utf8ByteSize_eq_zero_iff.symm
  unfold accept? Token.Fits Token.stop
  split
  · next hok =>
    rw [advance?_eq_some_iff, hok.1]
    constructor
    · rintro ⟨hline, hposition⟩
      have hne := hok.2
      rw [ne_eq, hsize] at hne
      refine ⟨⟨rfl, by omega, ?_⟩, hline, hposition⟩
      rw [← hline, ← hposition]
      exact next.isPlace
    · rintro ⟨-, hnext⟩
      exact hnext
  · next hbad =>
    constructor
    · intro h
      cases h
    · rintro ⟨⟨hstart, hlt, -⟩, -⟩
      refine absurd ⟨hstart, ?_⟩ hbad
      rw [ne_eq, hsize]
      omega

end Cursor

end Linewise
