import Linewise.Proofs.Place

namespace Linewise

structure Token.LiesIn (token : Token) (line : String) (row : Nat) : Prop where
  row_eq : token.row = row
  text_ne : token.text ≠ ""
  piece : PieceAt line token.start token.text.toList

/-- The tokens lie in the line one behind the other, and what is between them are single characters
whose places the condition `gap` allows. -/
inductive Tiles (line : String) (row : Nat) (gap : Nat → Char → Prop) :
    Nat → List Token → Nat → Prop
  | nil (position : Nat) : Tiles line row gap position [] position
  | gap {position stop : Nat} {c : Char} {tokens : List Token} (hc : PieceAt line position [c])
      (hgap : gap position c) (hrest : Tiles line row gap (position + c.utf8Size) tokens stop) :
      Tiles line row gap position tokens stop
  | token {stop : Nat} {token : Token} {tokens : List Token} (htoken : token.LiesIn line row)
      (hrest : Tiles line row gap token.stop tokens stop) :
      Tiles line row gap token.start (token :: tokens) stop

variable {line : String} {row : Nat} {gap : Nat → Char → Prop} {tokens : List Token}
  {position stop : Nat}

namespace Token.LiesIn

variable {token : Token}

theorem stop_eq (token : Token) : token.stop = token.start + byteLength token.text.toList := by
  rw [Token.stop, utf8ByteSize_eq_byteLength]

theorem lt (h : token.LiesIn line row) : token.start < token.stop := by
  have hpos : 0 < token.text.utf8ByteSize := by
    rw [Nat.pos_iff_ne_zero, ne_eq, String.utf8ByteSize_eq_zero_iff]
    exact h.text_ne
  rw [Token.stop]
  omega

theorem fits (h : token.LiesIn line row) : token.Fits line token.start :=
  ⟨rfl, h.lt, stop_eq token ▸ h.piece.isPlace_end⟩

end Token.LiesIn

namespace Tiles

theorem single {token : Token} (htoken : token.LiesIn line row) :
    Tiles line row gap token.start [token] token.stop := .token htoken (.nil _)

theorem append {middle : Nat} {others : List Token} (h : Tiles line row gap position tokens middle)
    (h' : Tiles line row gap middle others stop) :
    Tiles line row gap position (tokens ++ others) stop := by
  induction h with
  | nil => exact h'
  | gap hc hgap _ ih => exact .gap hc hgap (ih h')
  | token htoken _ ih => exact .token htoken (ih h')

theorem mono {gap' : Nat → Char → Prop} (h : Tiles line row gap position tokens stop)
    (hgaps : ∀ position c, gap position c → gap' position c) :
    Tiles line row gap' position tokens stop := by
  induction h with
  | nil => exact .nil _
  | gap hc hgap _ ih => exact .gap hc (hgaps _ _ hgap) ih
  | token htoken _ ih => exact .token htoken ih

theorem liesIn (h : Tiles line row gap position tokens stop) :
    ∀ token ∈ tokens, token.LiesIn line row := by
  induction h with
  | nil => simp
  | gap _ _ _ ih => exact ih
  | token htoken _ ih => exact List.forall_mem_cons.2 ⟨htoken, ih⟩

theorem start_le (h : Tiles line row gap position tokens stop) :
    ∀ token ∈ tokens, position ≤ token.start := by
  induction h with
  | nil => simp
  | gap _ _ _ ih =>
    intro token htoken
    have := ih token htoken
    omega
  | @token _ token _ htoken _ ih =>
    refine List.forall_mem_cons.2 ⟨Nat.le_refl _, fun other hother ↦ ?_⟩
    exact Nat.le_trans (Nat.le_of_lt htoken.lt) (ih other hother)

theorem pairwise (h : Tiles line row gap position tokens stop) :
    tokens.Pairwise fun a b ↦ a.start < b.start ∧ a.stop ≤ b.start := by
  induction h with
  | nil => exact .nil
  | gap _ _ _ ih => exact ih
  | @token _ token _ htoken hrest ih =>
    refine List.pairwise_cons.2 ⟨fun other hother ↦ ?_, ih⟩
    have hle := hrest.start_le other hother
    exact ⟨Nat.lt_of_lt_of_le htoken.lt hle, hle⟩

theorem gap_of_uncovered (h : Tiles line row gap position tokens stop) {place : Nat} {c : Char}
    (hle : position ≤ place) (hlt : place < stop) (hc : PieceAt line place [c])
    (huncovered : ∀ token ∈ tokens, ¬ (token.start ≤ place ∧ place < token.stop)) :
    gap place c := by
  induction h with
  | nil => omega
  | @gap position stop d tokens hd hgap _ ih =>
    by_cases hsame : place = position
    · subst hsame
      exact hc.char_unique hd ▸ hgap
    · have hpast := hd.stop_le_of_lt hc.isPlace (by omega)
      exact ih hpast hlt huncovered
  | @token stop token tokens _ _ ih =>
    obtain ⟨htoken, hrest⟩ := List.forall_mem_cons.1 huncovered
    exact ih (by omega) hlt hrest

theorem piece (h : Tiles line row (fun _ _ ↦ False) position tokens stop)
    (hplace : IsPlace line position) :
    PieceAt line position (tokens.flatMap (·.text.toList)) ∧
      position + byteLength (tokens.flatMap (·.text.toList)) = stop := by
  induction h with
  | nil => exact ⟨hplace, by simp⟩
  | gap _ hgap => exact hgap.elim
  | @token stop token tokens htoken _ ih =>
    obtain ⟨hpiece, hlen⟩ := ih htoken.fits.2.2
    rw [Token.LiesIn.stop_eq] at hpiece hlen
    rw [List.flatMap_cons, byteLength_append]
    exact ⟨htoken.piece.append hpiece, by omega⟩

end Tiles

end Linewise
