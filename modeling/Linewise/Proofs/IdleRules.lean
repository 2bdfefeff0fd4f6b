import Linewise.Proofs.PartCover
import Linewise.Proofs.Strays

namespace Linewise

/-- Wherever the rule offers a token, one of the rules before it does so too. -/
def Rule.IdleBehind (rule : Rule) (earlier : List Rule) : Prop :=
  ∀ line position row, IsPlace line position →
    (∀ token, ¬ rule.Offers line position row token) ∨
      ∃ other ∈ earlier, ∃ token, other.Offers line position row token

/-- The second table is the first with idle rules put in at any places. Behind the rules `earlier`
of the first, both go on. -/
inductive AddsIdle : (earlier rules padded : List Rule) → Prop
  | nil (earlier : List Rule) : AddsIdle earlier [] []
  | keep {earlier rules padded : List Rule} {rule : Rule}
      (hrest : AddsIdle (earlier ++ [rule]) rules padded) :
      AddsIdle earlier (rule :: rules) (rule :: padded)
  | add {earlier rules padded : List Rule} {rule : Rule} (hidle : rule.IdleBehind earlier)
      (hrest : AddsIdle earlier rules padded) : AddsIdle earlier rules (rule :: padded)

section

variable {earlier rules padded : List Rule} {rule : Rule}

theorem Rule.IdleBehind.taken? (h : rule.IdleBehind earlier) (cursor : Cursor) (row : Nat) :
    rule.taken? cursor row = none ∨
      ∃ found, earlier.findSome? (·.taken? cursor row) = some found := by
  rcases h cursor.line cursor.position row cursor.isPlace with hnone | hbefore
  · exact .inl (taken?_eq_none_iff.2 hnone)
  · obtain ⟨other, hother, token, hoffers⟩ := hbefore
    obtain ⟨next, hline, hposition⟩ := Cursor.exists_of_isPlace hoffers.2.2.2
    have htaken := taken?_eq_some_iff.2 ⟨hoffers, hline, hposition⟩
    refine .inr (Option.isSome_iff_exists.1 (List.findSome?_isSome_iff.2 ?_))
    exact ⟨other, hother, by rw [htaken]; rfl⟩

theorem findSome?_of_addsIdle (h : AddsIdle earlier rules padded) (cursor : Cursor) (row : Nat) :
    (earlier ++ padded).findSome? (·.taken? cursor row) =
      (earlier ++ rules).findSome? (·.taken? cursor row) := by
  induction h with
  | nil => rfl
  | keep _ ih => simpa only [List.append_assoc, List.singleton_append] using ih
  | @add earlier rules padded rule hidle _ ih =>
    -- Where the idle rule offers something, the search has ended before it comes there.
    rcases hidle.taken? cursor row with hnone | ⟨found, hfound⟩
    · rw [← ih, List.findSome?_append, List.findSome?_cons, hnone, ← List.findSome?_append]
    · rw [List.findSome?_append, List.findSome?_append, hfound, Option.some_or, Option.some_or]

theorem AddsIdle.refl (earlier rules : List Rule) : AddsIdle earlier rules rules := by
  induction rules generalizing earlier with
  | nil => exact .nil earlier
  | cons rule rules ih => exact .keep (ih (earlier ++ [rule]))

theorem AddsIdle.of_never
    (hnever : ∀ line position row token, ¬ rule.Offers line position row token)
    (earlier before after : List Rule) :
    AddsIdle earlier (before ++ after) (before ++ rule :: after) := by
  induction before generalizing earlier with
  | nil =>
    refine .add ?_ (.refl earlier after)
    intro line position row _
    exact .inl (hnever line position row)
  | cons first before ih => exact .keep (ih (earlier ++ [first]))

end

namespace Lexer

theorem stepsFrom_eq_of_step?_eq {lexer other : Lexer}
    (h : ∀ cursor row, lexer.step? cursor row = other.step? cursor row) (row : Nat)
    (cursor : Cursor) : lexer.stepsFrom row cursor = other.stepsFrom row cursor := by
  fun_induction lexer.stepsFrom row cursor with
  | case1 cursor hend => exact (stepsFrom_of_atEnd hend).symm
  | case2 cursor hend hnone =>
    rw [h] at hnone
    exact (stepsFrom_of_stuck (Bool.eq_false_iff.2 hend) hnone).symm
  | case3 cursor hend step next hstep _ ih =>
    rw [h] at hstep
    rw [ih, stepsFrom_of_step? hstep]

theorem lex_eq_of_step?_eq {lexer other : Lexer} (hlabel : lexer.strayLabel? = other.strayLabel?)
    (h : ∀ cursor row, lexer.step? cursor row = other.step? cursor row) (text : String) :
    lexer.lex text = other.lex text := by
  have hline (line : String) (row : Nat) :
      lexer.tokensOfLine line row = other.tokensOfLine line row := by
    rw [tokensOfLine, tokensOfLine, hlabel, stepsFrom_eq_of_step?_eq h]
  rw [lex_eq_lexByLine, lex_eq_lexByLine, lexByLine, lexByLine]
  simp only [hline]

theorem lex_of_addsIdle {lexer : Lexer} {padded : List Rule} (h : AddsIdle [] lexer.rules padded)
    (text : String) : { lexer with rules := padded }.lex text = lexer.lex text := by
  refine lex_eq_of_step?_eq ?_ ?_ text
  · rfl
  · intro cursor row
    have hmatch : { lexer with rules := padded }.match? cursor row = lexer.match? cursor row :=
      findSome?_of_addsIdle h cursor row
    rw [step?, step?, hmatch]

/-- Idle rules can be put into a table or taken out of it, and a lexer finds the same. A rule is
idle in any table if it finds no token that a scan can take. So is a compound rule if its parts
cover nothing that its pattern matches. -/
theorem lex_idle (lexer : Lexer) (text : String) :
    (∀ padded, AddsIdle [] lexer.rules padded →
      { lexer with rules := padded }.lex text = lexer.lex text) ∧
    (∀ before after rule, lexer.rules = before ++ after →
      (∀ line position row token, ¬ rule.Offers line position row token) →
      { lexer with rules := before ++ rule :: after }.lex text = lexer.lex text) ∧
    ∀ before after label pattern parts, lexer.rules = before ++ after →
      (∀ line position row whole uses,
        (Rule.simple ⟨label, pattern⟩).tokenAt? line position row = some whole →
          ¬ Cover parts whole.text 0 0 uses) →
      { lexer with rules := before ++ Rule.compound label pattern parts :: after }.lex text =
        lexer.lex text := by
  refine ⟨fun padded h ↦ lex_of_addsIdle h text, ?_, ?_⟩
  · intro before after rule hrules hnever
    apply lex_of_addsIdle
    rw [hrules]
    exact .of_never hnever [] before after
  · intro before after label pattern parts hrules hcovers
    apply lex_of_addsIdle
    rw [hrules]
    refine .of_never ?_ [] before after
    rintro line position row token ⟨hfound, -⟩
    obtain ⟨whole, uses, tiles, hwhole, hcover, -⟩ := Rule.tokenAt?_compound_iff.1 hfound
    exact hcovers line position row whole uses hwhole hcover

end Lexer

theorem Rule.offers_ofWord {label word text : String} {shift : Int} {line : String}
    {position row : Nat} {token : Token}
    (h : (ofWord label word text shift).Offers line position row token) (other : String) :
    (ofWord other word text shift).Offers line position row { token with label := other } := by
  obtain ⟨hfound, hfits⟩ := h
  refine ⟨?_, hfits⟩
  obtain ⟨cursor, hcursor, hfound⟩ := Option.bind_eq_some_iff.1 hfound
  obtain ⟨place, hplace, hfound⟩ := Option.bind_eq_some_iff.1 hfound
  refine Option.bind_eq_some_iff.2 ⟨cursor, hcursor, ?_⟩
  refine Option.bind_eq_some_iff.2 ⟨place, hplace, ?_⟩
  split at hfound
  · next hword =>
    cases hfound
    exact if_pos hword
  · cases hfound

namespace Lexer

def emptyRule : Rule :=
  .custom "empty" fun _ position row ↦ some ⟨"empty", "", position, row, []⟩

theorem not_offers_emptyRule (line : String) (position row : Nat) (token : Token) :
    ¬ emptyRule.Offers line position row token := by
  rintro ⟨hfound, hstart, hlt, -⟩
  obtain ⟨cursor, -, hempty⟩ := Option.bind_eq_some_iff.1 hfound
  cases hempty
  exact absurd hlt (by simp [Token.stop, ← hstart])

def lowerLetter : Pattern := ⟨"[a-z]", (Regex.char (.range 0x61 0x7a)).program⟩

def crowdedPairs : List Rule :=
  emptyRule :: .ofWord "sign" "plus" "+" 0 :: .ofWord "plus" "plus" "+" 0 ::
    .compound "hollow" lowerLetter [] :: pairs.rules

theorem addsIdle_crowdedPairs : AddsIdle [] signedPairs.rules crowdedPairs := by
  refine .add ?_ (.keep (.add ?_ (.add ?_ (.refl _ _))))
  · intro line position row _
    exact .inl (not_offers_emptyRule line position row)
  · intro line position row _
    by_cases h : ∃ token, (Rule.ofWord "plus" "plus" "+" 0).Offers line position row token
    · obtain ⟨token, hoffers⟩ := h
      exact .inr ⟨_, List.mem_singleton_self _, _, Rule.offers_ofWord hoffers "sign"⟩
    · exact .inl (not_exists.1 h)
  · intro line position row _
    refine .inl ?_
    rintro token ⟨hfound, -⟩
    rw [Rule.tokenAt?_compound_nil] at hfound
    cases hfound

theorem lex_idle_signedPairs :
    AddsIdle [] signedPairs.rules crowdedPairs ∧
    { signedPairs with rules := crowdedPairs }.lex "plus é a1" = signedPairs.lex "plus é a1" ∧
    (∀ line position row token, ¬ emptyRule.Offers line position row token) ∧
    { signedPairs with rules := [] ++ emptyRule :: signedPairs.rules }.lex "plus é a1" =
      signedPairs.lex "plus é a1" ∧
    (∀ line position row whole uses,
      (Rule.simple ⟨"hollow", lowerLetter⟩).tokenAt? line position row = some whole →
        ¬ Cover [] whole.text 0 0 uses) ∧
    { signedPairs with
      rules := [] ++ Rule.compound "hollow" lowerLetter [] :: signedPairs.rules }.lex "plus é a1" =
      signedPairs.lex "plus é a1" := by
  obtain ⟨hadds, hnever, hcompound⟩ := lex_idle signedPairs "plus é a1"
  have hhollow (line : String) (position row : Nat) (whole : Token) (uses : List PartUse)
      (hwhole : (Rule.simple ⟨"hollow", lowerLetter⟩).tokenAt? line position row = some whole) :
      ¬ Cover [] whole.text 0 0 uses := Rule.not_cover_nil hwhole
  exact ⟨addsIdle_crowdedPairs, hadds crowdedPairs addsIdle_crowdedPairs, not_offers_emptyRule,
    hnever [] signedPairs.rules emptyRule rfl not_offers_emptyRule, hhollow,
    hcompound [] signedPairs.rules "hollow" lowerLetter [] rfl hhollow⟩

end Lexer

end Linewise
