import Linewise.Proofs.Coverage

namespace Linewise

def Token.Touches (label? : Option String) (token next : Token) : Prop :=
  label? = some token.label ∧ label? = some next.label ∧ token.stop = next.start

instance (label? : Option String) (token next : Token) :
    Decidable (Token.Touches label? token next) :=
  inferInstanceAs (Decidable (_ ∧ _ ∧ _))

def mergeInto (label? : Option String) (token : Token) : List Token → List Token
  | [] => [token]
  | next :: tokens =>
    if token.Touches label? next then
      mergeInto label? { token with text := token.text ++ next.text } tokens
    else token :: mergeInto label? next tokens

/-- The tokens, with neighbours of the label that touch put together as one, which has the place of
the first. -/
def mergeTouching (label? : Option String) : List Token → List Token
  | [] => []
  | token :: tokens => mergeInto label? token tokens

section

variable {label? : Option String} {token : Token} {tokens : List Token}

theorem mergeTouching_cons_of_touches {next : Token} (h : token.Touches label? next) :
    mergeTouching label? (token :: next :: tokens) =
      mergeTouching label? ({ token with text := token.text ++ next.text } :: tokens) := by
  simp only [mergeTouching, mergeInto, if_pos h]

example :
    mergeTouching (some "?")
        [⟨"?", "a", 0, 0, []⟩, ⟨"?", "é", 1, 0, []⟩, ⟨"?", "b", 4, 0, []⟩] =
      [⟨"?", "aé", 0, 0, []⟩, ⟨"?", "b", 4, 0, []⟩] := rfl

theorem mergeTouching_cons_of_apart (h : ∀ next ∈ tokens.head?, ¬ token.Touches label? next) :
    mergeTouching label? (token :: tokens) = token :: mergeTouching label? tokens := by
  cases tokens with
  | nil => rfl
  | cons next tokens => simp only [mergeTouching, mergeInto, if_neg (h next rfl)]

theorem mergeTouching_cons_of_label (h : label? ≠ some token.label) :
    mergeTouching label? (token :: tokens) = token :: mergeTouching label? tokens :=
  mergeTouching_cons_of_apart fun _ _ htouches ↦ h htouches.1

end

section

variable {label? : Option String} {run? : Option StrayRun} {line : String} {row position : Nat}
  {tokens : List Token}

theorem mergeTouching_runTokens (hrun : ∀ run ∈ run?, run.Reaches line row position)
    (h : ∀ next ∈ tokens.head?, label? ≠ some next.label ∨ position < next.start) :
    mergeTouching label? (runTokens label? run? ++ tokens) =
      runTokens label? run? ++ mergeTouching label? tokens := by
  cases run? with
  | none => simp
  | some run =>
    cases label? with
    | none => rfl
    | some label =>
      refine mergeTouching_cons_of_apart fun next hnext htouches ↦ ?_
      obtain ⟨-, hlabel, hstop⟩ := htouches
      rw [Token.LiesIn.stop_eq, (hrun run rfl).stop_eq] at hstop
      rcases h next hnext with hother | hlater
      · exact hother hlabel
      · omega

/-- A character behind a run makes the same token as the run with the character. -/
theorem mergeTouching_stray {label : String} (hrun : ∀ run ∈ run?, run.Reaches line row position)
    (c : Char) :
    mergeTouching (some label)
        (runTokens (some label) run? ++ ⟨label, String.ofList [c], position, row, []⟩ :: tokens) =
      mergeTouching (some label)
        (runTokens (some label) (some (.extend run? c position row)) ++ tokens) := by
  cases run? with
  | none =>
    have htext : "".push c = String.ofList [c] := by simp
    simp [runTokens, StrayRun.extend, htext]
  | some run =>
    have htext : run.text ++ String.ofList [c] = run.text.push c := by simp
    have htouches : Token.Touches (some label) ⟨label, run.text, run.start, run.row, []⟩
        ⟨label, String.ofList [c], position, row, []⟩ := by
      refine ⟨rfl, rfl, ?_⟩
      rw [Token.LiesIn.stop_eq, (hrun run rfl).stop_eq]
    refine (mergeTouching_cons_of_touches htouches).trans ?_
    rw [htext]
    rfl

end

end Linewise
