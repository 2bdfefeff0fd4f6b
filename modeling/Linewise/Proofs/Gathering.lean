import Linewise.Lexer.Steps
import Mathlib

namespace Linewise

def StrayRun.extend (run? : Option StrayRun) (c : Char) (position row : Nat) : StrayRun :=
  let run := run?.getD ⟨"", position, row⟩
  { run with text := run.text.push c }

def runTokens : (label? : Option String) → Option StrayRun → List Token
  | some label, some run => [⟨label, run.text, run.start, run.row, []⟩]
  | _, _ => []

/-- The tokens that an open run and the steps behind it make. They are told apart from what an
assembly holds already, so one recursion over the steps says what it will hold when the line ends.
-/
def gatherFrom (label? : Option String) : Option StrayRun → List Step → List Token
  | run?, [] => runTokens label? run?
  | run?, .token token :: steps => runTokens label? run? ++ token :: gatherFrom label? none steps
  | run?, .blank _ :: steps => runTokens label? run? ++ gatherFrom label? none steps
  | run?, .stray c position row :: steps =>
    gatherFrom label? (some (.extend run? c position row)) steps

@[simp]
theorem runTokens_none (label? : Option String) : runTokens label? none = [] := by
  cases label? <;> rfl

theorem gatherFrom_token {label? : Option String} (tokens : List Token) :
    gatherFrom label? none (tokens.map .token) = tokens := by
  induction tokens with
  | nil => simp [gatherFrom]
  | cons token tokens ih => simp [gatherFrom, ih]

namespace Assembly

theorem breakRun_eq (assembly : Assembly) :
    assembly.breakRun =
      { assembly with
        tokens := assembly.tokens ++ (runTokens assembly.strayLabel? assembly.run?).toArray
        run? := none } := by
  obtain ⟨label?, lines, tokens, run?⟩ := assembly
  cases run? with
  | none => simp [breakRun]
  | some run => cases label? <;> simp [breakRun, runTokens]

theorem push_eq (assembly : Assembly) (token : Token) :
    assembly.push token =
      { assembly with
        tokens := assembly.tokens ++
          (runTokens assembly.strayLabel? assembly.run? ++ [token]).toArray
        run? := none } := by
  simp [push, breakRun_eq]

/-- An assembly that has taken steps holds, once its run is broken, what its own run and the steps
make. -/
theorem breakRun_foldl_take (steps : List Step) (assembly : Assembly) :
    (steps.foldl take assembly).breakRun =
      { assembly with
        tokens := assembly.tokens ++
          (gatherFrom assembly.strayLabel? assembly.run? steps).toArray
        run? := none } := by
  induction steps generalizing assembly with
  | nil => simpa [gatherFrom] using breakRun_eq assembly
  | cons step steps ih =>
    rw [List.foldl_cons, ih]
    cases step with
    | token token => simp [take, push_eq, gatherFrom]
    | blank c => simp [take, breakRun_eq, gatherFrom]
    | stray c position row => simp [take, pushStray, gatherFrom, StrayRun.extend]

def between (label? : Option String) (lines : List (List Token)) : Assembly :=
  ⟨label?, lines.toArray, #[], none⟩

theorem endLine_foldl_take (label? : Option String) (lines : List (List Token))
    (steps : List Step) :
    (steps.foldl take (between label? lines)).endLine =
      between label? (lines ++ [gatherFrom label? none steps]) := by
  simp [endLine, breakRun_foldl_take, between]

theorem finish_between (label? : Option String) (lines : List (List Token)) :
    (between label? lines).finish = lines := by
  simp [finish, breakRun_eq, between]

end Assembly

theorem push_append_ofList (text : String) (c : Char) (cs : List Char) :
    text.push c ++ String.ofList cs = text ++ String.ofList (c :: cs) := by
  simp [← String.toList_inj]

theorem gatherFrom_run (label : String) (run : StrayRun) (steps : List Step) :
    gatherFrom (some label) (some run) steps =
      ⟨label, run.text ++ String.ofList ((steps.takeWhile (·.strayChar?.isSome)).filterMap
        Step.strayChar?), run.start, run.row, []⟩ ::
        gatherFrom (some label) none (steps.dropWhile (·.strayChar?.isSome)) := by
  induction steps generalizing run with
  | nil => simp [gatherFrom, runTokens]
  | cons step steps ih =>
    cases step with
    | token token => simp [gatherFrom, runTokens, Step.strayChar?]
    | blank c => simp [gatherFrom, runTokens, Step.strayChar?]
    | stray c position row =>
      rw [gatherFrom, ih]
      simp [Step.strayChar?, StrayRun.extend, push_append_ofList]

theorem gather_eq_gatherFrom (label : String) (steps : List Step) :
    gather label steps = gatherFrom (some label) none steps := by
  fun_induction gather label steps with
  | case1 => rfl
  | case2 token steps ih => simp [gatherFrom, ih]
  | case3 c steps ih => simp [gatherFrom, ih]
  | case4 c position row steps block text ih =>
    rw [gatherFrom, gatherFrom_run, ih]
    simp [text, block, StrayRun.extend]

theorem gatherFrom_eq_of_no_stray {steps : List Step}
    (h : ∀ step ∈ steps, step.strayChar? = none) (label? label'? : Option String) :
    gatherFrom label? none steps = gatherFrom label'? none steps := by
  induction steps with
  | nil => simp [gatherFrom]
  | cons step steps ih =>
    obtain ⟨hstep, hsteps⟩ := List.forall_mem_cons.1 h
    cases step with
    | token token => simp [gatherFrom, ih hsteps]
    | blank c => simp [gatherFrom, ih hsteps]
    | stray c position row => simp [Step.strayChar?] at hstep

end Linewise
