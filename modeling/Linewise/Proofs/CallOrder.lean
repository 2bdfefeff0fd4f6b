import Linewise.Proofs.Gathering

namespace Linewise

inductive Call where
  | push (token : Token)
  | pushStray (c : Char) (position row : Nat)
  | breakRun
  | endLine

namespace Call

def strayChar? : Call → Option Char
  | pushStray c _ _ => some c
  | _ => none

def isEnd : Call → Bool
  | endLine => true
  | _ => false

/-- The call brings a token or a character of one. Without a label no stray character counts. -/
def brings (label? : Option String) : Call → Bool
  | push _ => true
  | pushStray _ _ _ => label?.isSome
  | _ => false

/-- Calls that bring stray characters one after the other make one block, as long as it can be. Any
other call is a block of its own. -/
def blocks (calls : List Call) : List (List Call) :=
  calls.splitBy fun a b ↦ a.strayChar?.isSome && b.strayChar?.isSome

def blockToken? (label? : Option String) : List Call → Option Token
  | push token :: _ => some token
  | pushStray c position row :: more =>
    label?.map fun label ↦
      ⟨label, String.ofList (c :: more.filterMap strayChar?), position, row, []⟩
  | _ => none

def tokens (label? : Option String) (calls : List Call) : List Token :=
  (blocks calls).filterMap (blockToken? label?)

/-- The calls are cut where lines end. What comes behind the last end is a line only if it brings
something. -/
def lines (label? : Option String) (calls : List Call) : List (List Token) :=
  let pieces := calls.splitOnP isEnd
  let last? := pieces.getLast?.filter (·.any (brings label?))
  (pieces.dropLast ++ last?.toList).map (tokens label?)

def openRun : List Call → Option StrayRun
  | pushStray c position row :: more =>
    some ⟨String.ofList (c :: more.filterMap strayChar?), position, row⟩
  | _ => none

section

variable {label? : Option String} {calls front block : List Call}

theorem tokens_append
    (h : ∀ a ∈ front.getLast?, ∀ b ∈ block.head?, a.strayChar? = none ∨ b.strayChar? = none) :
    tokens label? (front ++ block) = tokens label? front ++ tokens label? block := by
  have happart : ∀ a ∈ front.getLast?, ∀ b ∈ block.head?,
      (a.strayChar?.isSome && b.strayChar?.isSome) = false := by
    intro a ha b hb
    rcases h a ha b hb with hnone | hnone <;> simp [hnone]
  rw [tokens, blocks, List.splitBy_append happart, List.filterMap_append]
  rfl

theorem tokens_of_strays (h : ∀ call ∈ block, call.strayChar?.isSome = true) :
    tokens label? block = runTokens label? (openRun block) := by
  cases block with
  | nil => simp [tokens, blocks, openRun]
  | cons first more =>
    have hchain : (first :: more).IsChain fun a b ↦
        (a.strayChar?.isSome && b.strayChar?.isSome) = true := by
      apply List.Pairwise.isChain
      apply List.pairwise_of_forall_mem_list
      intro a ha b hb
      rw [h a ha, h b hb]
      rfl
    rw [tokens, blocks, List.splitBy_of_isChain (List.cons_ne_nil _ _) hchain]
    cases first with
    | pushStray c position row => cases label? <;> rfl
    | push | breakRun | endLine => exact absurd (h _ List.mem_cons_self) (by simp [strayChar?])

theorem tokens_append_push (calls : List Call) (token : Token) :
    tokens label? (calls ++ [push token]) = tokens label? calls ++ [token] := by
  apply tokens_append
  intro a _ b hb
  obtain rfl := Option.some.inj hb
  exact .inr rfl

theorem tokens_append_breakRun (calls : List Call) :
    tokens label? (calls ++ [breakRun]) = tokens label? calls := by
  have hnone : tokens label? [breakRun] = [] := rfl
  rw [tokens_append, hnone, List.append_nil]
  intro a _ b hb
  obtain rfl := Option.some.inj hb
  exact .inr rfl

theorem openRun_append {c : Char} {position row : Nat}
    (h : ∀ call ∈ block, call.strayChar?.isSome = true) :
    openRun (block ++ [pushStray c position row]) =
      some (.extend (openRun block) c position row) := by
  cases block with
  | nil => simp [openRun, StrayRun.extend]
  | cons first more =>
    cases first with
    | pushStray c' position' row' =>
      simp [openRun, StrayRun.extend, strayChar?, ← String.toList_inj]
    | push | breakRun | endLine => exact absurd (h _ List.mem_cons_self) (by simp [strayChar?])

theorem strays_of_isChain {first : Call} {more : List Call}
    (h : (first :: more).IsChain fun a b ↦ (a.strayChar?.isSome && b.strayChar?.isSome) = true) :
    ∀ call ∈ more, first.strayChar?.isSome = true ∧ call.strayChar?.isSome = true := by
  induction more generalizing first with
  | nil => simp
  | cons next more ih =>
    obtain ⟨hjoined, hrest⟩ := List.isChain_cons_cons.1 h
    obtain ⟨hfirst, hnext⟩ := Bool.and_eq_true_iff.1 hjoined
    intro call hcall
    rcases List.mem_cons.1 hcall with rfl | hcall
    · exact ⟨hfirst, hnext⟩
    · exact ⟨hfirst, (ih hrest call hcall).2⟩

theorem brings_of_stray {call : Call} (h : call.strayChar?.isSome = true) :
    call.brings label? = label?.isSome := by
  cases call with
  | pushStray => rfl
  | push | breakRun | endLine => cases h

theorem blockToken?_eq_none_iff (h : block ∈ blocks calls) :
    blockToken? label? block = none ↔ ∀ call ∈ block, call.brings label? = false := by
  have hchain := List.isChain_of_mem_splitBy h
  cases block with
  | nil => simp [blockToken?]
  | cons first more =>
    have hmore : ∀ call ∈ more, call.brings label? = first.brings label? := by
      intro call hcall
      obtain ⟨hfirst, hstray⟩ := strays_of_isChain hchain call hcall
      rw [brings_of_stray hfirst, brings_of_stray hstray]
    have hhead : blockToken? label? (first :: more) = none ↔ first.brings label? = false := by
      cases first with
      | pushStray => cases label? <;> simp [blockToken?, brings]
      | push | breakRun | endLine => simp [blockToken?, brings]
    rw [hhead, List.forall_mem_cons]
    constructor
    · intro hnone
      exact ⟨hnone, fun call hcall ↦ (hmore call hcall).trans hnone⟩
    · intro hall
      exact hall.1

theorem tokens_eq_nil_iff :
    tokens label? calls = [] ↔ calls.any (brings label?) = false := by
  have hcalls : calls = (blocks calls).flatten := (List.flatten_splitBy _ calls).symm
  rw [tokens, List.filterMap_eq_nil_iff, List.any_eq_false]
  constructor
  · intro h call hcall
    rw [hcalls] at hcall
    obtain ⟨block, hblock, hmem⟩ := List.mem_flatten.1 hcall
    simpa using (blockToken?_eq_none_iff hblock).1 (h block hblock) call hmem
  · intro h block hblock
    refine (blockToken?_eq_none_iff hblock).2 ?_
    intro call hcall
    have hmem : call ∈ calls := by
      rw [hcalls]
      exact List.mem_flatten.2 ⟨block, hblock, hcall⟩
    simpa using h call hmem

theorem lines_of_no_end (h : ∀ call ∈ calls, call.isEnd = false) :
    lines label? calls =
      if calls.any (brings label?) then [tokens label? calls] else [] := by
  rw [lines, List.splitOnP_eq_singleton h]
  by_cases hbrings : calls.any (brings label?) = true <;> simp [hbrings, Option.filter]

theorem lines_append_endLine (h : ∀ call ∈ front, call.isEnd = false) :
    lines label? (front ++ endLine :: calls) = tokens label? front :: lines label? calls := by
  have hpieces : (front ++ endLine :: calls).splitOnP isEnd = front :: calls.splitOnP isEnd := by
    rw [List.splitOnP_append_cons _ _ rfl, List.splitOnP_eq_singleton h]
    rfl
  have hne := List.splitOnP_ne_nil isEnd calls
  rw [lines, hpieces, List.dropLast_cons_of_ne_nil hne, List.getLast?_cons_of_ne_nil hne]
  rfl

end

end Call

namespace Assembly

def perform (assembly : Assembly) : Call → Assembly
  | .push token => assembly.push token
  | .pushStray c position row => assembly.pushStray c position row
  | .breakRun => assembly.breakRun
  | .endLine => assembly.endLine

theorem strayLabel?_breakRun (assembly : Assembly) :
    assembly.breakRun.strayLabel? = assembly.strayLabel? := by rw [breakRun_eq]

theorem lines_breakRun (assembly : Assembly) : assembly.breakRun.lines = assembly.lines := by
  rw [breakRun_eq]

theorem run?_breakRun (assembly : Assembly) : assembly.breakRun.run? = none := by
  rw [breakRun_eq]

/-- Since the last end of a line came the calls `front`, which are done, and behind them the strays
of the open run. -/
structure Holds (label? : Option String) (made : List (List Token)) (front block : List Call)
    (assembly : Assembly) : Prop where
  label_eq : assembly.strayLabel? = label?
  lines_eq : assembly.lines.toList = made
  tokens_eq : assembly.tokens.toList = Call.tokens label? front
  run_eq : assembly.run? = Call.openRun block
  strays : ∀ call ∈ block, call.strayChar?.isSome = true
  apart : ∀ call ∈ front.getLast?, call.strayChar? = none
  no_end : ∀ call ∈ front ++ block, call.isEnd = false

namespace Holds

variable {label? : Option String} {made : List (List Token)} {front block : List Call}
  {assembly : Assembly}

theorem empty (label? : Option String) : Holds label? [] [] [] (.empty label?) where
  label_eq := rfl
  lines_eq := rfl
  tokens_eq := rfl
  run_eq := rfl
  strays := by simp
  apart := by simp
  no_end := by simp

theorem tokens_breakRun (h : Holds label? made front block assembly) :
    assembly.breakRun.tokens.toList = Call.tokens label? (front ++ block) := by
  rw [Call.tokens_append fun a ha b _ ↦ .inl (h.apart a ha), Call.tokens_of_strays h.strays,
    breakRun_eq, Array.toList_append, h.tokens_eq, h.label_eq, h.run_eq]

theorem no_end_append (h : Holds label? made front block assembly) {call : Call}
    (hend : call.isEnd = false) : ∀ other ∈ front ++ block ++ [call], other.isEnd = false := by
  intro other hother
  rcases List.mem_append.1 hother with hother | hother
  · exact h.no_end other hother
  · rw [List.mem_singleton.1 hother, hend]

theorem of_breakRun (h : Holds label? made front block assembly) {call : Call}
    (hstray : call.strayChar? = none) (hend : call.isEnd = false) {tokens : Array Token}
    (htokens : tokens.toList = Call.tokens label? (front ++ block ++ [call])) :
    Holds label? made (front ++ block ++ [call]) []
      { assembly.breakRun with tokens := tokens } := by
  constructor
  · exact assembly.strayLabel?_breakRun.trans h.label_eq
  · exact (congrArg Array.toList assembly.lines_breakRun).trans h.lines_eq
  · exact htokens
  · exact assembly.run?_breakRun
  · simp
  · simp [hstray]
  · rw [List.append_nil]
    exact h.no_end_append hend

theorem perform (h : Holds label? made front block assembly) {call : Call}
    (hend : call.isEnd = false) :
    ∃ front' block', front' ++ block' = front ++ block ++ [call] ∧
      Holds label? made front' block' (assembly.perform call) := by
  -- A stray makes the open block longer. Any other call closes it, and is done itself.
  cases call with
  | push token =>
    have htokens : (assembly.breakRun.tokens.push token).toList =
        Call.tokens label? (front ++ block ++ [.push token]) := by
      rw [Call.tokens_append_push, Array.toList_push, h.tokens_breakRun]
    exact ⟨_, [], List.append_nil _, h.of_breakRun rfl rfl htokens⟩
  | breakRun =>
    have htokens : assembly.breakRun.tokens.toList =
        Call.tokens label? (front ++ block ++ [.breakRun]) := by
      rw [Call.tokens_append_breakRun, h.tokens_breakRun]
    exact ⟨_, [], List.append_nil _, h.of_breakRun rfl rfl htokens⟩
  | pushStray c position row =>
    refine ⟨front, block ++ [.pushStray c position row], (List.append_assoc _ _ _).symm, ?_⟩
    constructor
    · exact h.label_eq
    · exact h.lines_eq
    · exact h.tokens_eq
    · rw [Call.openRun_append h.strays, ← h.run_eq]
      rfl
    · intro other hother
      rcases List.mem_append.1 hother with hother | hother
      · exact h.strays other hother
      · rw [List.mem_singleton.1 hother]
        rfl
    · exact h.apart
    · rw [← List.append_assoc]
      exact h.no_end_append hend
  | endLine => cases hend

theorem endLine (h : Holds label? made front block assembly) :
    Holds label? (made ++ [Call.tokens label? (front ++ block)]) [] [] assembly.endLine := by
  constructor
  · exact assembly.strayLabel?_breakRun.trans h.label_eq
  · rw [← h.tokens_breakRun, ← h.lines_eq, ← assembly.lines_breakRun]
    exact Array.toList_push
  · rfl
  · exact assembly.run?_breakRun
  · simp
  · simp
  · simp

theorem finish (h : Holds label? made front block assembly) :
    assembly.finish = made ++ Call.lines label? (front ++ block) := by
  have htokens := h.tokens_breakRun
  have hempty : assembly.breakRun.tokens.isEmpty = true ↔
      (front ++ block).any (Call.brings label?) = false := by
    rw [Array.isEmpty_iff, ← Array.toList_eq_nil_iff, htokens, Call.tokens_eq_nil_iff]
  rw [Call.lines_of_no_end h.no_end, Assembly.finish]
  by_cases hbrings : (front ++ block).any (Call.brings label?) = true
  · have hfull : ¬ assembly.breakRun.tokens.isEmpty = true := by
      rw [hempty, hbrings]
      simp
    rw [if_pos hbrings, if_neg hfull, Array.toList_push, htokens, assembly.lines_breakRun,
      h.lines_eq]
  · have hnone := hempty.2 (Bool.eq_false_iff.2 hbrings)
    rw [if_neg hbrings, if_pos hnone, assembly.lines_breakRun, h.lines_eq, List.append_nil]

theorem finish_foldl (h : Holds label? made front block assembly) (calls : List Call) :
    (calls.foldl Assembly.perform assembly).finish =
      made ++ Call.lines label? (front ++ block ++ calls) := by
  induction calls generalizing made front block assembly with
  | nil => rw [List.foldl_nil, List.append_nil, h.finish]
  | cons call calls ih =>
    rw [List.foldl_cons]
    by_cases hend : call.isEnd = true
    · obtain rfl : call = .endLine := by
        cases call with
        | endLine => rfl
        | push | pushStray | breakRun => cases hend
      rw [Call.lines_append_endLine h.no_end, ← List.singleton_append, ← List.append_assoc]
      exact ih h.endLine
    · obtain ⟨front', block', hcalls, hholds⟩ := h.perform (Bool.eq_false_iff.2 hend)
      rw [ih hholds, hcalls, List.append_assoc, List.singleton_append]

end Holds

/-- For any calls, an assembly ends up with the lines that are told from the calls alone. -/
theorem finish_foldl_perform (label? : Option String) (calls : List Call) :
    (calls.foldl perform (.empty label?)).finish = Call.lines label? calls :=
  (Holds.empty label?).finish_foldl calls

end Assembly

end Linewise
