import Linewise.Regex.Program

namespace Linewise.Program

/-- Where the threads stand after the steps that read no character: those that are ready to read,
in the order of preference, up to the first that accepts, and whether one does. A thread that comes
to a place where another has been is dropped; `seen` marks the places. `fuel` bounds the number of
steps. -/
def settle (program : Program) (previous? next? : Option Char) :
    Nat → List Nat → Array Bool → List (Nat × CharSet) × Bool
  | 0, _, _ => ([], false)
  | _ + 1, [], _ => ([], false)
  | fuel + 1, place :: places, seen =>
    if seen.getD place true then settle program previous? next? fuel places seen
    else
      let seen := seen.setIfInBounds place true
      match program[place]? with
      | some .accept => ([], true)
      | some (.char set) =>
        let (threads, accepted) := settle program previous? next? fuel places seen
        ((place, set) :: threads, accepted)
      | some (.look condition) =>
        if condition.holds previous? next? then
          settle program previous? next? fuel ((place + 1) :: places) seen
        else settle program previous? next? fuel places seen
      | some (.jump target) => settle program previous? next? fuel (target :: places) seen
      | some (.fork first second) =>
        settle program previous? next? fuel (first :: second :: places) seen
      | none => settle program previous? next? fuel places seen

def unseen (program : Program) : Array Bool := Array.replicate program.size false

def afterReading (c : Char) (threads : List (Nat × CharSet)) : List Nat :=
  threads.filterMap fun (place, set) ↦ if set.contains c then some (place + 1) else none

/-- The number of characters of the preferred match, for threads at the given places. All ways of
matching are followed at once, so the time does not grow with their number. A thread that is
preferred to one that accepts may still find a longer way and then wins. -/
def run (program : Program) : Option Char → List Nat → List Char → Option Nat
  | _, [], _ => none
  | previous?, place :: places, [] =>
    let fuel := places.length + 1 + 2 * program.size
    if (program.settle previous? none fuel (place :: places) program.unseen).2 then some 0 else none
  | previous?, place :: places, c :: rest =>
    let fuel := places.length + 1 + 2 * program.size
    let (threads, accepted) :=
      program.settle previous? (some c) fuel (place :: places) program.unseen
    match run program (some c) (afterReading c threads) rest with
    | some length => some (length + 1)
    | none => if accepted then some 0 else none

/-- The number of characters of the preferred match at the start of `after`, which comes behind the
character `previous?`. -/
def matchLength? (program : Program) (previous? : Option Char) (after : List Char) : Option Nat :=
  program.run previous? [0] after

theorem run_le {program : Program} {previous? : Option Char} {places : List Nat}
    {rest : List Char} {length : Nat} (h : program.run previous? places rest = some length) :
    length ≤ rest.length := by
  induction rest generalizing previous? places length with
  | nil =>
    cases places with
    | nil => simp [run] at h
    | cons place places =>
      simp only [run] at h
      split at h <;> simp_all
  | cons c rest ih =>
    cases places with
    | nil => simp [run] at h
    | cons place places =>
      simp only [run] at h
      split at h
      · next later hrun =>
        have := ih hrun
        simp only [Option.some.injEq] at h
        simp only [List.length_cons]
        omega
      · split at h
        · cases h
          exact Nat.zero_le _
        · simp at h

theorem matchLength?_le {program : Program} {previous? : Option Char} {after : List Char}
    {length : Nat} (h : program.matchLength? previous? after = some length) :
    length ≤ after.length :=
  run_le h

end Linewise.Program
