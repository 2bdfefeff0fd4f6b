import Linewise.Proofs.Classification
import Linewise.Rule.Source

namespace Linewise

def Token.ofChar (label : String) (c : Char) (position row : Nat) : Token :=
  ⟨label, String.ofList [c], position, row, []⟩

theorem Token.stop_ofChar (label : String) (c : Char) (position row : Nat) :
    (Token.ofChar label c position row).stop = position + c.utf8Size := by
  simp [Token.ofChar, Token.stop]

namespace Pattern

/-- The pattern matches the next character if it is wanted, and nothing else. -/
def ReadsOne (pattern : Pattern) (wanted : Char → Bool) : Prop :=
  ∀ cursor : Cursor, pattern.matched? cursor = (cursor.next?.filter wanted).map ([·])

section

variable (set : CharSet) (previous? : Option Char)

theorem settle_read (c : Char) :
    (Regex.char set).program.settle previous? (some c)
        (([] : List Nat).length + 1 + 2 * (Regex.char set).program.size) [0]
        (Regex.char set).program.unseen =
      ([(0, set)], false) := by
  simp [Program.settle, Program.unseen, Regex.program, Regex.code]

theorem run_accept (rest : List Char) :
    (Regex.char set).program.run previous? [1] rest = some 0 := by
  cases rest with
  | nil => simp [Program.run, Program.settle, Program.unseen, Regex.program, Regex.code]
  | cons c rest =>
    simp [Program.run, Program.settle, Program.unseen, Program.afterReading, Regex.program,
      Regex.code]

theorem matchLength?_nil : (Regex.char set).program.matchLength? previous? [] = none := by
  simp [Program.matchLength?, Program.run, Program.settle, Program.unseen, Regex.program,
    Regex.code]

theorem matchLength?_cons (c : Char) (rest : List Char) :
    (Regex.char set).program.matchLength? previous? (c :: rest) =
      if set.contains c then some 1 else none := by
  rw [Program.matchLength?, Program.run]
  simp only [settle_read]
  cases hread : set.contains c with
  | false => simp [Program.afterReading, hread, Program.run]
  | true => simp [Program.afterReading, hread, run_accept]

end

theorem readsOne_char (source : String) (set : CharSet) :
    ReadsOne ⟨source, (Regex.char set).program⟩ set.contains := by
  intro cursor
  cases hafter : cursor.after with
  | nil => simp [matched?, hafter, Cursor.next?, matchLength?_nil]
  | cons c rest =>
    rw [matched?, hafter, matchLength?_cons, Cursor.next?, hafter]
    cases hwanted : set.contains c <;> simp [Option.filter, hwanted]

def blank : Pattern := ⟨"\\s", (Regex.ofSet blankSet).program⟩

def any : Pattern := ⟨"(?s).", (Regex.ofSet .all).program⟩

theorem compile_blank : compile "\\s" = .ok blank := by
  have hform : Regex.readForm? "\\s" = some (.letterClass .space false) := rfl
  have hmeaning : Regex.meaning .initial (.letterClass .space false) =
      some (Regex.ofSet blankSet, .initial) := rfl
  have hmodest : (Regex.ofSet blankSet).isModest = true := by cbv
  rw [compile, hform, Option.bind_eq_bind, Option.bind_some, hmeaning]
  exact if_pos hmodest

theorem compile_any : compile "(?s)." = .ok any := by
  have hform : Regex.readForm? "(?s)." = some (.row [.flags [(.dotAll, true)], .dot]) := rfl
  have hmeaning : Regex.meaning .initial (.row [.flags [(.dotAll, true)], .dot]) =
      some (Regex.ofSet .all, Regex.Flags.initial.set .dotAll true) := rfl
  have hmodest : (Regex.ofSet .all).isModest = true := by cbv
  rw [compile, hform, Option.bind_eq_bind, Option.bind_some, hmeaning]
  exact if_pos hmodest

theorem contains_intersect (a b : CharSet) (c : Char) :
    (a.intersect b).contains c = (a.contains c && b.contains c) :=
  CharSet.containsNat_combine and rfl a b c.toNat

theorem contains_characters (c : Char) : CharSet.characters.contains c = true := by
  have hvalid : c.toNat < 0xd800 ∨ 0xdfff < c.toNat ∧ c.toNat < 0x110000 := c.valid
  have hedges : CharSet.characters.edges = [0x0, 0xd800, 0xe000, 0x110000] := by decide
  rw [CharSet.contains, CharSet.containsNat, hedges]
  rcases hvalid with hlow | ⟨hhigh, hmax⟩
  · have hfirst : ¬ 0xd800 ≤ c.toNat := by omega
    simp [insideAt, hfirst]
  · have hfirst : 0xd800 ≤ c.toNat := by omega
    have hsecond : 0xe000 ≤ c.toNat := by omega
    have hlast : ¬ 0x110000 ≤ c.toNat := by omega
    simp [insideAt, hfirst, hsecond, hlast]

theorem readsOne_blank : blank.ReadsOne isBlank := by
  have hset : (blankSet.intersect .characters).contains = isBlank := by
    funext c
    rw [contains_intersect, contains_characters, Bool.and_true]
    rfl
  exact hset ▸ readsOne_char _ _

theorem readsOne_any : any.ReadsOne fun _ ↦ true := by
  have hset : (CharSet.all.intersect .characters).contains = fun _ ↦ true := by
    funext c
    rw [contains_intersect, contains_characters, Bool.and_true]
    rfl
  exact hset ▸ readsOne_char _ _

end Pattern

theorem Rule.taken?_of_readsOne {pattern : Pattern} {wanted : Char → Bool}
    (h : pattern.ReadsOne wanted) (label : String) (cursor : Cursor) (row : Nat) :
    (Rule.simple ⟨label, pattern⟩).taken? cursor row =
      (cursor.next?.filter wanted).map fun c ↦
        (.ofChar label c cursor.position row, cursor.forward 1) := by
  have htoken : (Rule.simple ⟨label, pattern⟩).token? cursor row =
      (cursor.next?.filter wanted).map (.ofChar label · cursor.position row) := by
    simp only [token?, SimpleRule.token?, h cursor, Option.map_map]
    rfl
  rw [taken?, htoken]
  cases hfound : cursor.next?.filter wanted with
  | none => rfl
  | some c =>
    have hnext : cursor.next? = some c := (Option.filter_eq_some_iff.1 hfound).1
    have haccept : cursor.accept? (.ofChar label c cursor.position row) =
        some (cursor.forward 1) := by
      obtain ⟨hline, hposition⟩ := Cursor.forward_position hnext
      have hstop := Token.stop_ofChar label c cursor.position row
      have hpos := c.utf8Size_pos
      refine Cursor.accept?_eq_some_iff.2 ⟨⟨rfl, by omega, ?_⟩, hline, hposition.trans hstop.symm⟩
      rw [hstop, ← hposition, ← hline]
      exact (cursor.forward 1).isPlace
    simp [haccept]

end Linewise
