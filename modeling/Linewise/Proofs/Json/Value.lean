import Linewise.Json.Text
import Mathlib

namespace Linewise.Json

inductive Value where
  | text (value : String)
  | truth (value : Bool)
  | count (value : Nat)
  | list (items : List Value)
  | object (members : List (String × Value))

def comma (first : Bool) : List Char := if first then [] else [',']

namespace Value

mutual

def write : Value → List Char
  | text value => writeText value
  | truth value => (if value then "true" else "false").toList
  | count value => (Nat.repr value).toList
  | list items => '[' :: writeItems true items ++ [']']
  | object members => '\x7b' :: writeMembers true members ++ ['\x7d']

def writeItems (first : Bool) : List Value → List Char
  | [] => []
  | item :: items => comma first ++ item.write ++ writeItems false items

def writeMembers (first : Bool) : List (String × Value) → List Char
  | [] => []
  | (key, value) :: members =>
    comma first ++ writeText key ++ ':' :: value.write ++ writeMembers false members

end

mutual

def depth : Value → Nat
  | text _ | truth _ | count _ => 0
  | list items => depthOfItems items + 1
  | object members => depthOfMembers members + 1

def depthOfItems : List Value → Nat
  | [] => 0
  | item :: items => max item.depth (depthOfItems items)

def depthOfMembers : List (String × Value) → Nat
  | [] => 0
  | (_, value) :: members => max value.depth (depthOfMembers members)

end

end Value

/-- Where in a text a reader of brackets is: outside of strings, in one, or behind a backslash. -/
inductive Spot where
  | value
  | text
  | escape

/-- The most lists and objects that are open at once from a place on where `opened` are open. -/
def deepest : Spot → Nat → List Char → Nat
  | _, opened, [] => opened
  | .value, opened, c :: chars =>
    if c = '"' then deepest .text opened chars
    else if c = '[' ∨ c = '\x7b' then deepest .value (opened + 1) chars
    else if c = ']' ∨ c = '\x7d' then max opened (deepest .value (opened - 1) chars)
    else deepest .value opened chars
  | .text, opened, c :: chars =>
    if c = '"' then deepest .value opened chars
    else if c = '\\' then deepest .escape opened chars
    else deepest .text opened chars
  | .escape, opened, _ :: chars => deepest .text opened chars

/-- How deep lists and objects are nested in a JSON text. -/
def nesting (text : String) : Nat := deepest .value 0 text.toList

section

variable {opened : Nat} {chars : List Char}

theorem le_deepest (spot : Spot) (opened : Nat) (chars : List Char) :
    opened ≤ deepest spot opened chars := by
  induction chars generalizing spot opened with
  | nil => rw [deepest]
  | cons c chars ih =>
    have hvalue := ih .value
    have htext := ih .text
    cases spot with
    | value =>
      rw [deepest]
      split
      · exact htext opened
      · split
        · exact Nat.le_trans (Nat.le_succ _) (hvalue (opened + 1))
        · split
          · exact Nat.le_max_left _ _
          · exact hvalue opened
    | text =>
      rw [deepest]
      split
      · exact hvalue opened
      · split
        · exact ih .escape opened
        · exact htext opened
    | escape => exact htext opened

theorem deepest_quote : deepest .value opened ('"' :: chars) = deepest .text opened chars := rfl

theorem deepest_open {c : Char} (hc : c = '[' ∨ c = '\x7b') :
    deepest .value opened (c :: chars) = deepest .value (opened + 1) chars := by
  rcases hc with rfl | rfl <;> rfl

theorem deepest_close {c : Char} (hc : c = ']' ∨ c = '\x7d') :
    deepest .value (opened + 1) (c :: chars) =
      max (opened + 1) (deepest .value opened chars) := by
  rcases hc with rfl | rfl <;> rfl

theorem deepest_plain {plain : List Char}
    (hplain : ∀ c ∈ plain, c ∉ ['"', '[', '\x7b', ']', '\x7d']) :
    deepest .value opened (plain ++ chars) = deepest .value opened chars := by
  induction plain with
  | nil => rfl
  | cons c plain ih =>
    obtain ⟨hc, hrest⟩ := List.forall_mem_cons.1 hplain
    simp only [List.mem_cons, List.not_mem_nil, or_false, not_or] at hc
    rw [List.cons_append, deepest]
    simp [hc, ih hrest]

theorem deepest_writtenChar (c : Char) :
    deepest .text opened (writtenChar c ++ chars) = deepest .text opened chars := by
  unfold writtenChar
  split
  case h_8 hquote hslash _ _ _ _ _ =>
    split
    · next hlow =>
      have hdigits : ∀ n < 0x20, Nat.digitChar (n / 16) ∉ ['"', '\\'] ∧
          Nat.digitChar (n % 16) ∉ ['"', '\\'] := by decide
      obtain ⟨hhigh, hunit⟩ := hdigits c.toNat hlow
      simp only [List.mem_cons, List.not_mem_nil, or_false, not_or] at hhigh hunit
      simp [deepest, hhigh, hunit]
    · have hquote : c ≠ '"' := hquote
      have hslash : c ≠ '\\' := hslash
      simp [deepest, hquote, hslash]
  all_goals simp [deepest]

theorem deepest_writeText (text : String) :
    deepest .value opened (writeText text ++ chars) = deepest .value opened chars := by
  have hcontent (content : List Char) :
      deepest .text opened (content.flatMap writtenChar ++ '"' :: chars) =
        deepest .value opened chars := by
    induction content with
    | nil => rfl
    | cons c content ih => rw [List.flatMap_cons, List.append_assoc, deepest_writtenChar, ih]
  simp only [writeText, List.cons_append, List.append_assoc, List.nil_append]
  rw [deepest_quote]
  exact hcontent text.toList

theorem deepest_repr (n : Nat) :
    deepest .value opened ((Nat.repr n).toList ++ chars) = deepest .value opened chars := by
  apply deepest_plain
  intro c hc
  rw [Nat.toList_repr] at hc
  have hdigit := Nat.isDigit_of_mem_toDigits (by decide) (by decide) hc
  simp only [List.mem_cons, List.not_mem_nil, or_false, not_or]
  refine ⟨?_, ?_, ?_, ?_, ?_⟩ <;> rintro rfl <;> exact absurd hdigit (by decide)

theorem deepest_comma (first : Bool) :
    deepest .value opened (comma first ++ chars) = deepest .value opened chars := by
  cases first <;> rfl

end

namespace Value

mutual

theorem deepest_write : ∀ (value : Value) (opened : Nat) (chars : List Char),
    deepest .value opened (value.write ++ chars) =
      max (opened + value.depth) (deepest .value opened chars)
  | text value, opened, chars => by
    rw [write, deepest_writeText]
    exact (max_eq_right (le_deepest _ _ _)).symm
  | truth value, opened, chars => by
    have hplain : deepest .value opened (write (truth value) ++ chars) =
        deepest .value opened chars := by
      cases value <;> rfl
    rw [hplain]
    exact (max_eq_right (le_deepest _ _ _)).symm
  | count value, opened, chars => by
    rw [write, deepest_repr]
    exact (max_eq_right (le_deepest _ _ _)).symm
  | list items, opened, chars => by
    have hitems := deepest_writeItems true items (opened + 1) (']' :: chars)
    rw [deepest_close (.inl rfl)] at hitems
    simp only [write, depth, List.cons_append, List.append_assoc, List.nil_append]
    rw [deepest_open (.inl rfl), hitems]
    omega
  | object members, opened, chars => by
    have hmembers := deepest_writeMembers true members (opened + 1) ('\x7d' :: chars)
    rw [deepest_close (.inr rfl)] at hmembers
    simp only [write, depth, List.cons_append, List.append_assoc, List.nil_append]
    rw [deepest_open (.inr rfl), hmembers]
    omega

theorem deepest_writeItems (first : Bool) :
    ∀ (items : List Value) (opened : Nat) (chars : List Char),
      deepest .value opened (writeItems first items ++ chars) =
        max (opened + depthOfItems items) (deepest .value opened chars)
  | [], opened, chars => by
    rw [writeItems, depthOfItems]
    exact (max_eq_right (le_deepest _ _ _)).symm
  | item :: items, opened, chars => by
    rw [writeItems, depthOfItems, List.append_assoc, List.append_assoc, deepest_comma,
      deepest_write item, deepest_writeItems false items]
    omega

theorem deepest_writeMembers (first : Bool) :
    ∀ (members : List (String × Value)) (opened : Nat) (chars : List Char),
      deepest .value opened (writeMembers first members ++ chars) =
        max (opened + depthOfMembers members) (deepest .value opened chars)
  | [], opened, chars => by
    rw [writeMembers, depthOfMembers]
    exact (max_eq_right (le_deepest _ _ _)).symm
  | (key, value) :: members, opened, chars => by
    have hcolon (chars : List Char) :
        deepest .value opened (':' :: chars) = deepest .value opened chars := rfl
    simp only [writeMembers, depthOfMembers, List.cons_append, List.append_assoc]
    rw [deepest_comma, deepest_writeText, hcolon, deepest_write value,
      deepest_writeMembers false members]
    omega

end

theorem nesting_write (value : Value) : nesting (String.ofList value.write) = value.depth := by
  have h := deepest_write value 0 []
  rw [List.append_nil, Nat.zero_add, deepest, Nat.max_zero] at h
  rw [nesting, String.toList_ofList, h]

/-- Brackets in strings do not count. -/
example :
    nesting (String.ofList (write (.object [("[", .list [.list [], .text "]\"["])]))) = 3 := by
  decide

end Value

end Linewise.Json
