import Linewise.Json.Record
import Linewise.Proofs.Outcome
import Mathlib

namespace Linewise.Json

/-- What can come behind a value: nothing, a comma, or the end of a list or an object. -/
def Closes (rest : Source) : Prop :=
  ∀ unit ∈ rest.head?, unit = some ',' ∨ unit = some ']' ∨ unit = some '\x7d'

theorem Closes.head?_eq_none {rest : Source} (h : Closes rest) {α : Type}
    {f : Option Char → Option α} (hcomma : f (some ',') = none) (hlist : f (some ']') = none)
    (hobject : f (some '\x7d') = none) : ∀ unit ∈ rest.head?, f unit = none := by
  intro unit hunit
  rcases h unit hunit with rfl | rfl | rfl
  · exact hcomma
  · exact hlist
  · exact hobject

theorem skipBlanks_of_not_spacing {unit : Option Char} (h : isSpacing unit = false)
    (rest : Source) : skipBlanks (unit :: rest) = unit :: rest :=
  List.dropWhile_cons_of_neg (by simp [h])

def digitsOf (n : Nat) : List Nat := (Nat.toDigits 10 n).map fun c ↦ c.toNat - '0'.toNat

theorem digit?_of_isDigit {c : Char} (hc : c.isDigit = true) :
    digit? (some c) = some (c.toNat - '0'.toNat) := if_pos hc

theorem isSpacing_of_isDigit {c : Char} (hc : c.isDigit = true) : isSpacing (some c) = false := by
  simp only [isSpacing, Bool.or_eq_false_iff, beq_eq_false_iff_ne, ne_eq, Option.some.injEq]
  refine ⟨⟨⟨?_, ?_⟩, ?_⟩, ?_⟩ <;> rintro rfl <;> exact absurd hc (by decide)

theorem isDigit_of_mem_toDigits {n : Nat} {c : Char} (hc : c ∈ Nat.toDigits 10 n) :
    c.isDigit = true :=
  Nat.isDigit_of_mem_toDigits (by decide) (by decide) hc

theorem readDigits_written {chars : List Char} (hchars : ∀ c ∈ chars, c.isDigit = true)
    {rest : Source} (hrest : ∀ unit ∈ rest.head?, digit? unit = none) :
    readDigits (chars.map some ++ rest) = (chars.map fun c ↦ c.toNat - '0'.toNat, rest) := by
  induction chars with
  | nil =>
    cases rest with
    | nil => rfl
    | cons unit rest =>
      have hunit := hrest unit rfl
      rw [List.map_nil, List.nil_append, readDigits, hunit]
      rfl
  | cons c chars ih =>
    obtain ⟨hc, hchars⟩ := List.forall_mem_cons.1 hchars
    rw [List.map_cons, List.cons_append, readDigits, digit?_of_isDigit hc]
    dsimp only
    rw [ih hchars, List.map_cons]

theorem digitsOf_of_lt {n : Nat} (h : n < 10) : digitsOf n = [n] := by
  rw [digitsOf, Nat.toDigits_of_lt_base h]
  interval_cases n <;> rfl

theorem digitsOf_of_le {n : Nat} (h : 10 ≤ n) : digitsOf n = digitsOf (n / 10) ++ [n % 10] := by
  have hunit := digitsOf_of_lt (Nat.mod_lt n (show 0 < 10 by decide))
  rw [digitsOf, Nat.toDigits_of_lt_base (Nat.mod_lt n (by decide))] at hunit
  rw [digitsOf, Nat.toDigits_of_base_le (by decide) h, List.map_append, hunit, digitsOf]

theorem digitsOf_ne_nil (n : Nat) : digitsOf n ≠ [] := by
  simp [digitsOf, Nat.toDigits_ne_nil]

theorem head?_digitsOf {n : Nat} (hn : 0 < n) : (digitsOf n).head? ≠ some 0 := by
  induction n using Nat.strong_induction_on with
  | _ n ih =>
    by_cases hlow : n < 10
    · rw [digitsOf_of_lt hlow, List.head?_cons, ne_eq, Option.some.injEq]
      omega
    · rw [digitsOf_of_le (by omega), List.head?_append_of_ne_nil _ (digitsOf_ne_nil _)]
      exact ih (n / 10) (by omega) (by omega)

theorem digitsOf_ne_zero_cons (n : Nat) (digit : Nat) (digits : List Nat) :
    digitsOf n ≠ 0 :: digit :: digits := by
  intro h
  by_cases hn : n = 0
  · rw [hn, digitsOf_of_lt (by decide)] at h
    cases h
  · apply head?_digitsOf (Nat.pos_of_ne_zero hn)
    rw [h, List.head?_cons]

theorem digitsValue_digitsOf (n : Nat) : digitsValue (digitsOf n) = n := by
  induction n using Nat.strong_induction_on with
  | _ n ih =>
    by_cases hlow : n < 10
    · rw [digitsOf_of_lt hlow]
      simp [digitsValue]
    · have hrest := ih (n / 10) (by omega)
      rw [digitsValue] at hrest
      rw [digitsOf_of_le (by omega), digitsValue, List.foldl_append, hrest]
      dsimp only [List.foldl]
      omega

theorem le_foldl_digits (digits : List Nat) (n : Nat) :
    n ≤ digits.foldl (fun n digit ↦ 10 * n + digit) n := by
  induction digits generalizing n with
  | nil => exact Nat.le_refl n
  | cons digit digits ih =>
    have hrest := ih (10 * n + digit)
    rw [List.foldl_cons]
    omega

theorem absorb_eq {digits : List Nat} {n : Nat}
    (h : digits.foldl (fun n digit ↦ 10 * n + digit) n < 1 <<< 64) :
    absorb n digits = (digits.foldl (fun n digit ↦ 10 * n + digit) n, []) := by
  induction digits generalizing n with
  | nil => rfl
  | cons digit digits ih =>
    have hle := le_foldl_digits digits (10 * n + digit)
    rw [absorb, if_pos (Nat.lt_of_le_of_lt hle h), ih h]
    rfl

theorem absorb_lt {digits : List Nat} {n : Nat} (h : n < 1 <<< 64) :
    (absorb n digits).1 < 1 <<< 64 := by
  induction digits generalizing n with
  | nil => exact h
  | cons digit digits ih =>
    rw [absorb]
    split
    · next hfits => exact ih hfits
    · exact h

theorem exists_digit_repr (n : Nat) :
    ∃ c chars, (Nat.repr n).toList = c :: chars ∧ c.isDigit = true := by
  obtain ⟨c, chars, hchars⟩ := List.exists_cons_of_ne_nil (@Nat.toDigits_ne_nil n 10)
  refine ⟨c, chars, Nat.toList_repr.trans hchars, isDigit_of_mem_toDigits (n := n) ?_⟩
  rw [hchars]
  exact List.mem_cons_self

section

variable {rest : Source} (hrest : Closes rest)

include hrest

theorem readWhole_repr (n : Nat) :
    readWhole .endInValue ((Nat.repr n).toList.map some ++ rest) = .ok (digitsOf n, rest) := by
  have hdigits : readDigits ((Nat.repr n).toList.map some ++ rest) = (digitsOf n, rest) := by
    rw [Nat.toList_repr]
    exact readDigits_written (fun c ↦ isDigit_of_mem_toDigits) (hrest.head?_eq_none rfl rfl rfl)
  have hsome : readSomeDigits .endInValue ((Nat.repr n).toList.map some ++ rest) =
      .ok (digitsOf n, rest) := by
    rw [readSomeDigits, hdigits]
    split
    · next h => exact absurd (Prod.mk.inj h).1 (digitsOf_ne_nil n)
    · next h => exact absurd (Prod.mk.inj h).1 (digitsOf_ne_nil n)
    · rfl
  rw [readWhole, hsome]
  dsimp only [bind, Except.bind]
  split
  · next h => exact absurd h (digitsOf_ne_zero_cons n _ _)
  · rfl

theorem readFraction_of_closes : readFraction .endInValue rest = .ok (none, rest) := by
  unfold readFraction
  split
  · next later => simpa using hrest (some '.') rfl
  · rfl

theorem readExponent_of_closes : readExponent .endInValue rest = .ok (none, rest) := by
  unfold readExponent
  dsimp only
  split
  · next later => simpa using hrest (some 'e') rfl
  · next later => simpa using hrest (some 'E') rfl
  · rfl

theorem readShape_repr (n : Nat) :
    readShape .endInValue ((Nat.repr n).toList.map some ++ rest) =
      .ok (⟨false, digitsOf n, none, none⟩, rest) := by
  have hwhole := readWhole_repr hrest n
  obtain ⟨c, chars, hchars, hc⟩ := exists_digit_repr n
  have hminus : c ≠ '-' := by
    rintro rfl
    exact absurd hc (by decide)
  have hsign (later : Source) : (c :: chars).map some ++ rest ≠ some '-' :: later := by
    intro h
    exact hminus (Option.some.inj (List.cons.inj h).1)
  rw [hchars] at hwhole ⊢
  rw [readShape, hwhole]
  · dsimp only [bind, Except.bind]
    rw [readFraction_of_closes hrest]
    dsimp only
    rw [readExponent_of_closes hrest]
  · exact hsign

theorem readCount_repr {n : Nat} (hn : n < 2 ^ 64) :
    readCount ((Nat.repr n).toList.map some ++ rest) = .ok (n, rest) := by
  have hvalue : (digitsOf n).foldl (fun n digit ↦ 10 * n + digit) 0 = n :=
    digitsValue_digitsOf n
  have habsorb : absorb 0 (digitsOf n) = (n, []) := by
    rw [absorb_eq (by rw [hvalue]; exact hn), hvalue]
  have hnumber : readNumber ((Nat.repr n).toList.map some ++ rest) = .ok (.integer n, rest) := by
    rw [readNumber, readShape_repr hrest n]
    simp [bind, Except.bind, NumberShape.number, habsorb]
  obtain ⟨c, chars, hchars, hc⟩ := exists_digit_repr n
  have hspacing := isSpacing_of_isDigit hc
  have hdigit : (some c == some '-' || (digit? (some c)).isSome) = true := by
    rw [digit?_of_isDigit hc]
    simp
  rw [hchars, List.map_cons, List.cons_append] at hnumber ⊢
  rw [readCount, skipBlanks_of_not_spacing hspacing]
  dsimp only
  rw [if_pos hdigit, hnumber]

end

theorem lt_of_number {shape : NumberShape} {n : Nat}
    (h : shape.number = .ok (.integer (.ofNat n))) : n < 2 ^ 64 := by
  have hfloat (f : Float → Float) :
      shape.magnitude.map (fun x ↦ Number.float (f x)) ≠ .ok (.integer (.ofNat n)) := by
    intro hfound
    obtain ⟨x, -, hx⟩ := map_eq_ok_iff.1 hfound
    cases hx
  unfold NumberShape.number at h
  dsimp only at h
  split at h
  · next m hfraction hexponent habsorb =>
    have hm : m < 2 ^ 64 := by
      have hlt := @absorb_lt shape.whole 0 (by decide)
      rw [habsorb] at hlt
      exact hlt
    split at h
    · cases h
      exact hm
    · split at h
      · next hpos =>
        simp only [Except.ok.injEq, Number.integer.injEq, Int.ofNat_eq_natCast] at h
        omega
      · exact absurd h (hfloat _)
  · exact absurd h (hfloat _)

theorem lt_of_readCount {source rest : Source} {n : Nat} (h : readCount source = .ok (n, rest)) :
    n < 2 ^ 64 := by
  unfold readCount at h
  split at h
  · cases h
  · split at h
    · split at h
      · cases h
      · next m later hnumber =>
        cases h
        obtain ⟨⟨shape, left⟩, -, hnumber⟩ := bind_eq_ok_iff.1 hnumber
        obtain ⟨number, hshape, hpair⟩ := bind_eq_ok_iff.1 hnumber
        cases hpair
        exact lt_of_number hshape
      · cases h
      · cases h
    · cases h

end Linewise.Json
