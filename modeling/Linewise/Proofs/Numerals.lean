import Mathlib

namespace Linewise

section

variable {α : Type} {a b rest rest' : List α} {c : α}

theorem append_cons_inj_of_notMem_left (ha : c ∉ a) (hb : c ∉ b)
    (h : a ++ c :: rest = b ++ c :: rest') : a = b ∧ rest = rest' := by
  rcases List.append_eq_append_iff.1 h with ⟨more, hb', hmore⟩ | ⟨more, ha', hmore⟩
  · cases more with
    | nil => exact ⟨by simpa using hb'.symm, (List.cons.inj hmore).2⟩
    | cons d more =>
      obtain ⟨rfl, -⟩ := List.cons.inj hmore
      exact absurd (by simp [hb']) hb
  · cases more with
    | nil => exact ⟨by simpa using ha', (List.cons.inj hmore).2.symm⟩
    | cons d more =>
      obtain ⟨rfl, -⟩ := List.cons.inj hmore
      exact absurd (by simp [ha']) ha

theorem append_cons_inj_of_notMem_right (hrest : c ∉ rest) (hrest' : c ∉ rest')
    (h : a ++ c :: rest = b ++ c :: rest') : a = b ∧ rest = rest' := by
  have hreverse := congrArg List.reverse h
  rw [List.reverse_append, List.reverse_append, List.reverse_cons, List.reverse_cons,
    List.append_assoc, List.append_assoc] at hreverse
  have hsame := append_cons_inj_of_notMem_left (by simpa using hrest) (by simpa using hrest')
    hreverse
  exact ⟨List.reverse_inj.1 hsame.2, List.reverse_inj.1 hsame.1⟩

end

theorem digitChar_inj {m n : Nat} (hm : m < 16) (hn : n < 16)
    (h : Nat.digitChar m = Nat.digitChar n) : m = n := by
  have hall : ∀ m < 16, ∀ n < 16, Nat.digitChar m = Nat.digitChar n → m = n := by decide
  exact hall m hm n hn h

section

variable {base m n : Nat}

theorem exists_digitChar_of_mem_toDigits (hbase : 1 < base) {c : Char}
    (hc : c ∈ Nat.toDigits base n) : ∃ digit, Nat.digitChar digit = c := by
  induction n using Nat.strong_induction_on with
  | _ n ih =>
    by_cases hlow : n < base
    · rw [Nat.toDigits_of_lt_base hlow, List.mem_singleton] at hc
      exact ⟨n, hc.symm⟩
    · rw [Nat.toDigits_of_base_le hbase (by omega), List.mem_append] at hc
      rcases hc with hc | hc
      · exact ih (n / base) (Nat.div_lt_self (by omega) hbase) hc
      · rw [List.mem_singleton] at hc
        exact ⟨n % base, hc.symm⟩

theorem toDigits_inj (hbase : 1 < base) (hle : base ≤ 16)
    (h : Nat.toDigits base m = Nat.toDigits base n) : m = n := by
  induction m using Nat.strong_induction_on generalizing n with
  | _ m ih =>
    have hlow : m < base ↔ n < base := by
      rw [← pow_one base, ← Nat.length_toDigits_le_iff hbase Nat.one_pos, h,
        Nat.length_toDigits_le_iff hbase Nat.one_pos]
    by_cases hm : m < base
    · have hn := hlow.1 hm
      rw [Nat.toDigits_of_lt_base hm, Nat.toDigits_of_lt_base hn] at h
      apply digitChar_inj (by omega) (by omega)
      simpa using h
    · have hn := mt hlow.2 hm
      rw [Nat.toDigits_of_base_le hbase (Nat.le_of_not_lt hm),
        Nat.toDigits_of_base_le hbase (Nat.le_of_not_lt hn)] at h
      obtain ⟨hfront, hunit⟩ := List.append_inj' h rfl
      have hquotient := ih (m / base) (Nat.div_lt_self (by omega) hbase) hfront
      have hremainder : m % base = n % base := by
        have hmunit := Nat.mod_lt m (show 0 < base by omega)
        have hnunit := Nat.mod_lt n (show 0 < base by omega)
        apply digitChar_inj (by omega) (by omega)
        simpa using hunit
      rw [← Nat.div_add_mod m base, ← Nat.div_add_mod n base, hquotient, hremainder]

/-- A numeral ends where something comes that is no digit, so the text tells which number stands
there and what comes behind it. -/
theorem toDigits_append_inj (hbase : 1 < base) (hle : base ≤ 16) {c : Char}
    (hc : ∀ digit, Nat.digitChar digit ≠ c) {rest rest' : List Char}
    (h : Nat.toDigits base m ++ c :: rest = Nat.toDigits base n ++ c :: rest') :
    m = n ∧ rest = rest' := by
  have hnot (k : Nat) : c ∉ Nat.toDigits base k := by
    intro hmem
    obtain ⟨digit, hdigit⟩ := exists_digitChar_of_mem_toDigits hbase hmem
    exact hc digit hdigit
  obtain ⟨hdigits, hrest⟩ := append_cons_inj_of_notMem_left (hnot m) (hnot n) h
  exact ⟨toDigits_inj hbase hle hdigits, hrest⟩

end

theorem toList_toString (n : Nat) : (toString n).toList = Nat.toDigits 10 n := by
  rw [Nat.toString_eq_repr, Nat.toList_repr]

end Linewise
