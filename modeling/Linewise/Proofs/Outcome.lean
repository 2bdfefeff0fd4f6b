namespace Linewise

variable {α β ε : Type}

theorem map_eq_ok_iff {f : α → β} {result : Except ε α} {found : β} :
    result.map f = .ok found ↔ ∃ value, result = .ok value ∧ f value = found := by
  cases result <;> simp [Except.map]

theorem bind_eq_ok_iff {f : α → Except ε β} {result : Except ε α} {found : β} :
    (result >>= f) = .ok found ↔ ∃ value, result = .ok value ∧ f value = .ok found := by
  cases result <;> simp [bind, Except.bind]

def errorOf? : Except ε α → Option ε
  | .ok _ => none
  | .error error => some error

theorem errorOf?_eq_some_iff {result : Except ε α} {error : ε} :
    errorOf? result = some error ↔ result = .error error := by
  cases result <;> simp [errorOf?]

theorem errorOf?_eq_none_iff {result : Except ε α} :
    errorOf? result = none ↔ ∃ value, result = .ok value := by
  cases result <;> simp [errorOf?]

theorem errorOf?_map (f : α → β) (result : Except ε α) :
    errorOf? (result.map f) = errorOf? result := by
  cases result <;> rfl

/-- If it does not depend on the value how a computation goes on, neither does its error. -/
theorem errorOf?_bind {f : α → Except ε β} {error? : Option ε}
    (hf : ∀ value, errorOf? (f value) = error?) (result : Except ε α) :
    errorOf? (result >>= f) = (errorOf? result).or error? := by
  cases result with
  | error error => rfl
  | ok value => exact hf value

theorem errorOf?_mapM (f : α → Except ε β) (items : List α) :
    errorOf? (items.mapM f) = items.findSome? fun item ↦ errorOf? (f item) := by
  induction items with
  | nil => rfl
  | cons item items ih =>
    rw [List.mapM_cons, List.findSome?_cons, ← ih]
    cases f item with
    | error error => rfl
    | ok value => cases items.mapM f <;> rfl

end Linewise
