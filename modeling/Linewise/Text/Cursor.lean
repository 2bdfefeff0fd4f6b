import Linewise.Text.Bytes

namespace Linewise

/-- A line and a place in it, with the text before the place (nearest character first) and after
it. `position` counts the bytes before the place. -/
structure Cursor where
  line : String
  before : List Char
  after : List Char
  position : Nat
  toList_line : line.toList = before.reverse ++ after
  position_eq : position = byteLength before

namespace Cursor

def start (line : String) : Cursor where
  line := line
  before := []
  after := line.toList
  position := 0
  toList_line := by simp
  position_eq := rfl

def pass (cursor : Cursor) (taken rest : List Char) (h : cursor.after = taken ++ rest) :
    Cursor where
  line := cursor.line
  before := taken.reverseAux cursor.before
  after := rest
  position := cursor.position + byteLength taken
  toList_line := by simp [cursor.toList_line, h, List.reverseAux_eq]
  position_eq := by simp [cursor.position_eq, List.reverseAux_eq, Nat.add_comm]

def forward (cursor : Cursor) (count : Nat) : Cursor :=
  cursor.pass (cursor.after.take count) (cursor.after.drop count) (by simp)

/-- The place `bytes` further on, if it is one between two characters of the line. -/
def advance? (cursor : Cursor) (bytes : Nat) : Option Cursor :=
  match h : cut? bytes cursor.after with
  | some (taken, rest) => some (cursor.pass taken rest (eq_append_of_cut? h).1)
  | none => none

def at? (line : String) (position : Nat) : Option Cursor :=
  (start line).advance? position

def previous? (cursor : Cursor) : Option Char := cursor.before.head?

def next? (cursor : Cursor) : Option Char := cursor.after.head?

def atEnd (cursor : Cursor) : Bool := cursor.after.isEmpty

@[simp]
theorem line_start (line : String) : (start line).line = line := rfl

@[simp]
theorem position_start (line : String) : (start line).position = 0 := rfl

@[simp]
theorem line_pass (cursor : Cursor) (taken rest : List Char) (h) :
    (cursor.pass taken rest h).line = cursor.line := rfl

@[simp]
theorem after_pass (cursor : Cursor) (taken rest : List Char) (h) :
    (cursor.pass taken rest h).after = rest := rfl

@[simp]
theorem position_pass (cursor : Cursor) (taken rest : List Char) (h) :
    (cursor.pass taken rest h).position = cursor.position + byteLength taken := rfl

theorem advance?_eq_some {cursor next : Cursor} {bytes : Nat}
    (h : cursor.advance? bytes = some next) :
    ∃ taken, cursor.after = taken ++ next.after ∧ byteLength taken = bytes ∧
      next.line = cursor.line ∧ next.position = cursor.position + bytes := by
  unfold advance? at h
  split at h
  · next taken rest hcut =>
    obtain ⟨hafter, hlen⟩ := eq_append_of_cut? hcut
    cases h
    exact ⟨taken, by simpa using hafter, hlen, rfl, by simp [hlen]⟩
  · simp at h

theorem length_after_advance? {cursor next : Cursor} {bytes : Nat}
    (h : cursor.advance? bytes = some next) (hpos : 0 < bytes) :
    next.after.length < cursor.after.length := by
  obtain ⟨taken, hafter, hlen, -, -⟩ := advance?_eq_some h
  have hne : taken ≠ [] := by
    rintro rfl
    rw [byteLength_nil] at hlen
    omega
  have := List.length_pos_iff.2 hne
  rw [hafter, List.length_append]
  omega

end Cursor

end Linewise
