import Std.Data.HashMap

namespace Linewise

/-- A hash of numbers, which are mixed in one by one: an exclusive or, then a product modulo
2 ^ 64. -/
def mixedHash (numbers : List Nat) : UInt64 :=
  numbers.foldl (fun hash n ↦ (hash ^^^ n.toUInt64) * 1099511628211) 14695981039346656037

/-- A table with a fixed number of slots. A slot holds the key that was put there last and the
number that was put there with it. -/
structure SlotTable where
  slots : Nat
  held : Std.HashMap Nat (List Nat × Nat)

namespace SlotTable

def ofSlots (slots : Nat) : SlotTable := ⟨slots, {}⟩

def slotOf (table : SlotTable) (key : List Nat) : Nat := (mixedHash key).toNat % table.slots

def find? (table : SlotTable) (key : List Nat) : Option Nat := do
  let (holder, number) ← table.held[table.slotOf key]?
  if holder = key then some number else none

def put (table : SlotTable) (key : List Nat) (number : Nat) : SlotTable :=
  { table with held := table.held.insert (table.slotOf key) (key, number) }

end SlotTable

end Linewise
