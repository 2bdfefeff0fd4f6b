namespace Linewise

structure Decimal where
  digits : Nat
  exponent : Int
  deriving DecidableEq, Repr

def Decimal.trim (x : Decimal) : Decimal :=
  if x.digits ≠ 0 ∧ x.digits % 10 = 0 then Decimal.trim ⟨x.digits / 10, x.exponent + 1⟩ else x
termination_by x.digits
decreasing_by omega

structure Ratio where
  num : Nat
  den : Nat

def Ratio.scaled (n base : Nat) (exponent : Int) : Ratio :=
  ⟨n * Nat.pow base exponent.toNat, Nat.pow base (-exponent).toNat⟩

/-- The power of ten just above the number: the least `k` with `number < 10 ^ k`. -/
def Ratio.magnitude (r : Ratio) : Int :=
  if r.num < r.den then 1 - ((Nat.toDigits 10 ((r.den - 1) / r.num)).length : Int)
  else (Nat.toDigits 10 (r.num / r.den)).length

/-- A binary floating point number `mantissa * 2 ^ exponent`. The gap to the number below is half
of the one above when `narrowBelow`. -/
structure BinaryFloat where
  mantissa : Nat
  exponent : Int
  narrowBelow : Bool

namespace BinaryFloat

/-- The multiple of `10 ^ grid` that is nearest to the number, of those that are nearer to it than
to any other floating point number, if there is one. A number just between two others belongs to the
one with the even mantissa, and of two equally near multiples the even one is taken. -/
def onGrid? (x : BinaryFloat) (grid : Int) : Option Decimal :=
  let quarters := x.exponent - 2
  let units (n : Nat) : Nat := n * Nat.pow 2 quarters.toNat * Nat.pow 10 (-grid).toNat
  let unit := Nat.pow 2 (-quarters).toNat * Nat.pow 10 grid.toNat
  let value := units (4 * x.mantissa)
  let low := units (4 * x.mantissa - if x.narrowBelow then 1 else 2)
  let high := units (4 * x.mantissa + 2)
  let reads (d : Nat) : Bool :=
    if x.mantissa % 2 = 0 then low ≤ d * unit && d * unit ≤ high
    else low < d * unit && d * unit < high
  let below := value / unit
  let above := below + 1
  let belowFirst :=
    let left := value - below * unit
    let right := above * unit - value
    left < right || (left == right && below % 2 == 0)
  let choices := if belowFirst then [below, above] else [above, below]
  (choices.find? reads).map (⟨·, grid⟩)

/-- The decimal with the fewest digits that reads back as the number. Seventeen digits always
suffice. -/
def shortest (x : BinaryFloat) : Decimal :=
  let top := (Ratio.scaled x.mantissa 2 x.exponent).magnitude
  let hits := (List.range 17).findSome? fun (digits : Nat) ↦ x.onGrid? (top - (digits + 1 : Nat))
  (hits.getD ⟨0, 0⟩).trim

/-- The number that a word of 64 bits stands for, without its sign, if it is neither zero nor
infinite. -/
def ofBits? (bits : UInt64) : Option BinaryFloat :=
  let fraction : Nat := bits.toNat % (1 <<< 52)
  let field : Nat := bits.toNat >>> 52 % (1 <<< 11)
  if field = 2047 ∨ (field = 0 ∧ fraction = 0) then none
  else if field = 0 then some ⟨fraction, -1074, false⟩
  else some ⟨1 <<< 52 + fraction, (field : Int) - 1075, fraction = 0 ∧ 1 < field⟩

end BinaryFloat

end Linewise
