import Linewise.Json.Fault
import Linewise.Json.Source

namespace Linewise.Json

structure NumberShape where
  negative : Bool
  whole : List Nat
  fraction? : Option (List Nat)
  exponent? : Option (Bool × List Nat)

def digit? (unit : Option Char) : Option Nat :=
  match unit with
  | some c => if c.isDigit then some (c.toNat - '0'.toNat) else none
  | none => none

def readDigits : Source → List Nat × Source
  | [] => ([], [])
  | unit :: rest =>
    match digit? unit with
    | some digit =>
      let (digits, rest) := readDigits rest
      (digit :: digits, rest)
    | none => ([], unit :: rest)

def readSomeDigits (atEnd : Fault) (source : Source) : Except Fault (List Nat × Source) :=
  match readDigits source with
  | ([], []) => .error atEnd
  | ([], _) => .error .invalidNumber
  | read => .ok read

/-- The digits before the point. A zero stands there alone or not at the start. -/
def readWhole (atEnd : Fault) (source : Source) : Except Fault (List Nat × Source) := do
  let (digits, rest) ← readSomeDigits atEnd source
  match digits with
  | 0 :: _ :: _ => .error .invalidNumber
  | digits => .ok (digits, rest)

def readFraction (atEnd : Fault) : Source → Except Fault (Option (List Nat) × Source)
  | some '.' :: rest => do
    let (digits, rest) ← readSomeDigits atEnd rest
    .ok (some digits, rest)
  | rest => .ok (none, rest)

/-- The exponent and its sign, which is `true` if it is negative. -/
def readExponent (atEnd : Fault) (source : Source) :
    Except Fault (Option (Bool × List Nat) × Source) :=
  let signed (rest : Source) : Except Fault (Option (Bool × List Nat) × Source) := do
    let (negative, rest) :=
      match rest with
      | some '-' :: rest => (true, rest)
      | some '+' :: rest => (false, rest)
      | rest => (false, rest)
    let (digits, rest) ← readSomeDigits atEnd rest
    .ok (some (negative, digits), rest)
  match source with
  | some 'e' :: rest => signed rest
  | some 'E' :: rest => signed rest
  | rest => .ok (none, rest)

def readShape (atEnd : Fault) (source : Source) : Except Fault (NumberShape × Source) := do
  let (negative, rest) :=
    match source with
    | some '-' :: rest => (true, rest)
    | rest => (false, rest)
  let (whole, rest) ← readWhole atEnd rest
  let (fraction?, rest) ← readFraction atEnd rest
  let (exponent?, rest) ← readExponent atEnd rest
  .ok (⟨negative, whole, fraction?, exponent?⟩, rest)

/-- Whole numbers that fit in 64 bits are exact. All others are floating point numbers, of which
only as many digits count as fit in 64 bits. -/
inductive Number where
  | integer (value : Int)
  | float (value : Float)

def Number.found : Number → Found
  | integer value => .integer value
  | float value => .float value

/-- Appends digits to a number while it fits in 64 bits, and gives the digits that are left. -/
def absorb : Nat → List Nat → Nat × List Nat
  | n, [] => (n, [])
  | n, digit :: digits =>
    if 10 * n + digit < 1 <<< 64 then absorb (10 * n + digit) digits else (n, digit :: digits)

def powerOfTen (exponent : Nat) : Float := Float.ofScientific 1 false exponent

/-- The floating point number `x * 10 ^ exponent`, by one rounded multiplication or by rounded
divisions. -/
def scaleFloat (x : Float) (exponent : Int) : Except Fault Float :=
  if exponent.natAbs ≤ 308 then
    if 0 ≤ exponent then
      let product := x * powerOfTen exponent.toNat
      if product.isInf then .error .numberOutOfRange else .ok product
    else .ok (x / powerOfTen (-exponent).toNat)
  else if x == 0 then .ok x
  else if 0 ≤ exponent then .error .numberOutOfRange
  else scaleFloat (x / powerOfTen 308) (exponent + 308)
termination_by exponent.natAbs
decreasing_by omega

def digitsValue (digits : List Nat) : Nat := digits.foldl (fun n digit ↦ 10 * n + digit) 0

/-- The magnitude of a number that is no exact integer. An exponent beyond 31 bits makes it infinite
or zero. -/
def NumberShape.magnitude (shape : NumberShape) : Except Fault Float :=
  let (whole, dropped) := absorb 0 shape.whole
  let fraction := shape.fraction?.getD []
  let (significand, ignored) := absorb whole fraction
  let exponent : Int := dropped.length - (fraction.length - ignored.length)
  let x := significand.toUInt64.toFloat
  match shape.exponent? with
  | none => scaleFloat x exponent
  | some (negative, digits) =>
    let written := digitsValue digits
    if written < 1 <<< 31 then
      scaleFloat x (if negative then exponent - written else exponent + written)
    else if significand ≠ 0 ∧ !negative then .error .numberOutOfRange
    else .ok 0

/-- The number that a shape writes. Negative integers go down to `-2 ^ 63`, and `-0` is a floating
point number. -/
def NumberShape.number (shape : NumberShape) : Except Fault Number :=
  let float : Except Fault Number :=
    shape.magnitude.map fun x ↦ .float (if shape.negative then -x else x)
  match shape.fraction?, shape.exponent?, absorb 0 shape.whole with
  | none, none, (n, []) =>
    if !shape.negative then .ok (.integer n)
    else if 0 < n ∧ n ≤ 1 <<< 63 then .ok (.integer (-n))
    else float
  | _, _, _ => float

def readNumber (source : Source) : Except Fault (Number × Source) := do
  let (shape, rest) ← readShape .endInValue source
  let number ← shape.number
  .ok (number, rest)

end Linewise.Json
