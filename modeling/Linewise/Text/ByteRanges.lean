namespace Linewise

structure ByteRange where
  first : Nat
  last : Nat
  deriving DecidableEq, Repr

/-- Cuts a range where blocks of `size` code points begin and end, so that each part lies within a
block or is made of whole blocks. -/
def cutAtBlocks (size : Nat) (range : Nat × Nat) : List (Nat × Nat) :=
  let (lo, hi) := range
  if lo / size = hi / size then [range]
  else
    let start := (lo + size - 1) / size * size
    let stop := (hi + 1) / size * size
    [(lo, start), (start, stop), (stop, hi + 1)].filterMap fun (first, behind) ↦
      if first < behind then some (first, behind - 1) else none

/-- The code points that are written with a leading byte and the same number of further bytes: the
first and the last of them, that number, and what is added to the leading byte. Surrogates are not
written at all. -/
def lengthClasses : List ((Nat × Nat) × Nat × Nat) := [
  ((0x0, 0x7f), 0, 0x0),
  ((0x80, 0x7ff), 1, 0xc0),
  ((0x800, 0xd7ff), 2, 0xe0),
  ((0xe000, 0xffff), 2, 0xe0),
  ((0x10000, 0x10ffff), 3, 0xf0)]

def byteRow (more mark : Nat) (range : Nat × Nat) : List ByteRange :=
  let digit (n i : Nat) : Nat := n >>> (6 * i)
  ⟨mark + digit range.1 more, mark + digit range.2 more⟩ ::
    (List.range more).reverse.map fun i ↦
      ⟨0x80 + digit range.1 i % 64, 0x80 + digit range.2 i % 64⟩

/-- How a range of code points is written in UTF-8, in their order: one row of byte ranges for each
way in which the bytes can vary independently of each other. -/
def byteRows (lo hi : Nat) : List (List ByteRange) :=
  lengthClasses.flatMap fun ((first, last), more, mark) ↦
    if max lo first ≤ min hi last then
      let parts := (List.range more).foldl
        (fun parts i ↦ parts.flatMap (cutAtBlocks (1 <<< (6 * (i + 1)))))
        [(max lo first, min hi last)]
      parts.map (byteRow more mark)
    else []

end Linewise
