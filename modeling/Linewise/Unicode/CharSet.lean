namespace Linewise

/-- Membership of `n`, given membership below the first edge. -/
def insideAt : Bool → List Nat → Nat → Bool
  | inside, [], _ => inside
  | inside, edge :: edges, n => if edge ≤ n then insideAt (!inside) edges n else inside

def edgeBetween (outer inner : Bool) (edge : Nat) (edges : List Nat) : List Nat :=
  if outer = inner then edges else edge :: edges

/-- The edges of the set that `op` makes of two sets, given membership of both below the first
edges. -/
def mergeEdges (op : Bool → Bool → Bool) : Bool → Bool → List Nat → List Nat → List Nat
  | _, _, [], [] => []
  | p, q, x :: xs, [] => edgeBetween (op p q) (op (!p) q) x (mergeEdges op (!p) q xs [])
  | p, q, [], y :: ys => edgeBetween (op p q) (op p (!q)) y (mergeEdges op p (!q) [] ys)
  | p, q, x :: xs, y :: ys =>
    if x < y then edgeBetween (op p q) (op (!p) q) x (mergeEdges op (!p) q xs (y :: ys))
    else if y < x then edgeBetween (op p q) (op p (!q)) y (mergeEdges op p (!q) (x :: xs) ys)
    else edgeBetween (op p q) (op (!p) (!q)) x (mergeEdges op (!p) (!q) xs ys)
termination_by _ _ xs ys => xs.length + ys.length

theorem insideAt_eq_of_lt {inside : Bool} {edges : List Nat} {n : Nat}
    (h : ∀ e ∈ edges, n < e) : insideAt inside edges n = inside := by
  cases edges with
  | nil => rfl
  | cons e es =>
    have he : ¬ e ≤ n := Nat.not_le.2 (h e (by simp))
    simp [insideAt, he]

theorem mem_edgeBetween {outer inner : Bool} {edge z : Nat} {edges : List Nat}
    (h : z ∈ edgeBetween outer inner edge edges) : z = edge ∨ z ∈ edges := by
  unfold edgeBetween at h
  split at h
  · exact .inr h
  · simpa using h

theorem mem_mergeEdges (op : Bool → Bool → Bool) (p q : Bool) (xs ys : List Nat) {z : Nat}
    (h : z ∈ mergeEdges op p q xs ys) : z ∈ xs ∨ z ∈ ys := by
  fun_induction mergeEdges op p q xs ys with
  | case1 => simp at h
  | case2 p q x xs ih => grind [mem_edgeBetween]
  | case3 p q y ys ih => grind [mem_edgeBetween]
  | case4 p q x xs y ys hlt ih => grind [mem_edgeBetween]
  | case5 p q x xs y ys hge hlt ih => grind [mem_edgeBetween]
  | case6 p q x xs y ys hge hle ih => grind [mem_edgeBetween]

theorem pairwise_edgeBetween {outer inner : Bool} {edge : Nat} {edges : List Nat}
    (hsorted : edges.Pairwise (· < ·)) (hlt : ∀ e ∈ edges, edge < e) :
    (edgeBetween outer inner edge edges).Pairwise (· < ·) := by
  unfold edgeBetween
  split
  · exact hsorted
  · exact List.pairwise_cons.2 ⟨hlt, hsorted⟩

theorem pairwise_mergeEdges (op : Bool → Bool → Bool) (p q : Bool) (xs ys : List Nat)
    (hxs : xs.Pairwise (· < ·)) (hys : ys.Pairwise (· < ·)) :
    (mergeEdges op p q xs ys).Pairwise (· < ·) := by
  fun_induction mergeEdges op p q xs ys with
  | case1 => simp
  | case2 p q x xs ih =>
    obtain ⟨hx, hxs⟩ := List.pairwise_cons.1 hxs
    exact pairwise_edgeBetween (ih hxs hys) fun e he ↦ by
      have := mem_mergeEdges _ _ _ _ _ he
      grind
  | case3 p q y ys ih =>
    obtain ⟨hy, hys⟩ := List.pairwise_cons.1 hys
    exact pairwise_edgeBetween (ih hxs hys) fun e he ↦ by
      have := mem_mergeEdges _ _ _ _ _ he
      grind
  | case4 p q x xs y ys hlt ih =>
    have hx := List.pairwise_cons.1 hxs
    have hy := List.pairwise_cons.1 hys
    exact pairwise_edgeBetween (ih hx.2 hys) fun e he ↦ by
      have := mem_mergeEdges _ _ _ _ _ he
      grind
  | case5 p q x xs y ys hge hlt ih =>
    have hx := List.pairwise_cons.1 hxs
    have hy := List.pairwise_cons.1 hys
    exact pairwise_edgeBetween (ih hxs hy.2) fun e he ↦ by
      have := mem_mergeEdges _ _ _ _ _ he
      grind
  | case6 p q x xs y ys hge hle ih =>
    have hx := List.pairwise_cons.1 hxs
    have hy := List.pairwise_cons.1 hys
    exact pairwise_edgeBetween (ih hx.2 hy.2) fun e he ↦ by
      have := mem_mergeEdges _ _ _ _ _ he
      grind

/-- A set of code points, by the increasing list of those at which membership changes. So a long
range costs two numbers, and the set operations are merges. -/
structure CharSet where
  edges : List Nat
  sorted : edges.Pairwise (· < ·)
  deriving DecidableEq

namespace CharSet

def containsNat (set : CharSet) (n : Nat) : Bool := insideAt false set.edges n

def contains (set : CharSet) (c : Char) : Bool := set.containsNat c.toNat

def empty : CharSet := ⟨[], .nil⟩

def all : CharSet := ⟨[0], by simp⟩

/-- The set that holds `n` when `op` says so of membership in the two sets. What is in neither set
must not be asked for: `op false false` is `false`. -/
def combine (op : Bool → Bool → Bool) (a b : CharSet) : CharSet :=
  ⟨mergeEdges op false false a.edges b.edges,
    pairwise_mergeEdges op false false a.edges b.edges a.sorted b.sorted⟩

def union (a b : CharSet) : CharSet := combine or a b

def intersect (a b : CharSet) : CharSet := combine and a b

def difference (a b : CharSet) : CharSet := combine (fun p q ↦ p && !q) a b

def exclusive (a b : CharSet) : CharSet := combine xor a b

def complement (set : CharSet) : CharSet := exclusive set all

theorem pairwise_range {lo hi : Nat} (h : lo ≤ hi) : [lo, hi + 1].Pairwise (· < ·) := by
  simp only [List.pairwise_cons, List.mem_singleton, forall_eq]
  exact ⟨Nat.lt_succ_of_le h, by simp⟩

def range (lo hi : Nat) : CharSet :=
  if h : lo ≤ hi then ⟨[lo, hi + 1], pairwise_range h⟩ else empty

def single (c : Char) : CharSet := range c.toNat c.toNat

/-- The set with the code points from `lo` to `hi` added. A range below all others goes in front at
no cost. -/
def insertRange (lo hi : Nat) (set : CharSet) : CharSet :=
  match h : set.edges with
  | [] => range lo hi
  | e :: es =>
    if hlt : lo ≤ hi ∧ hi + 1 < e then
      ⟨lo :: (hi + 1) :: e :: es, by have := h ▸ set.sorted; simp at this ⊢; grind⟩
    else if heq : lo ≤ hi ∧ hi + 1 = e then
      ⟨lo :: es, by have := h ▸ set.sorted; simp at this ⊢; grind⟩
    else union (range lo hi) set

def ofRanges (ranges : List (Nat × Nat)) : CharSet :=
  ranges.foldr (fun (lo, hi) set ↦ insertRange lo hi set) empty

def characters : CharSet := ofRanges [(0x0, 0xd7ff), (0xe000, 0x10ffff)]

def isEmpty (set : CharSet) : Bool := set.edges.isEmpty

def isAscii (set : CharSet) : Bool :=
  set.edges.length % 2 == 0 && set.edges.all (· ≤ 0x80)

def isSingle (set : CharSet) : Bool :=
  match set.edges with
  | [first, behind] => behind == first + 1
  | _ => false

def ranges (set : CharSet) : List (Nat × Nat) := pairs set.edges
where
  pairs : List Nat → List (Nat × Nat)
    | lo :: behind :: edges => (lo, behind - 1) :: pairs edges
    | [lo] => [(lo, 0x10ffff)]
    | [] => []

theorem insideAt_edgeBetween {outer inner : Bool} {edge n : Nat} {edges : List Nat}
    (h : ∀ e ∈ edges, edge < e) :
    insideAt outer (edgeBetween outer inner edge edges) n =
      if edge ≤ n then insideAt inner edges n else outer := by
  unfold edgeBetween
  by_cases hsame : outer = inner
  · subst hsame
    by_cases hle : edge ≤ n
    · simp [hle]
    · have hlt : ∀ e ∈ edges, n < e := fun e he ↦ by have := h e he; omega
      simp [hle, insideAt_eq_of_lt hlt]
  · have hinner : inner = !outer := by cases outer <;> cases inner <;> simp_all
    simp [hinner, insideAt]

theorem insideAt_mergeEdges (op : Bool → Bool → Bool) (p q : Bool) (xs ys : List Nat) (n : Nat)
    (hxs : xs.Pairwise (· < ·)) (hys : ys.Pairwise (· < ·)) :
    insideAt (op p q) (mergeEdges op p q xs ys) n = op (insideAt p xs n) (insideAt q ys n) := by
  fun_induction mergeEdges op p q xs ys with
  | case1 p q => simp [insideAt]
  | case2 p q x xs ih =>
    have hx := List.pairwise_cons.1 hxs
    rw [insideAt_edgeBetween fun e he ↦ by have := mem_mergeEdges _ _ _ _ _ he; grind]
    simp only [insideAt, ih hx.2 hys]
    grind
  | case3 p q y ys ih =>
    have hy := List.pairwise_cons.1 hys
    rw [insideAt_edgeBetween fun e he ↦ by have := mem_mergeEdges _ _ _ _ _ he; grind]
    simp only [insideAt, ih hxs hy.2]
    grind
  | case4 p q x xs y ys hlt ih =>
    have hx := List.pairwise_cons.1 hxs
    have hy := List.pairwise_cons.1 hys
    rw [insideAt_edgeBetween fun e he ↦ by have := mem_mergeEdges _ _ _ _ _ he; grind]
    simp only [insideAt, ih hx.2 hys]
    grind
  | case5 p q x xs y ys hge hlt ih =>
    have hx := List.pairwise_cons.1 hxs
    have hy := List.pairwise_cons.1 hys
    rw [insideAt_edgeBetween fun e he ↦ by have := mem_mergeEdges _ _ _ _ _ he; grind]
    simp only [insideAt, ih hxs hy.2]
    grind
  | case6 p q x xs y ys hge hle ih =>
    have hx := List.pairwise_cons.1 hxs
    have hy := List.pairwise_cons.1 hys
    rw [insideAt_edgeBetween fun e he ↦ by have := mem_mergeEdges _ _ _ _ _ he; grind]
    simp only [insideAt, ih hx.2 hy.2]
    grind

theorem containsNat_combine (op : Bool → Bool → Bool) (h : op false false = false)
    (a b : CharSet) (n : Nat) :
    (combine op a b).containsNat n = op (a.containsNat n) (b.containsNat n) := by
  have := insideAt_mergeEdges op false false a.edges b.edges n a.sorted b.sorted
  rw [h] at this
  exact this

end CharSet

end Linewise
