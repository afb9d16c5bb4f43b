/-!
# Pattern-defeating quicksort

An in-place comparison sort that is not stable: elements that compare equal may end up in
any order, and which order they take depends on every step of the algorithm. Canonical forms
of signed documents order attributes with this sort, so the order of attributes that tie
(same namespace and local name) is part of what gets signed, and the steps below are followed
exactly:

* a range of at most 12 elements is sorted by insertion;
* after too many unbalanced partitions (the limit starts at the bit length of the size) the
  range is sorted as a heap;
* otherwise a pivot is chosen (the middle element for fewer than 8, the median of three for
  fewer than 50, else the median of three medians), a range that looks reversed is reversed,
  one that looks sorted is checked with a short insertion pass, a range whose elements are
  not below the pivot before it is split into "equal" and "greater", and any other range is
  partitioned around the pivot; the smaller side is sorted first, the larger one next;
* after an unbalanced partition, three elements are swapped with pseudo-random others
  (a xorshift generator seeded with the range's length) before the next pivot is chosen.

Every loop is bounded by the size of the range, so each function here takes the bound as an
explicit argument.
-/

namespace EInvoice.Sorting

variable {α : Type}

/-- Whether the element at `i` comes before the element at `j`. -/
def before (lt : α → α → Bool) (xs : Array α) (i j : Nat) : Bool :=
  match xs[i]?, xs[j]? with
  | some x, some y => lt x y
  | _, _ => false

/-- Move the element at `j` left while it comes before its left neighbour, not past `a`. -/
def siftLeft (lt : α → α → Bool) (a : Nat) : Nat → Array α → Array α
  | 0, xs => xs
  | j + 1, xs =>
    if a < j + 1 && before lt xs (j + 1) j then siftLeft lt a j (xs.swapIfInBounds (j + 1) j)
    else xs

/-- Sort `xs[a:b]` by insertion. -/
def insertionSort (lt : α → α → Bool) (xs : Array α) (a b : Nat) : Array α :=
  (List.range' (a + 1) (b - (a + 1))).foldl (fun xs i => siftLeft lt a i xs) xs

/-- Restore the heap `xs[first : first + hi]` below `root`, moving its element down. -/
def siftDown (lt : α → α → Bool) (hi first : Nat) : Nat → Nat → Array α → Array α
  | 0, _, xs => xs
  | fuel + 1, root, xs =>
    let child := 2 * root + 1
    if child ≥ hi then xs
    else
      let child := if child + 1 < hi && before lt xs (first + child) (first + child + 1) then child + 1
        else child
      if !before lt xs (first + root) (first + child) then xs
      else siftDown lt hi first fuel child (xs.swapIfInBounds (first + root) (first + child))

/-- Sort `xs[a:b]` as a heap: build it with the greatest element on top, then move the top
to the end one element at a time. -/
def heapSort (lt : α → α → Bool) (xs : Array α) (a b : Nat) : Array α :=
  let hi := b - a
  let built := (List.range ((hi + 1) / 2)).reverse.foldl
    (fun xs i => siftDown lt hi a hi i xs) xs
  (List.range hi).reverse.foldl
    (fun xs i => siftDown lt i a hi 0 (xs.swapIfInBounds a (a + i))) built

/-- Move `i` right while `i ≤ j` and the element at `i` comes before the pivot at `p`. -/
def skipBelow (lt : α → α → Bool) (xs : Array α) (p j : Nat) : Nat → Nat → Nat
  | 0, i => i
  | fuel + 1, i => if i ≤ j && before lt xs i p then skipBelow lt xs p j fuel (i + 1) else i

/-- Move `j` left while `i ≤ j` and the element at `j` does not come before the pivot at `p`. -/
def skipAbove (lt : α → α → Bool) (xs : Array α) (p i : Nat) : Nat → Nat → Nat
  | 0, j => j
  | fuel + 1, j => if i ≤ j && !before lt xs j p then skipAbove lt xs p i fuel (j - 1) else j

/-- The rounds of a partition around the pivot at `p`: swap the first element from the left
that does not come before the pivot with the first from the right that does. -/
def partitionRounds (lt : α → α → Bool) (p n : Nat) : Nat → Array α → Nat → Nat → Array α × Nat
  | 0, xs, _, j => (xs, j)
  | fuel + 1, xs, i, j =>
    let i := skipBelow lt xs p j n i
    let j := skipAbove lt xs p i n j
    if i > j then (xs, j)
    else partitionRounds lt p n fuel (xs.swapIfInBounds i j) (i + 1) (j - 1)

/-- Partition `xs[a:b]` around the element at `pivot`: it ends at the returned place, with
the elements before it coming before it and those after it not. Also tells whether nothing
had to move. -/
def partition (lt : α → α → Bool) (xs : Array α) (a b pivot : Nat) : Array α × Nat × Bool :=
  let xs := xs.swapIfInBounds a pivot
  let n := b - a
  let i := skipBelow lt xs a (b - 1) n (a + 1)
  let j := skipAbove lt xs a i n (b - 1)
  if i > j then (xs.swapIfInBounds j a, j, true)
  else
    let (xs, j) := partitionRounds lt a n n (xs.swapIfInBounds i j) (i + 1) (j - 1)
    (xs.swapIfInBounds j a, j, false)

/-- The rounds of a partition into elements not greater than the pivot at `a` and greater
ones. -/
def equalRounds (lt : α → α → Bool) (a n : Nat) : Nat → Array α → Nat → Nat → Array α × Nat
  | 0, xs, i, _ => (xs, i)
  | fuel + 1, xs, i, j =>
    let i := upTo n xs i j
    let j := downTo n xs i j
    if i > j then (xs, i)
    else equalRounds lt a n fuel (xs.swapIfInBounds i j) (i + 1) (j - 1)
where
  upTo : Nat → Array α → Nat → Nat → Nat
    | 0, _, i, _ => i
    | f + 1, xs, i, j => if i ≤ j && !before lt xs a i then upTo f xs (i + 1) j else i
  downTo : Nat → Array α → Nat → Nat → Nat
    | 0, _, _, j => j
    | f + 1, xs, i, j => if i ≤ j && before lt xs a j then downTo f xs i (j - 1) else j

/-- Split `xs[a:b]`, none of whose elements comes before the one at `pivot`, into those
equal to it and those greater; the greater ones start at the returned place. -/
def partitionEqual (lt : α → α → Bool) (xs : Array α) (a b pivot : Nat) : Array α × Nat :=
  let xs := xs.swapIfInBounds a pivot
  equalRounds lt a (b - a) (b - a) xs (a + 1) (b - 1)

/-- Move the element at `j` right while it comes after its right neighbour, not past `b`. -/
def siftRight (lt : α → α → Bool) (b : Nat) : Nat → Nat → Array α → Array α
  | 0, _, xs => xs
  | fuel + 1, j, xs =>
    if j < b && before lt xs j (j - 1) then siftRight lt b fuel (j + 1) (xs.swapIfInBounds j (j - 1))
    else xs

/-- Move the element at `j` left while it comes before its left neighbour, down to index 1. -/
def siftDownToOne (lt : α → α → Bool) : Nat → Array α → Array α
  | 0, xs => xs
  | j + 1, xs =>
    if before lt xs (j + 1) j then siftDownToOne lt j (xs.swapIfInBounds (j + 1) j) else xs

/-- Try to finish sorting `xs[a:b]` by fixing at most five adjacent pairs out of order (only
on ranges of at least 50); tells whether the range is sorted. -/
def partialInsertionSort (lt : α → α → Bool) (xs : Array α) (a b : Nat) : Array α × Bool :=
  go 5 xs (a + 1)
where
  /-- The next element, from `i` on, that comes before its left neighbour. -/
  nextDescent (xs : Array α) : Nat → Nat → Nat
    | 0, i => i
    | fuel + 1, i => if i < b && !before lt xs i (i - 1) then nextDescent xs fuel (i + 1) else i
  go : Nat → Array α → Nat → Array α × Bool
    | 0, xs, _ => (xs, false)
    | steps + 1, xs, i =>
      let i := nextDescent xs (b - a) i
      if i = b then (xs, true)
      else if b - a < 50 then (xs, false)
      else
        let xs := xs.swapIfInBounds i (i - 1)
        let xs := if i - a ≥ 2 then siftDownToOne lt (i - 1) xs else xs
        let xs := if b - i ≥ 2 then siftRight lt b (b - i) (i + 1) xs else xs
        go steps xs i

/-- The next state of the xorshift generator. -/
def xorshift (r : UInt64) : UInt64 :=
  let r := r ^^^ (r <<< 13)
  let r := r ^^^ (r >>> 7)
  r ^^^ (r <<< 17)

/-- The number of bits of a number. -/
def bitLength (n : Nat) : Nat := if n = 0 then 0 else Nat.log2 n + 1

/-- Swap three elements around the middle of `xs[a:b]` (when it has at least 8) with
pseudo-random others. -/
def breakPatterns (xs : Array α) (a b : Nat) : Array α :=
  let length := b - a
  if length < 8 then xs
  else
    let modulus := Nat.pow 2 (bitLength length)
    let idx := a + (length / 4) * 2 - 1
    let step (acc : Array α × UInt64) (i : Nat) : Array α × UInt64 :=
      let r := xorshift acc.2
      let other := r.toNat % modulus
      let other := if other ≥ length then other - length else other
      (acc.1.swapIfInBounds (idx - 1 + i) (a + other), r)
    ([0, 1, 2].foldl step (xs, length.toUInt64)).1

/-- What the choice of a pivot suggests about the order of a range. -/
inductive SortedHint where
  | unknown
  | increasing
  | decreasing
  deriving DecidableEq, Repr

/-- The indices `a` and `b` ordered by their elements, counting a swap when they were not. -/
def order2 (lt : α → α → Bool) (xs : Array α) (a b swaps : Nat) : Nat × Nat × Nat :=
  if before lt xs b a then (b, a, swaps + 1) else (a, b, swaps)

/-- The index of the median of the elements at `a`, `b` and `c`, and the swaps counted. -/
def median (lt : α → α → Bool) (xs : Array α) (a b c swaps : Nat) : Nat × Nat :=
  let (a, b, swaps) := order2 lt xs a b swaps
  let (b, _, swaps) := order2 lt xs b c swaps
  let (_, b, swaps) := order2 lt xs a b swaps
  (b, swaps)

/-- The index of a pivot for `xs[a:b]`, and what the comparisons made suggest. -/
def choosePivot (lt : α → α → Bool) (xs : Array α) (a b : Nat) : Nat × SortedHint :=
  let l := b - a
  let i := a + l / 4
  let j := a + l / 4 * 2
  let k := a + l / 4 * 3
  let (j, swaps) :=
    if l ≥ 8 then
      let (i, j, k, swaps) :=
        if l ≥ 50 then
          let (i, s) := median lt xs (i - 1) i (i + 1) 0
          let (j, s) := median lt xs (j - 1) j (j + 1) s
          let (k, s) := median lt xs (k - 1) k (k + 1) s
          (i, j, k, s)
        else (i, j, k, 0)
      median lt xs i j k swaps
    else (j, 0)
  if swaps = 0 then (j, .increasing)
  else if swaps = 12 then (j, .decreasing)
  else (j, .unknown)

/-- Reverse `xs[a:b]`. -/
def reverseRange (xs : Array α) (a b : Nat) : Array α :=
  (List.range ((b - a) / 2)).foldl (fun xs t => xs.swapIfInBounds (a + t) (b - 1 - t)) xs

/-- Sort `xs[a:b]`, with the number of unbalanced partitions still allowed and whether the
last partition was balanced and found the range already partitioned. -/
def pdq (lt : α → α → Bool) : Nat → Array α → Nat → Nat → Nat → Bool → Bool → Array α
  | 0, xs, _, _, _, _, _ => xs
  | fuel + 1, xs, a, b, limit, wasBalanced, wasPartitioned =>
    let length := b - a
    if length ≤ 12 then insertionSort lt xs a b
    else if limit = 0 then heapSort lt xs a b
    else
      let (xs, limit) := if wasBalanced then (xs, limit) else (breakPatterns xs a b, limit - 1)
      let (pivot, hint) := choosePivot lt xs a b
      let (xs, pivot, hint) :=
        if hint = .decreasing then (reverseRange xs a b, (b - 1) - (pivot - a), SortedHint.increasing)
        else (xs, pivot, hint)
      let (xs, done) :=
        if wasBalanced && wasPartitioned && hint = .increasing then partialInsertionSort lt xs a b
        else (xs, false)
      if done then xs
      else if a > 0 && !before lt xs (a - 1) pivot then
        let (xs, mid) := partitionEqual lt xs a b pivot
        pdq lt fuel xs mid b limit wasBalanced wasPartitioned
      else
        let (xs, mid, alreadyPartitioned) := partition lt xs a b pivot
        let threshold := length / 8
        if mid - a < b - mid then
          let xs := pdq lt fuel xs a mid limit true true
          pdq lt fuel xs (mid + 1) b limit (mid - a ≥ threshold) alreadyPartitioned
        else
          let xs := pdq lt fuel xs (mid + 1) b limit true true
          pdq lt fuel xs a mid limit (b - mid ≥ threshold) alreadyPartitioned

/-- Sort a list with pattern-defeating quicksort, `lt` telling which element comes first. -/
def pdqSort (lt : α → α → Bool) (xs : List α) : List α :=
  let n := xs.length
  if n ≤ 1 then xs
  else (pdq lt (n + 1) xs.toArray 0 n (bitLength n) true true).toList

theorem pdqSort_nil (lt : α → α → Bool) : pdqSort lt [] = [] := rfl

example : pdqSort (fun a b => decide (a < b)) [3, 1, 2] = [1, 2, 3] := by decide

end EInvoice.Sorting
