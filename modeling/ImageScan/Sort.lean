import Mathlib.Data.List.Perm.Basic
import Mathlib.Data.List.Pairwise

/-! `sort.Slice`, the library sort the scheduler calls twice: on node
candidates and on pending images. Its algorithm (pdqsort since Go 1.19) is
library code; what the code may rely on is its contract, `SortSlice`: the
result is a rearrangement of the input, sorted whenever `less` is a transitive
ordering in the sense of `sort.Interface`. Every result proved for an arbitrary
`SortSlice` holds for Go's sort. On at most twelve elements every Go release
sorts by `insertionSort_func`; `insertionSort` is that loop, and it meets the
contract. -/
namespace ImageScan

/-- What `sort.Interface` asks of `Less`: irreflexive, transitive, and with
"not less" transitive too. -/
structure TransitiveOrdering {α : Type} (less : α → α → Bool) : Prop where
  irrefl : ∀ a, less a a = false
  trans : ∀ a b c, less a b = true → less b c = true → less a c = true
  not_trans : ∀ a b c, less a b = false → less b c = false → less a c = false

/-- The contract of `sort.Slice(x, less)`. -/
structure SortSlice where
  sort : {α : Type} → (α → α → Bool) → List α → List α
  perm : ∀ {α : Type} (less : α → α → Bool) (xs : List α), (sort less xs).Perm xs
  sorted : ∀ {α : Type} (less : α → α → Bool), TransitiveOrdering less →
    ∀ xs, (sort less xs).Pairwise fun a b => less b a = false

namespace SortSlice

theorem mem_sort (s : SortSlice) {α : Type} (less : α → α → Bool) (xs : List α) (x : α) :
    x ∈ s.sort less xs ↔ x ∈ xs :=
  (s.perm less xs).mem_iff

theorem sort_eq_nil (s : SortSlice) {α : Type} (less : α → α → Bool) (xs : List α) :
    s.sort less xs = [] ↔ xs = [] :=
  ⟨fun h => List.nil_perm.1 (h ▸ s.perm less xs), fun h => List.perm_nil.1 (h ▸ s.perm less xs)⟩

end SortSlice

/-- The inner loop of `insertionSort_func`, on the sorted prefix read from
its right end: the new element moves left past every element it is `less`
than, and stops at the first it is not. -/
def insertRev {α : Type} (less : α → α → Bool) (x : α) : List α → List α
  | [] => [x]
  | y :: ys => if less x y then y :: insertRev less x ys else x :: y :: ys

/-- `insertionSort_func(data, 0, len(data))`. -/
def insertionSort {α : Type} (less : α → α → Bool) (xs : List α) : List α :=
  (xs.foldl (fun rev x => insertRev less x rev) []).reverse

variable {α : Type} {less : α → α → Bool}

theorem insertRev_perm (x : α) (ys : List α) : (insertRev less x ys).Perm (x :: ys) := by
  induction ys with
  | nil => rfl
  | cons y ys ih =>
    unfold insertRev
    split
    · exact (ih.cons y).trans (List.Perm.swap x y ys)
    · rfl

private theorem foldl_insertRev_perm (xs acc : List α) :
    (xs.foldl (fun rev x => insertRev less x rev) acc).Perm (xs.reverse ++ acc) := by
  induction xs generalizing acc with
  | nil => rfl
  | cons x xs ih =>
    simp only [List.foldl_cons, List.reverse_cons, List.append_assoc, List.singleton_append]
    exact (ih _).trans (List.Perm.append_left _ (insertRev_perm x acc))

theorem insertionSort_perm (xs : List α) : (insertionSort less xs).Perm xs := by
  rw [insertionSort]
  exact (List.reverse_perm _).trans ((foldl_insertRev_perm xs []).trans (by simp [List.reverse_perm]))

/-- The sorted prefix, read from the right, has no element `less` than one
standing further left in it. -/
theorem insertRev_sorted (order : TransitiveOrdering less) (x : α) {ys : List α}
    (sorted : ys.Pairwise fun a b => less a b = false) :
    (insertRev less x ys).Pairwise fun a b => less a b = false := by
  induction ys with
  | nil => exact List.pairwise_singleton _ x
  | cons y ys ih =>
    obtain ⟨head, tail⟩ := List.pairwise_cons.1 sorted
    unfold insertRev
    split
    · rename_i moves
      refine List.pairwise_cons.2 ⟨fun z mem => ?_, ih tail⟩
      rcases List.mem_cons.1 ((insertRev_perm x ys).mem_iff.1 mem) with rfl | inside
      · cases back : less y z
        · rfl
        · simpa [order.irrefl] using order.trans z y z moves back
      · exact head z inside
    · rename_i stays
      have stays : less x y = false := by simpa using stays
      refine List.pairwise_cons.2 ⟨fun z mem => ?_, sorted⟩
      rcases List.mem_cons.1 mem with rfl | inside
      · exact stays
      · exact order.not_trans x y z stays (head z inside)

private theorem foldl_insertRev_sorted (order : TransitiveOrdering less) (xs : List α) {acc : List α}
    (sorted : acc.Pairwise fun a b => less a b = false) :
    (xs.foldl (fun rev x => insertRev less x rev) acc).Pairwise fun a b => less a b = false := by
  induction xs generalizing acc with
  | nil => exact sorted
  | cons x xs ih => exact ih (insertRev_sorted order x sorted)

theorem insertionSort_sorted (order : TransitiveOrdering less) (xs : List α) :
    (insertionSort less xs).Pairwise fun a b => less b a = false := by
  rw [insertionSort, List.pairwise_reverse]
  exact foldl_insertRev_sorted order xs List.Pairwise.nil

/-- Go's insertion sort, which is `sort.Slice` on slices of up to twelve
elements, meets the contract. -/
def goInsertionSort : SortSlice where
  sort := insertionSort
  perm _ := insertionSort_perm
  sorted _ order := insertionSort_sorted order

end ImageScan
