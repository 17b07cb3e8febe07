import Mathlib.Data.List.Sort

/-!
The positions of some elements of a row without repetitions. They are a run of
consecutive numbers exactly when the elements are, up to their order, a
contiguous block of the row.
-/

namespace DispenserHub.Blocks

variable {α : Type*}

/-- The block of `k` elements from a position on. -/
def block (row : List α) (low k : ℕ) : List α := (row.drop low).take k

theorem block_length {row : List α} {low k : ℕ} (fits : low + k ≤ row.length) : (block row low k).length = k := by
  simp only [block, List.length_take, List.length_drop]
  omega

theorem block_getElem {row : List α} {low k i : ℕ} (inside : i < (block row low k).length) :
    (block row low k)[i]? = row[low + i]? := by
  simp only [block, List.length_take, List.length_drop] at inside
  simp only [block, List.getElem?_take, List.getElem?_drop]
  rw [if_pos (by omega)]

theorem block_contiguous (row : List α) (low k : ℕ) : block row low k <:+: row :=
  (List.take_prefix k _).isInfix.trans (List.drop_suffix low row).isInfix

theorem contiguous_block {row part : List α} (contiguous : part <:+: row) :
    ∃ low, low + part.length ≤ row.length ∧ part = block row low part.length := by
  obtain ⟨before, after, rfl⟩ := contiguous
  refine ⟨before.length, by simp, ?_⟩
  simp [block]

/-- Different blocks of one length are no permutations of one another: the
    first element of the earlier is not in the later. -/
theorem block_not_perm {row : List α} (nodup : row.Nodup) {low high k : ℕ} (filled : 1 ≤ k) (less : low < high)
    (fits : high + k ≤ row.length) : ¬ (block row low k).Perm (block row high k) := by
  intro perm
  have short : low + k ≤ row.length := by omega
  have size := block_length short
  have first : (block row low k)[0]? = row[low]? := block_getElem (by omega)
  rw [List.getElem?_eq_getElem (show low < row.length by omega)] at first
  obtain ⟨j, at_j⟩ := List.mem_iff_getElem?.mp (perm.subset (List.mem_of_getElem? first))
  have inside := (List.getElem?_eq_some_iff.mp at_j).1
  rw [block_getElem inside] at at_j
  obtain ⟨bound, same⟩ := List.getElem?_eq_some_iff.mp at_j
  have equal := (nodup.getElem_inj_iff).mp same
  omega

theorem filterMap_range' (row : List α) (low k : ℕ) :
    (List.range' low k).filterMap (row[·]?) = block row low k := by
  induction k generalizing low with
  | zero => rfl
  | succ k ih =>
    rw [List.range'_succ, List.filterMap_cons, ih]
    by_cases inside : low < row.length
    · rw [List.getElem?_eq_getElem inside, block, block, List.drop_eq_getElem_cons inside, List.take_succ_cons]
    · rw [List.getElem?_eq_none (by omega)]
      simp [block, List.drop_eq_nil_of_le (show row.length ≤ low by omega),
        List.drop_eq_nil_of_le (show row.length ≤ low + 1 by omega)]

variable [DecidableEq α]

theorem perm_block_of_positions {row elements : List α} (known : ∀ a ∈ elements, a ∈ row) {low k : ℕ}
    (positions : (elements.map row.idxOf).Perm (List.range' low k)) : elements.Perm (block row low k) := by
  have back : (elements.map row.idxOf).filterMap (row[·]?) = elements := by
    rw [List.filterMap_map]
    calc elements.filterMap ((row[·]?) ∘ row.idxOf)
        = elements.filterMap some := by
          apply List.filterMap_congr
          intro a member
          exact List.getElem?_idxOf (known a member)
      _ = elements := List.filterMap_some
  rw [← filterMap_range', ← back]
  exact positions.filterMap _

theorem positions_of_perm_block {row elements : List α} (nodup : row.Nodup) {low k : ℕ}
    (fits : low + k ≤ row.length) (perm : elements.Perm (block row low k)) :
    (elements.map row.idxOf).Perm (List.range' low k) := by
  refine (perm.map row.idxOf).trans (.of_eq ?_)
  apply List.ext_getElem
  · rw [List.length_map, block_length fits, List.length_range']
  · intro i _ inside
    rw [List.length_range'] at inside
    simp only [block, List.getElem_map, List.getElem_take, List.getElem_drop, List.getElem_range', Nat.one_mul]
    exact nodup.idxOf_getElem (low + i) (by omega)

theorem insertionSort_perm_range' {numbers : List ℕ} {low k : ℕ} (perm : numbers.Perm (List.range' low k)) :
    numbers.insertionSort (· ≤ ·) = List.range' low k :=
  ((List.perm_insertionSort _ numbers).trans perm).eq_of_pairwise' (List.pairwise_insertionSort _ numbers)
    List.pairwise_le_range'

end DispenserHub.Blocks
