import DispenserHub.Blocks
import DispenserHub.Messages

/-!
`are_adjacent` of `schedule/scheduler.py`: the indices of the machines in a row
of the layout, sorted, against the range from the least to the greatest.
-/

namespace DispenserHub.Adjacency
open Messages Blocks

/-- The body of the `try` for one row; none is a `ValueError`, of `row.index`
    on a missing machine or of `min` on no index. -/
def adjacent_in (row machine_ids : List Int) : Option Bool := do
  let indices ← machine_ids.mapM (row.idxOf? ·)
  let least ← indices.min?
  let greatest ← indices.max?
  return indices.insertionSort (· ≤ ·) = List.range' least (greatest + 1 - least)

/-- `are_adjacent` on a list of machines, for any layout. -/
def are_adjacent (layout : List (List Int)) (machine_ids : List Int) : Bool :=
  layout.any fun row => adjacent_in row machine_ids = some true

/-- The body of the `try` as it runs, with what it raises. -/
def try_row (row machine_ids : List Int) : Except PyError Bool := do
  let indices ← machine_ids.mapM fun mid => match row.idxOf? mid with
    | some i => .ok i
    | none => .error .ValueError
  match indices.min?, indices.max? with
  | some least, some greatest =>
    return indices.insertionSort (· ≤ ·) = List.range' least (greatest + 1 - least)
  | _, _ => .error .ValueError

/-- The loop over the rows, which goes on after a `ValueError` and after no other exception. -/
def try_rows (machine_ids : List Int) : List (List Int) → Except PyError Bool
  | [] => .ok false
  | row :: rest =>
    match try_row row machine_ids with
    | .ok true => .ok true
    | .ok false => try_rows machine_ids rest
    | .error .ValueError => try_rows machine_ids rest
    | .error e => .error e

example : are_adjacent MACHINE_LAYOUT [4, 3, 5] = true := by decide
example : are_adjacent MACHINE_LAYOUT [5, 6] = false := by decide

theorem indices_eq_some_iff (row machine_ids : List Int) (indices : List ℕ) :
    machine_ids.mapM (row.idxOf? ·) = some indices ↔
      (∀ id ∈ machine_ids, id ∈ row) ∧ indices = machine_ids.map row.idxOf := by
  induction machine_ids generalizing indices with
  | nil => simp [eq_comm]
  | cons id rest ih =>
    cases here : row.idxOf? id with
    | none =>
      have unknown : id ∉ row := List.idxOf?_eq_none_iff.mp here
      simp [here, unknown]
    | some i =>
      have known : id ∈ row := List.isSome_idxOf?.mp (by rw [here]; rfl)
      have index : row.idxOf id = i := by simp [List.idxOf_eq_getD_idxOf?, here]
      simp only [List.mapM_cons, here, Option.bind_eq_bind, Option.bind_some, Option.bind_eq_some_iff, ih,
        Option.pure_def, Option.some.injEq, List.map_cons, index, List.forall_mem_cons, known, true_and]
      constructor
      · rintro ⟨_, ⟨later, rfl⟩, rfl⟩
        exact ⟨later, rfl⟩
      · rintro ⟨later, rfl⟩
        exact ⟨_, ⟨later, rfl⟩, rfl⟩

/-- In a row without repetitions, some machines are adjacent when there are any
    and they are a block of the row up to their order. -/
theorem adjacent_in_iff {row : List Int} (nodup : row.Nodup) (machine_ids : List Int) :
    adjacent_in row machine_ids = some true ↔
      machine_ids ≠ [] ∧ ∃ part, part <:+: row ∧ machine_ids.Perm part := by
  simp only [adjacent_in, Option.bind_eq_bind, Option.bind_eq_some_iff, Option.pure_def, Option.some.injEq,
    indices_eq_some_iff, decide_eq_true_eq]
  constructor
  · rintro ⟨_, ⟨known, rfl⟩, least, isLeast, greatest, _, sorted⟩
    refine ⟨?_, _, block_contiguous row least (greatest + 1 - least), ?_⟩
    · rintro rfl
      simp at isLeast
    · apply perm_block_of_positions known
      rw [← sorted]
      exact (List.perm_insertionSort _ _).symm
  · rintro ⟨some_id, part, contiguous, perm⟩
    obtain ⟨low, fits, shape⟩ := contiguous_block contiguous
    have filled : 1 ≤ part.length := by
      rw [← perm.length_eq]
      exact List.length_pos_of_ne_nil some_id
    rw [shape] at perm
    have positions := positions_of_perm_block nodup fits perm
    have inside (i : ℕ) : i ∈ machine_ids.map row.idxOf ↔ low ≤ i ∧ i < low + part.length := by
      rw [positions.mem_iff, List.mem_range'_1]
    refine ⟨_, ⟨fun id member => contiguous.subset (shape ▸ perm.subset member), rfl⟩, low, ?_,
      low + part.length - 1, ?_, ?_⟩
    · rw [List.min?_eq_some_iff]
      exact ⟨(inside low).mpr ⟨le_rfl, by omega⟩, fun i member => ((inside i).mp member).1⟩
    · rw [List.max?_eq_some_iff]
      refine ⟨(inside _).mpr ⟨by omega, by omega⟩, ?_⟩
      intro i member
      have := ((inside i).mp member).2
      omega
    · rw [insertionSort_perm_range' positions]
      congr 1
      omega

theorem are_adjacent_iff {layout : List (List Int)} (nodup : ∀ row ∈ layout, row.Nodup) (machine_ids : List Int) :
    are_adjacent layout machine_ids = true ↔
      machine_ids ≠ [] ∧ ∃ row ∈ layout, ∃ part, part <:+: row ∧ machine_ids.Perm part := by
  simp only [are_adjacent, List.any_eq_true, decide_eq_true_eq]
  constructor
  · rintro ⟨row, member, adjacent⟩
    obtain ⟨some_id, part, contiguous, perm⟩ := (adjacent_in_iff (nodup row member) machine_ids).mp adjacent
    exact ⟨some_id, row, member, part, contiguous, perm⟩
  · rintro ⟨some_id, row, member, part, contiguous, perm⟩
    exact ⟨row, member, (adjacent_in_iff (nodup row member) machine_ids).mpr ⟨some_id, part, contiguous, perm⟩⟩

theorem machine_layout_nodup : ∀ row ∈ MACHINE_LAYOUT, row.Nodup := by decide

theorem are_adjacent_perm {few many : List Int} (perm : few.Perm many) :
    are_adjacent MACHINE_LAYOUT few = are_adjacent MACHINE_LAYOUT many := by
  rw [Bool.eq_iff_iff, are_adjacent_iff machine_layout_nodup, are_adjacent_iff machine_layout_nodup]
  have same (part : List Int) : few.Perm part ↔ many.Perm part := perm.congr_left part
  have both : few = [] ↔ many = [] := by rw [← List.length_eq_zero_iff, perm.length_eq, List.length_eq_zero_iff]
  simp only [same, ne_eq, both]

/-- Adjacent machines of the list are, up to their order, a block of it. -/
theorem adjacent_block {machine_ids : List Int} (listed : machine_ids ⊆ MACHINE_ID_LIST)
    (adjacent : are_adjacent MACHINE_LAYOUT machine_ids = true) :
    ∃ part, part <:+: MACHINE_ID_LIST ∧ machine_ids.Perm part := by
  obtain ⟨some_id, row, member, part, contiguous, perm⟩ :=
    (are_adjacent_iff machine_layout_nodup machine_ids).mp adjacent
  refine ⟨part, ?_, perm⟩
  simp only [MACHINE_LAYOUT, List.mem_cons, List.not_mem_nil, or_false] at member
  rcases member with rfl | rfl | rfl
  · exact contiguous.trans ⟨[], [6, 7, 8, 9, 10], rfl⟩
  · exact contiguous.trans ⟨[1, 2, 3, 4, 5], [], rfl⟩
  · -- No machine of the third floor is listed.
    obtain ⟨id, here⟩ := List.exists_mem_of_ne_nil machine_ids some_id
    have upstairs := contiguous.subset (perm.subset here)
    have known := listed here
    simp only [MACHINE_ID_LIST, List.mem_cons, List.not_mem_nil, or_false] at upstairs known
    omega

theorem try_indices_eq (row machine_ids : List Int) :
    (machine_ids.mapM fun mid => match row.idxOf? mid with
      | some i => (.ok i : Except PyError ℕ)
      | none => .error .ValueError) =
    match machine_ids.mapM (row.idxOf? ·) with
      | some indices => .ok indices
      | none => .error .ValueError := by
  induction machine_ids with
  | nil => rfl
  | cons id rest ih =>
    rw [List.mapM_cons, List.mapM_cons, ih]
    cases row.idxOf? id with
    | none => rfl
    | some i => cases rest.mapM (row.idxOf? ·) <;> rfl

theorem try_row_eq (row machine_ids : List Int) :
    try_row row machine_ids = match adjacent_in row machine_ids with
      | some adjacent => .ok adjacent
      | none => .error .ValueError := by
  rw [try_row, adjacent_in, try_indices_eq]
  cases machine_ids.mapM (row.idxOf? ·) with
  | none => rfl
  | some indices =>
    cases indices with
    | nil => rfl
    | cons i rest => rfl

theorem try_rows_eq (layout : List (List Int)) (machine_ids : List Int) :
    try_rows machine_ids layout = .ok (are_adjacent layout machine_ids) := by
  induction layout with
  | nil => rfl
  | cons row rest ih =>
    rw [try_rows, try_row_eq, are_adjacent, List.any_cons, ← are_adjacent]
    cases adjacent : adjacent_in row machine_ids with
    | none => simpa [adjacent] using ih
    | some answer =>
      cases answer with
      | true => simp
      | false => simpa [adjacent] using ih

/-- An answer for some machines: whether there are any and they are a block of
    one row up to their order, so never for a machine named twice or on no row. -/
structure Decides (layout : List (List Int)) (machine_ids : List Int) (adjacent : Bool) : Prop where
  contiguous : adjacent = true ↔
    machine_ids ≠ [] ∧ ∃ row ∈ layout, ∃ part, part <:+: row ∧ machine_ids.Perm part
  repeated : ¬ machine_ids.Nodup → adjacent = false
  unknown : (∃ id ∈ machine_ids, ∀ row ∈ layout, id ∉ row) → adjacent = false

/-- On every layout without repetitions in a row the loop raises nothing and
    decides adjacency. -/
theorem are_adjacent_decides {layout : List (List Int)} (nodup : ∀ row ∈ layout, row.Nodup) (machine_ids : List Int) :
    ∃ adjacent, try_rows machine_ids layout = .ok adjacent ∧ Decides layout machine_ids adjacent := by
  have decides := are_adjacent_iff nodup machine_ids
  refine ⟨are_adjacent layout machine_ids, try_rows_eq layout machine_ids, decides, ?_, ?_⟩
  · intro repeated
    by_contra adjacent
    obtain ⟨_, row, member, part, contiguous, perm⟩ := decides.mp (by simpa using adjacent)
    exact repeated (perm.nodup_iff.mpr ((nodup row member).sublist contiguous.sublist))
  · rintro ⟨id, asked, unknown⟩
    by_contra adjacent
    obtain ⟨_, row, member, part, contiguous, perm⟩ := decides.mp (by simpa using adjacent)
    exact unknown row member (contiguous.subset (perm.subset asked))

theorem floors_decided :
    ∃ adjacent, try_rows [4, 3, 5] MACHINE_LAYOUT = .ok adjacent ∧ Decides MACHINE_LAYOUT [4, 3, 5] adjacent :=
  are_adjacent_decides machine_layout_nodup [4, 3, 5]

end DispenserHub.Adjacency
