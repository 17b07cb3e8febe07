import Mathlib.Algebra.Order.Ring.Rat
import Mathlib.Data.List.Chain
import Mathlib.Data.Rat.Floor
import Mathlib.Tactic.Linarith
import Mathlib.Tactic.Ring

/-!
A list of instants each `h` after the one before. Fewer than half a step
separates a point from at most one of them, which is what makes a scan for
the first close instant a scan for the closest one.
-/

namespace DispenserHub.Grid

/-- Each entry is `h` after the one before it. -/
def Spaced (h : ℤ) (instants : List ℤ) : Prop := instants.IsChain (fun a b => b = a + h)

instance (h : ℤ) (instants : List ℤ) : Decidable (Spaced h instants) :=
  inferInstanceAs (Decidable (List.IsChain _ _))

variable {h : ℤ} {instants : List ℤ}

theorem Spaced.getElem (spaced : Spaced h instants) {i : ℕ} {first a : ℤ}
    (head : instants[0]? = some first) (at_i : instants[i]? = some a) : a = first + i * h := by
  induction i generalizing a with
  | zero => rw [head] at at_i; cases at_i; simp
  | succ i ih =>
    have inside := (List.getElem?_eq_some_iff.mp at_i).1
    have before : instants[i]? = some instants[i] := List.getElem?_eq_getElem _
    have step := List.isChain_iff_getElem.mp spaced i (by omega)
    have here : instants[i + 1] = a := (List.getElem?_eq_some_iff.mp at_i).2
    rw [← here, step, ih before]
    push_cast
    ring

/-- Two instants are as many steps apart as their positions. -/
theorem Spaced.sub (spaced : Spaced h instants) {i j : ℕ} {a b : ℤ} (at_i : instants[i]? = some a)
    (at_j : instants[j]? = some b) : b - a = ((j : ℤ) - i) * h := by
  have inside := (List.getElem?_eq_some_iff.mp at_i).1
  have head : instants[0]? = some instants[0] := List.getElem?_eq_getElem _
  rw [spaced.getElem head at_i, spaced.getElem head at_j]
  ring

theorem Spaced.sub_rat (spaced : Spaced h instants) {i j : ℕ} {a b : ℤ} (at_i : instants[i]? = some a)
    (at_j : instants[j]? = some b) : (b : ℚ) - a = ((j : ℚ) - i) * h := by
  exact_mod_cast spaced.sub at_i at_j

/-- A point is within half a step of one instant at most. -/
theorem Spaced.unique_near (spaced : Spaced h instants) (forward : 0 < h) {i j : ℕ} {a b : ℤ} {point : ℚ}
    (at_i : instants[i]? = some a) (at_j : instants[j]? = some b)
    (near_i : |(a : ℚ) - point| < h / 2) (near_j : |(b : ℚ) - point| < h / 2) : i = j := by
  have apart := spaced.sub_rat at_i at_j
  have positive : (0 : ℚ) < h := by exact_mod_cast forward
  rw [abs_lt] at near_i near_j
  have above : ((j : ℚ) - i) * h < 1 * h := by rw [← apart]; linarith
  have below : (-1 : ℚ) * h < ((j : ℚ) - i) * h := by rw [← apart]; linarith
  have less : (j : ℚ) - i < 1 := lt_of_mul_lt_mul_right above positive.le
  have more : (-1 : ℚ) < (j : ℚ) - i := lt_of_mul_lt_mul_right below positive.le
  have less' : (j : ℤ) - i < 1 := by exact_mod_cast less
  have more' : (-1 : ℤ) < (j : ℤ) - i := by exact_mod_cast more
  omega

theorem Spaced.apart (spaced : Spaced h instants) (forward : 0 < h) {i j : ℕ} {a b : ℤ} (at_i : instants[i]? = some a)
    (at_j : instants[j]? = some b) : b = a ∨ h ≤ |b - a| := by
  have steps := spaced.sub at_i at_j
  by_cases same : (j : ℤ) - i = 0
  · rw [same, zero_mul] at steps
    exact .inl (by linarith)
  · right
    rw [steps, abs_mul, abs_of_pos forward]
    exact le_mul_of_one_le_left forward.le (Int.one_le_abs same)

/-- The instant that a point between the first and the last is rounded to,
    upwards from the middle. -/
theorem Spaced.round (spaced : Spaced h instants) (forward : 0 < h) {first last : ℤ} (head : instants.head? = some first)
    (final : instants.getLast? = some last) {point : ℚ} (late : (first : ℚ) ≤ point) (early : point ≤ last) :
    ∃ (i : ℕ) (a : ℤ), instants[i]? = some a ∧ (a : ℚ) - h / 2 ≤ point ∧ point < a + h / 2 := by
  rw [List.head?_eq_getElem?] at head
  rw [List.getLast?_eq_getElem?] at final
  have positive : (0 : ℚ) < h := by exact_mod_cast forward
  have grid {j : ℕ} {a : ℤ} (at_j : instants[j]? = some a) : (a : ℚ) = first + j * h := by
    exact_mod_cast spaced.getElem head at_j
  have size := (List.getElem?_eq_some_iff.mp head).1
  have offset : 0 ≤ (point - first) / h := div_nonneg (sub_nonneg.mpr late) positive.le
  obtain ⟨i, rounded⟩ := Int.eq_ofNat_of_zero_le (Int.floor_nonneg.mpr (show 0 ≤ (point - first) / h + 1 / 2 by linarith))
  obtain ⟨below, above⟩ := Int.floor_eq_iff.mp rounded
  have value : (point - first) / h * h = point - first := div_mul_cancel₀ _ positive.ne'
  have below' : (i : ℚ) * h ≤ point - first + h / 2 := by
    have scaled := mul_le_mul_of_nonneg_right below positive.le
    push_cast at scaled
    linarith
  have above' : point - first + h / 2 < (i : ℚ) * h + h := by
    have scaled := mul_lt_mul_of_pos_right above positive
    push_cast at scaled
    linarith
  have inside : i < instants.length := by
    have within : (i : ℚ) * h < (instants.length : ℚ) * h := by
      have all : ((instants.length - 1 : ℕ) : ℚ) + 1 = instants.length := by
        exact_mod_cast Nat.sub_add_cancel size
      have end_grid := grid final
      rw [← all]
      linarith
    exact_mod_cast lt_of_mul_lt_mul_right within positive.le
  have here := grid (List.getElem?_eq_getElem inside)
  exact ⟨i, instants[i], List.getElem?_eq_getElem inside, by linarith, by linarith⟩

end DispenserHub.Grid
