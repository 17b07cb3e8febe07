import Mathlib.Algebra.Order.Group.Int
import Mathlib.Order.Lattice

/-!
A zone gives the offset of its clocks from UTC at every instant, in seconds. An
offset is less than a day, and the jumps are days apart. So around any day the
clocks are set at most once, and a time of that day is converted back to an
instant with the offset before or the offset after.
-/

namespace DispenserHub.LocalTime

/-- Clocks that are set at whole seconds and days apart, as for daylight saving. -/
structure Zone where
  offset : ℤ → ℤ
  bounded : ∀ u, -86400 < offset u ∧ offset u < 86400
  apart : ∀ u v, offset (u - 1) ≠ offset u → offset (v - 1) ≠ offset v → u < v → u + 3 * 86400 ≤ v

variable {zone : Zone} {midnight jump : ℤ}

/-- What the clocks show at an instant. -/
def Zone.wall (zone : Zone) (u : ℤ) : ℤ := u + zone.offset u

/-- What the clocks would show at an instant if they were not set at it. -/
def Zone.reached (zone : Zone) (u : ℤ) : ℤ := u + zone.offset (u - 1)

/-- The conversion of wall-clock times to instants: a time that is shown twice
    is the earlier of them, and one that the clocks skip is read with the offset
    in force before the jump. -/
structure Converts (zone : Zone) (timestamp : ℤ → ℤ) : Prop where
  earliest : ∀ time u, zone.wall u = time → zone.wall (timestamp time) = time ∧ timestamp time ≤ u
  skipped : ∀ time, (∀ u, zone.wall u ≠ time) → ∃ jump, zone.reached jump ≤ time ∧ time < zone.wall jump ∧
    timestamp time = time - zone.offset (jump - 1)

theorem Zone.offset_constant (zone : Zone) {u v : ℤ} (le : u ≤ v)
    (still : ∀ w, u < w → w ≤ v → zone.offset (w - 1) = zone.offset w) : zone.offset u = zone.offset v := by
  induction v, le using Int.leInduction with
  | base => rfl
  | succ v le ih =>
    have last := still (v + 1) (by omega) le_rfl
    rw [add_sub_cancel_right] at last
    rw [← last]
    exact ih fun w after before => still w after (by omega)

/-- In the day before, the day from this midnight on and the day after it, the
    clocks are set at this instant at most. -/
structure Zone.SetAt (zone : Zone) (midnight jump : ℤ) : Prop where
  inside : midnight - 86400 ≤ jump ∧ jump < midnight + 2 * 86400
  offsets : ∀ u, midnight - 86400 ≤ u → u < midnight + 2 * 86400 →
    zone.offset u = if u < jump then zone.offset (jump - 1) else zone.offset jump

theorem Zone.setAt_of_jump (changes : zone.offset (jump - 1) ≠ zone.offset jump)
    (inside : midnight - 86400 ≤ jump ∧ jump < midnight + 2 * 86400) : zone.SetAt midnight jump := by
  refine ⟨inside, ?_⟩
  intro u low high
  by_cases early : u < jump
  · rw [if_pos early]
    refine zone.offset_constant (by omega) ?_
    intro w after before
    by_contra other
    have := zone.apart w jump other changes (by omega)
    omega
  · rw [if_neg early]
    refine (zone.offset_constant (by omega) fun w after before => ?_).symm
    by_contra other
    have := zone.apart jump w changes other after
    omega

/-- A jump between times of the day is the one around it. -/
theorem Zone.setAt_of_shown (moves : zone.reached jump ≠ zone.wall jump)
    (late : midnight < max (zone.reached jump) (zone.wall jump)) (early : zone.wall jump < midnight + 86400) :
    zone.SetAt midnight jump := by
  have before := zone.bounded (jump - 1)
  have after := zone.bounded jump
  unfold Zone.reached Zone.wall at *
  exact setAt_of_jump (by omega) (by omega)

theorem Zone.exists_setAt (zone : Zone) (midnight : ℤ) : ∃ jump, zone.SetAt midnight jump := by
  by_cases changes : ∃ jump, zone.offset (jump - 1) ≠ zone.offset jump ∧
      midnight - 86400 ≤ jump ∧ jump < midnight + 2 * 86400
  · obtain ⟨jump, changes, inside⟩ := changes
    exact ⟨jump, setAt_of_jump changes inside⟩
  · refine ⟨midnight - 86400, ⟨le_rfl, by omega⟩, ?_⟩
    intro u low high
    rw [if_neg (by omega)]
    refine (zone.offset_constant low fun w after before => ?_).symm
    by_contra other
    exact changes ⟨w, other, by omega, by omega⟩

/-- No other jump is around the day. -/
theorem Zone.SetAt.unique (once : zone.SetAt midnight jump) {other : ℤ} (moves : zone.reached other ≠ zone.wall other)
    (inside : midnight - 86400 < other ∧ other < midnight + 2 * 86400) : other = jump := by
  by_contra different
  have here := once.offsets other (by omega) (by omega)
  have previous := once.offsets (other - 1) (by omega) (by omega)
  unfold Zone.reached Zone.wall at moves
  split at here <;> split at previous <;> omega

section
variable {timestamp : ℤ → ℤ} {time : ℤ}

/-- The offset of an instant of the day. -/
theorem Zone.SetAt.offset_of_wall (once : zone.SetAt midnight jump) {u : ℤ} (low : midnight ≤ zone.wall u)
    (high : zone.wall u < midnight + 86400) :
    zone.offset u = if u < jump then zone.offset (jump - 1) else zone.offset jump := by
  have within := zone.bounded u
  unfold Zone.wall at low high
  exact once.offsets u (by omega) (by omega)

/-- A time of the day that the clocks show before they are set. -/
theorem Zone.SetAt.wall_before (once : zone.SetAt midnight jump) (low : midnight ≤ time)
    (high : time < midnight + 86400) (early : time < zone.reached jump) :
    zone.wall (time - zone.offset (jump - 1)) = time := by
  have small := zone.bounded (jump - 1)
  unfold Zone.reached at early
  rw [Zone.wall, once.offsets (time - zone.offset (jump - 1)) (by omega) (by omega), if_pos (by omega)]
  omega

/-- A time of the day that the clocks show after they are set. -/
theorem Zone.SetAt.wall_after (once : zone.SetAt midnight jump) (low : midnight ≤ time)
    (high : time < midnight + 86400) (late : zone.wall jump ≤ time) : zone.wall (time - zone.offset jump) = time := by
  have small := zone.bounded jump
  unfold Zone.wall at late
  rw [Zone.wall, once.offsets (time - zone.offset jump) (by omega) (by omega), if_neg (by omega)]
  omega

theorem Converts.before_jump (converts : Converts zone timestamp) (once : zone.SetAt midnight jump)
    (low : midnight ≤ time) (high : time < midnight + 86400) (early : time < zone.reached jump) :
    timestamp time = time - zone.offset (jump - 1) := by
  obtain ⟨read, first⟩ := converts.earliest time _ (once.wall_before low high early)
  have value := once.offset_of_wall (by rw [read]; exact low) (by rw [read]; exact high)
  unfold Zone.reached Zone.wall at *
  rw [if_pos (by omega)] at value
  omega

theorem Converts.after_jump (converts : Converts zone timestamp) (once : zone.SetAt midnight jump)
    (low : midnight ≤ time) (high : time < midnight + 86400) (late : max (zone.reached jump) (zone.wall jump) ≤ time) :
    timestamp time = time - zone.offset jump := by
  obtain ⟨read, first⟩ := converts.earliest time _ (once.wall_after low high (le_of_max_le_right late))
  have value := once.offset_of_wall (by rw [read]; exact low) (by rw [read]; exact high)
  unfold Zone.reached Zone.wall at *
  split at value <;> omega

theorem Converts.skipped_by_jump (converts : Converts zone timestamp) (once : zone.SetAt midnight jump)
    (low : midnight ≤ time) (high : time < midnight + 86400) (late : zone.reached jump ≤ time)
    (early : time < zone.wall jump) : timestamp time = time - zone.offset (jump - 1) := by
  have unseen (u : ℤ) : zone.wall u ≠ time := by
    intro shown
    have value := once.offset_of_wall (by rw [shown]; exact low) (by rw [shown]; exact high)
    unfold Zone.reached Zone.wall at *
    split at value <;> omega
  obtain ⟨other, from_below, above, value⟩ := converts.skipped time unseen
  have before := zone.bounded (other - 1)
  have after := zone.bounded other
  have same : other = jump := once.unique (by omega) (by unfold Zone.reached Zone.wall at *; omega)
  rw [value, same]

/-- A time of the day is read with the offset before the jump as long as the
    clocks have not shown it and gone past it. -/
theorem Converts.timestamp_eq (converts : Converts zone timestamp) (once : zone.SetAt midnight jump)
    (low : midnight ≤ time) (high : time < midnight + 86400) :
    timestamp time = time - if time < max (zone.reached jump) (zone.wall jump) then zone.offset (jump - 1)
      else zone.offset jump := by
  by_cases late : max (zone.reached jump) (zone.wall jump) ≤ time
  · rw [if_neg (not_lt.mpr late)]
    exact converts.after_jump once low high late
  · rw [if_pos (not_le.mp late)]
    by_cases early : time < zone.reached jump
    · exact converts.before_jump once low high early
    · exact converts.skipped_by_jump once low high (by omega) (by omega)

end

/-- The offset is `before` until the instant `jump` and `after` from then on. -/
def Zone.once (jump before after : ℤ) (small : (-86400 < before ∧ before < 86400) ∧ -86400 < after ∧ after < 86400) :
    Zone where
  offset u := if u < jump then before else after
  bounded u := by
    split
    · exact small.1
    · exact small.2
  apart u v changes changes' order := by
    have at_jump {w : ℤ} (changes : (if w - 1 < jump then before else after) ≠ if w < jump then before else after) :
        w = jump := by
      by_contra different
      split at changes <;> split at changes <;> omega
    have := at_jump changes
    have := at_jump changes'
    omega

def once_timestamp (jump before after time : ℤ) : ℤ :=
  if time < max (jump + before) (jump + after) then time - before else time - after

theorem once_converts {before after : ℤ}
    (small : (-86400 < before ∧ before < 86400) ∧ -86400 < after ∧ after < 86400) :
    Converts (Zone.once jump before after small) (once_timestamp jump before after) where
  earliest time u shown := by
    simp only [Zone.wall, Zone.once, once_timestamp] at shown ⊢
    split at shown <;> split <;> split <;> omega
  skipped time unseen := by
    have first := unseen (time - before)
    have second := unseen (time - after)
    refine ⟨jump, ?_⟩
    simp only [Zone.wall, Zone.reached, Zone.once, once_timestamp] at first second ⊢
    rw [if_pos (show jump - 1 < jump by omega), if_neg (lt_irrefl jump)]
    split at first <;> split at second <;> omega

end DispenserHub.LocalTime
