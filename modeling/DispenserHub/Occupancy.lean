import Mathlib.Data.Set.Basic
import Mathlib.Algebra.GroupWithZero.Nat
import Mathlib.Order.Interval.Finset.Nat

/-!
A booking takes some resources for a run of consecutive slots and has an
owner, which the calendar only carries along. A calendar
holds accepted bookings and the promise that any two that share a resource
are a fixed number of whole slots apart. A booking joins the calendar when a
window around it, at least as long as the booking and its gaps, is untaken.
-/

namespace DispenserHub.Occupancy

variable {ρ α : Type*}

/-- Some resources on `length` consecutive slots, at least one. -/
structure Booking (ρ α : Type*) where
  owner : α
  resources : Set ρ
  start : ℕ
  length : ℕ
  nonempty : 0 < length

def Booking.stop (booking : Booking ρ α) : ℕ := booking.start + booking.length

def Booking.Covers (booking : Booking ρ α) (slot : ℕ) : Prop :=
  booking.start ≤ slot ∧ slot < booking.stop

/-- At least `gap` whole slots lie between two bookings. -/
def Apart (gap : ℕ) (a b : Booking ρ α) : Prop := a.stop + gap ≤ b.start ∨ b.stop + gap ≤ a.start

def Rivals (a b : Booking ρ α) : Prop := (a.resources ∩ b.resources).Nonempty

/-- A booking none of whose slots lies in the window of another is `gap` slots
    away from it. The window spans `reach` slots from the other's start, which
    cover the other, and `gap` more on either side. -/
theorem apart_of_outside {gap reach : ℕ} {a b : Booking ρ α} (fits : b.length ≤ reach)
    (outside : ∀ slot, a.Covers slot → ¬ (b.start ≤ slot + gap ∧ slot < b.start + reach + gap)) :
    Apart gap a b := by
  have filledA := a.nonempty
  have filledB := b.nonempty
  by_cases early : a.stop + gap ≤ b.start
  · exact .inl early
  right
  by_contra late
  unfold Booking.Covers at outside
  unfold Booking.stop at *
  -- The last slot of `a` is past the window, or the window holds it; in the
  -- first case `a` also covers the last slot of the window.
  by_cases past : b.start + reach + gap ≤ a.start + a.length - 1
  · exact outside (b.start + reach + gap - 1) ⟨by omega, by omega⟩ ⟨by omega, by omega⟩
  · exact outside (a.start + a.length - 1) ⟨by omega, by omega⟩ ⟨by omega, by omega⟩

/-- Bookings that lie apart fill a line together: each takes its slots and the gap after them. -/
theorem packed {gap horizon : ℕ} {bookings : List (Booking ρ α)} (apart : bookings.Pairwise (Apart gap))
    (ends : ∀ b ∈ bookings, b.stop ≤ horizon) :
    (bookings.map fun b => b.length + gap).sum ≤ horizon + gap := by
  have slots : ∃ S : Finset ℕ, S.card = (bookings.map fun b => b.length + gap).sum ∧
      ∀ x, x ∈ S ↔ ∃ b ∈ bookings, b.start ≤ x ∧ x < b.stop + gap := by
    clear ends
    induction bookings with
    | nil => exact ⟨∅, rfl, by simp⟩
    | cons b rest ih =>
      obtain ⟨away, apart⟩ := List.pairwise_cons.mp apart
      obtain ⟨S, size, mem⟩ := ih apart
      have disjoint : Disjoint (Finset.Ico b.start (b.stop + gap)) S := by
        rw [Finset.disjoint_left]
        intro x inside other
        obtain ⟨a, member, first, last⟩ := (mem x).mp other
        rw [Finset.mem_Ico] at inside
        rcases away a member with before | after <;> omega
      refine ⟨Finset.Ico b.start (b.stop + gap) ∪ S, ?_, ?_⟩
      · rw [Finset.card_union_of_disjoint disjoint, Nat.card_Ico, size, List.map_cons, List.sum_cons]
        unfold Booking.stop
        omega
      · intro x
        simp [mem]
  obtain ⟨S, size, mem⟩ := slots
  have within : S ⊆ Finset.range (horizon + gap) := by
    intro x member
    obtain ⟨b, booked, _, last⟩ := (mem x).mp member
    have := ends b booked
    rw [Finset.mem_range]
    omega
  have bound := Finset.card_le_card within
  rwa [size, Finset.card_range] at bound

/-- Accepted bookings, in the order of acceptance. -/
structure Calendar (ρ α : Type*) (gap : ℕ) where
  bookings : List (Booking ρ α)
  apart : bookings.Pairwise (fun a b => Rivals a b → Apart gap a b)

variable {gap : ℕ}

def Calendar.empty : Calendar ρ α gap := ⟨[], .nil⟩

def Calendar.Taken (calendar : Calendar ρ α gap) (slot : ℕ) (r : ρ) : Prop :=
  ∃ booking ∈ calendar.bookings, booking.Covers slot ∧ r ∈ booking.resources

/-- The resources of a booking are untaken for `reach` slots from its start
    and for `gap` slots on either side of these. -/
def Calendar.Room (calendar : Calendar ρ α gap) (booking : Booking ρ α) (reach : ℕ) : Prop :=
  ∀ slot, booking.start ≤ slot + gap → slot < booking.start + reach + gap →
    ∀ r ∈ booking.resources, ¬ calendar.Taken slot r

/-- There is room for the slots of a booking itself when its rivals are away. -/
theorem Calendar.room_iff (calendar : Calendar ρ α gap) (booking : Booking ρ α) :
    calendar.Room booking booking.length ↔ ∀ a ∈ calendar.bookings, Rivals a booking → Apart gap a booking := by
  constructor
  · rintro room a member ⟨r, taken, wanted⟩
    apply apart_of_outside le_rfl
    intro slot covers window
    exact room slot window.1 window.2 r wanted ⟨a, member, covers, taken⟩
  · rintro apart slot early late r wanted ⟨a, member, ⟨first, last⟩, taken⟩
    rcases apart a member ⟨r, taken, wanted⟩ with before | after
    · omega
    · unfold Booking.stop at after
      omega

/-- A booking with room around it joins the calendar. -/
def Calendar.book (calendar : Calendar ρ α gap) (booking : Booking ρ α) (reach : ℕ)
    (fits : booking.length ≤ reach) (room : calendar.Room booking reach) : Calendar ρ α gap where
  bookings := calendar.bookings ++ [booking]
  apart := by
    rw [List.pairwise_append]
    refine ⟨calendar.apart, List.pairwise_singleton _ _, ?_⟩
    intro a member b last
    obtain rfl := List.mem_singleton.mp last
    rintro ⟨r, rivalA, rivalB⟩
    apply apart_of_outside fits
    intro slot covers window
    exact room slot window.1 window.2 r rivalB ⟨a, member, covers, rivalA⟩

@[simp] theorem Calendar.bookings_empty : (Calendar.empty : Calendar ρ α gap).bookings = [] := rfl

@[simp] theorem Calendar.bookings_book (calendar : Calendar ρ α gap) (booking : Booking ρ α) (reach : ℕ)
    (fits : booking.length ≤ reach) (room : calendar.Room booking reach) :
    (calendar.book booking reach fits room).bookings = calendar.bookings ++ [booking] := rfl

theorem Calendar.taken_book (calendar : Calendar ρ α gap) (booking : Booking ρ α) (reach : ℕ)
    (fits : booking.length ≤ reach) (room : calendar.Room booking reach) (slot : ℕ) (r : ρ) :
    (calendar.book booking reach fits room).Taken slot r ↔
      calendar.Taken slot r ∨ (booking.Covers slot ∧ r ∈ booking.resources) := by
  simp only [Calendar.Taken, Calendar.bookings_book, List.mem_append, List.mem_singleton]
  constructor
  · rintro ⟨a, old | rfl, taken⟩
    · exact .inl ⟨a, old, taken⟩
    · exact .inr taken
  · rintro (⟨a, old, taken⟩ | taken)
    · exact ⟨a, .inl old, taken⟩
    · exact ⟨booking, .inr rfl, taken⟩

end DispenserHub.Occupancy
