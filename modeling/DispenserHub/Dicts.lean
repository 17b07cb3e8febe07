import Mathlib.Data.List.Nodup

/-!
A dictionary whose keys stand in the order in which they were first set. A key
that is set again keeps its place.
-/

namespace DispenserHub.Dicts

variable {κ α : Type*} [DecidableEq κ]

/-- Each key stands once. -/
structure Dict (κ α : Type*) where
  entries : List (κ × α)
  once : (entries.map Prod.fst).Nodup

def Dict.empty : Dict κ α := ⟨[], List.nodup_nil⟩

def Dict.get (d : Dict κ α) (key : κ) : Option α := d.entries.lookup key

def Dict.keys (d : Dict κ α) : List κ := d.entries.map Prod.fst

def assign (key : κ) (value : α) : List (κ × α) → List (κ × α)
  | [] => [(key, value)]
  | entry :: rest => if entry.1 = key then (key, value) :: rest else entry :: assign key value rest

theorem mem_assign_keys {key other : κ} {value : α} {entries : List (κ × α)}
    (member : other ∈ (assign key value entries).map Prod.fst) : other = key ∨ other ∈ entries.map Prod.fst := by
  induction entries with
  | nil => simpa [assign] using member
  | cons entry rest ih =>
    by_cases here : entry.1 = key
    · rw [assign, if_pos here, List.map_cons] at member
      exact (List.mem_cons.mp member).imp_right (List.mem_cons_of_mem _)
    · rw [assign, if_neg here, List.map_cons] at member
      rcases List.mem_cons.mp member with first | later
      · exact .inr (first ▸ List.mem_cons_self)
      · exact (ih later).imp_right (List.mem_cons_of_mem _)

theorem assign_once (key : κ) (value : α) {entries : List (κ × α)} (once : (entries.map Prod.fst).Nodup) :
    ((assign key value entries).map Prod.fst).Nodup := by
  induction entries with
  | nil => simp [assign]
  | cons entry rest ih =>
    obtain ⟨fresh, once'⟩ := List.nodup_cons.mp once
    by_cases here : entry.1 = key
    · rw [assign, if_pos here, List.map_cons, List.nodup_cons]
      exact ⟨here ▸ fresh, once'⟩
    · rw [assign, if_neg here, List.map_cons, List.nodup_cons]
      refine ⟨?_, ih once'⟩
      intro member
      rcases mem_assign_keys member with same | known
      · exact here same
      · exact fresh known

def Dict.set (d : Dict κ α) (key : κ) (value : α) : Dict κ α :=
  ⟨assign key value d.entries, assign_once key value d.once⟩

@[simp] theorem Dict.get_empty (key : κ) : (Dict.empty : Dict κ α).get key = none := rfl

@[simp] theorem Dict.get_set_self (d : Dict κ α) (key : κ) (value : α) : (d.set key value).get key = some value := by
  obtain ⟨entries, once⟩ := d
  simp only [Dict.get, Dict.set]
  clear once
  induction entries with
  | nil => simp [assign]
  | cons entry rest ih =>
    by_cases here : entry.1 = key
    · simp [assign, here]
    · have missed : (key == entry.1) = false := beq_false_of_ne (Ne.symm here)
      rw [assign, if_neg here, List.lookup_cons, missed]
      exact ih

@[simp] theorem Dict.get_set_of_ne (d : Dict κ α) {key other : κ} (different : other ≠ key) (value : α) :
    (d.set key value).get other = d.get other := by
  obtain ⟨entries, once⟩ := d
  simp only [Dict.get, Dict.set]
  clear once
  induction entries with
  | nil => simp [assign, List.lookup_cons, beq_false_of_ne different]
  | cons entry rest ih =>
    by_cases here : entry.1 = key
    · have missed : (other == entry.1) = false := beq_false_of_ne (by rw [here]; exact different)
      rw [assign, if_pos here, List.lookup_cons, List.lookup_cons, missed, beq_false_of_ne different]
    · rw [assign, if_neg here, List.lookup_cons, List.lookup_cons, ih]

theorem Dict.mem_keys_iff (d : Dict κ α) (key : κ) : key ∈ d.keys ↔ d.get key ≠ none := by
  rw [ne_eq, Dict.get, List.lookup_eq_none_iff, Dict.keys, List.mem_map]
  constructor
  · rintro ⟨entry, member, rfl⟩ absent
    simpa using absent entry member
  · intro present
    simp only [not_forall] at present
    obtain ⟨entry, member, same⟩ := present
    simp only [bne_iff_ne, ne_eq, not_not] at same
    exact ⟨entry, member, same.symm⟩

end DispenserHub.Dicts
