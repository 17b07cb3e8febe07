import Mathlib.Data.List.Induction

/-!
A list in memory, and the list that was saved last. Each entry is followed by a
save of the whole list, which may be made, torn, so that what it leaves does not
read, or missed. A crash leaves what is on disk.
-/

namespace DispenserHub.Ledgers

inductive Save where
  | whole
  | torn
  | missed

inductive Event (α : Type*) where
  | enter (a : α) (save : Save)
  | crash

/-- Where there is no list, it is lost. -/
structure Ledger (α : Type*) where
  memory : Option (List α)
  disk : Option (List α)

variable {α : Type*}

def Ledger.fresh : Ledger α := ⟨some [], some []⟩

def Ledger.step (ledger : Ledger α) : Event α → Ledger α
  | .enter a save =>
    let memory := ledger.memory.map (· ++ [a])
    match save with
    | .whole => { memory, disk := memory }
    | .torn => { memory, disk := none }
    | .missed => { memory, disk := ledger.disk }
  | .crash => { memory := ledger.disk, disk := ledger.disk }

def run (events : List (Event α)) : Ledger α := events.foldl Ledger.step .fresh

theorem run_concat (events : List (Event α)) (event : Event α) : run (events ++ [event]) = (run events).step event := by
  rw [run, List.foldl_append]
  rfl

@[simp] theorem step_enter_memory (ledger : Ledger α) (a : α) (save : Save) :
    (ledger.step (.enter a save)).memory = ledger.memory.map (· ++ [a]) := by
  cases save <;> rfl

/-- What is on disk after a save is what is in memory, or was there before. -/
theorem step_enter_disk {ledger : Ledger α} {a : α} {save : Save} {list : List α}
    (saved : (ledger.step (.enter a save)).disk = some list) :
    (ledger.step (.enter a save)).memory = some list ∨ ledger.disk = some list := by
  cases save with
  | whole => exact .inl saved
  | torn => cases saved
  | missed => exact .inr saved

/-- The entries on disk are the first ones of those in memory: a crash loses the last. -/
theorem run_prefix (events : List (Event α)) {saved : List α} (kept : (run events).disk = some saved) :
    ∃ lost, (run events).memory = some (saved ++ lost) := by
  induction events using List.reverseRecOn generalizing saved with
  | nil =>
    cases kept
    exact ⟨[], rfl⟩
  | append_singleton earlier event ih =>
    rw [run_concat] at kept ⊢
    cases event with
    | enter a save =>
      cases save with
      | whole => exact ⟨[], by rw [List.append_nil]; exact kept⟩
      | torn => cases kept
      | missed =>
        obtain ⟨lost, before⟩ := ih kept
        refine ⟨lost ++ [a], ?_⟩
        simp [Ledger.step, before]
    | crash => exact ⟨[], by rw [List.append_nil]; exact kept⟩

end DispenserHub.Ledgers
