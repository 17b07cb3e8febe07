import DispenserHub.FileIo
import DispenserHub.Mirror
import DispenserHub.Runs

/-!
Runs of `save_schedule_to_disk` over any dates. A date's file holds the text
last put there, so a load returns the schedule last saved for its date unless a
later save emptied the file and failed.
-/

namespace DispenserHub.Storage
open Messages Buckets FileIo Mirror

structure SaveCall where
  outcome : WriteOutcome
  date : Date
  schedule : Schedule
  deriving DecidableEq, Repr

def save (files : Files) (call : SaveCall) : Except PyError Bool × Files :=
  save_schedule_to_disk call.outcome call.date call.schedule files

def answer_of : WriteOutcome → Except PyError Bool
  | .written => .ok true
  | .no_directory => .error .OSError
  | .not_opened | .cut_short _ => .ok false

/-- What a save puts in its file, if it gets as far as opening it. -/
def text_of (call : SaveCall) : Option FileText :=
  match call.outcome with
  | .written => some (.whole (raw_schedule call.schedule))
  | .cut_short n => some (.cut (raw_schedule call.schedule) n)
  | .no_directory | .not_opened => none

/-- The texts put in the files, each with its date. -/
def writes (calls : List SaveCall) : List (Date × FileText) :=
  calls.filterMap fun call => (text_of call).map (Prod.mk call.date)

theorem save_answer (files : Files) (call : SaveCall) : (save files call).1 = answer_of call.outcome := by
  unfold save
  cases call.outcome <;> rfl

theorem answer_true {outcome : WriteOutcome} : answer_of outcome = .ok true ↔ outcome = .written := by
  cases outcome <;> simp [answer_of]

/-- Only a text that breaks off is put in a file by a save that fails. -/
theorem text_of_failed {call : SaveCall} {text : FileText} (failed : call.outcome ≠ .written)
    (put : text_of call = some text) :
    ∃ n, call.outcome = .cut_short n ∧ text = .cut (raw_schedule call.schedule) n := by
  cases outcome : call.outcome with
  | written => exact absurd outcome failed
  | no_directory => simp [text_of, outcome] at put
  | not_opened => simp [text_of, outcome] at put
  | cut_short n =>
    simp only [text_of, outcome, Option.some.injEq] at put
    exact ⟨n, rfl, put.symm⟩

theorem mem_writes {calls : List SaveCall} {date : Date} {text : FileText} :
    (date, text) ∈ writes calls ↔ ∃ call ∈ calls, call.date = date ∧ text_of call = some text := by
  simp only [writes, List.mem_filterMap, Option.map_eq_some_iff, Prod.mk.injEq]
  constructor
  · rintro ⟨call, member, _, put, rfl, rfl⟩
    exact ⟨call, member, rfl, put⟩
  · rintro ⟨call, member, rfl, put⟩
    exact ⟨call, member, text, put, rfl, rfl⟩

/-- A date that something was written for is that of a save which got to open
    its file. -/
theorem written_date {calls : List SaveCall} {date : Date} (put : date ∈ (writes calls).map Prod.fst) :
    ∃ call ∈ calls, call.date = date ∧ ∃ text, text_of call = some text := by
  obtain ⟨⟨_, text⟩, sent, rfl⟩ := List.mem_map.mp put
  obtain ⟨call, member, here, opened⟩ := mem_writes.mp sent
  exact ⟨call, member, here, text, opened⟩

theorem save_files (files : Files) (call : SaveCall) (date : Date) :
    (save files call).2 date = (latest (writes [call]) date).or (files date) := by
  by_cases same : call.date = date
  · cases outcome : call.outcome <;>
      simp [save, save_schedule_to_disk, writes, text_of, latest, outcome, same]
  · have untouched : latest (writes [call]) date = none := by
      refine latest_none ?_
      intro put
      obtain ⟨_, member, dated, _⟩ := written_date put
      exact same (List.mem_singleton.mp member ▸ dated)
    rw [untouched, Option.none_or]
    exact save_other call.outcome (Ne.symm same) call.schedule files

/-- A file holds the text last put there, or what it held before the run. -/
theorem run_files (files : Files) (calls : List SaveCall) (date : Date) :
    (Runs.run save files calls).2 date = (latest (writes calls) date).or (files date) := by
  induction calls generalizing files with
  | nil => rfl
  | cons call rest ih =>
    have split : writes (call :: rest) = writes [call] ++ writes rest := List.filterMap_append (l := [call])
    rw [Runs.run, ih, save_files, split, latest_append, Option.or_assoc]

theorem load_cut (now : PyFloat) {date : Date} {raw : RawSchedule} {n : Nat} {files : Files}
    (text : files date = some (.cut raw n)) :
    load_schedule_from_disk now date files = .error .JSONDecodeError := by
  simp [load_schedule_from_disk, text, json_load]

/-- After successful saves of any dates, a load returns the schedule last saved
    for its date. -/
theorem load_undoes_saves (files : Files) (calls : List SaveCall)
    (succeeded : ∀ answered ∈ (Runs.run save files calls).1, answered.2 = .ok true) {date : Date}
    (saved : date ∈ calls.map SaveCall.date) :
    ∃ schedule, latest (calls.map fun call => (call.date, call.schedule)) date = some schedule ∧
      ∀ now, load_schedule_from_disk now date (Runs.run save files calls).2 = .ok schedule := by
  rw [Runs.run_answers save save_answer] at succeeded
  have written : ∀ call ∈ calls, call.outcome = .written := fun call member =>
    answer_true.mp (succeeded _ (List.mem_map_of_mem member))
  have texts : writes calls =
      (calls.map fun call => (call.date, call.schedule)).map (Prod.map id fun s => .whole (raw_schedule s)) := by
    rw [List.map_map, writes, ← List.filterMap_eq_map]
    refine List.filterMap_congr ?_
    intro call member
    simp [text_of, written call member]
  have sent : date ∈ (calls.map fun call => (call.date, call.schedule)).map Prod.fst := by simpa using saved
  obtain ⟨schedule, last, _⟩ := latest_mem sent
  refine ⟨schedule, last, fun now => load_written now ?_⟩
  rw [run_files, texts, latest_map, last]
  rfl

def firstDate : Date := ⟨1970, 1, 1⟩

def bucketWith (level : Option BallLevel) : Schedule :=
  [{ timestamp := 0, machines := [{ Machine.create 1 .Null .nan with ball_level := level }] }]

theorem load_undoes_three_saves : ∃ schedule,
    latest ([SaveCall.mk .written firstDate (bucketWith none), ⟨.written, ⟨1970, 1, 2⟩, []⟩,
      ⟨.written, firstDate, bucketWith (some .Null)⟩].map fun call => (call.date, call.schedule)) firstDate =
        some schedule ∧
      ∀ now, load_schedule_from_disk now firstDate (Runs.run save (fun _ => none)
        [SaveCall.mk .written firstDate (bucketWith none), ⟨.written, ⟨1970, 1, 2⟩, []⟩,
          ⟨.written, firstDate, bucketWith (some .Null)⟩]).2 = .ok schedule :=
  load_undoes_saves _ _ (by decide) (by decide)

/-- Saves of a date that all failed put nothing in its file, or left it with a
    text that breaks off. -/
theorem latest_failed {calls : List SaveCall} {date : Date}
    (failed : ∀ call ∈ calls, call.date = date → call.outcome ≠ .written) :
    ((∀ call ∈ calls, call.date = date → ∀ n, call.outcome ≠ .cut_short n) ∧ latest (writes calls) date = none) ∨
    ((∃ call ∈ calls, call.date = date ∧ ∃ n, call.outcome = .cut_short n) ∧
      ∃ raw n, latest (writes calls) date = some (.cut raw n)) := by
  by_cases put : date ∈ (writes calls).map Prod.fst
  · obtain ⟨text, last, sent⟩ := latest_mem put
    obtain ⟨call, member, here, opened⟩ := mem_writes.mp sent
    obtain ⟨n, outcome, rfl⟩ := text_of_failed (failed call member here) opened
    exact .inr ⟨⟨call, member, here, n, outcome⟩, _, n, last⟩
  · refine .inl ⟨fun call member here n outcome => put ?_, latest_none put⟩
    exact List.mem_map_of_mem (mem_writes.mpr ⟨call, member, here, by rw [text_of, outcome]⟩)

/-- After a successful save and none since for its date, a load returns what it
    saved just when no save of the date failed with the file already emptied. -/
theorem failed_saves_keep_iff (files : Files) (first : SaveCall) (saved : (save files first).1 = .ok true)
    (later : List SaveCall)
    (failed : ∀ answered ∈ (Runs.run save (save files first).2 later).1,
      answered.1.date = first.date → answered.2 ≠ .ok true) :
    (∀ now, load_schedule_from_disk now first.date (Runs.run save (save files first).2 later).2 =
        .ok first.schedule) ↔
      ∀ call ∈ later, call.date = first.date → ∀ n, call.outcome ≠ .cut_short n := by
  rw [Runs.run_answers save save_answer] at failed
  have unwritten : ∀ call ∈ later, call.date = first.date → call.outcome ≠ .written := fun call member here =>
    mt answer_true.mpr (failed _ (List.mem_map_of_mem member) here)
  have start : (save files first).2 first.date = some (.whole (raw_schedule first.schedule)) := by
    rw [save_answer, answer_true] at saved
    simp [save, save_schedule_to_disk, saved]
  have final := run_files (save files first).2 later first.date
  rcases latest_failed unwritten with ⟨whole, untouched⟩ | ⟨⟨call, member, here, n, outcome⟩, raw, m, emptied⟩
  · rw [untouched, Option.none_or, start] at final
    exact iff_of_true (fun now => load_written now final) whole
  · rw [emptied, Option.some_or] at final
    refine iff_of_false (fun loads => ?_) fun whole => whole call member here n outcome
    have broken := load_cut .nan final
    rw [loads .nan] at broken
    cases broken

theorem unopened_saves_keep :
    (∀ now, load_schedule_from_disk now firstDate (Runs.run save
        (save (fun _ => none) ⟨.written, firstDate, bucketWith none⟩).2
        [⟨.not_opened, firstDate, []⟩, ⟨.cut_short 3, ⟨1970, 1, 2⟩, []⟩]).2 = .ok (bucketWith none)) ↔
      ∀ call ∈ [SaveCall.mk .not_opened firstDate [], ⟨.cut_short 3, ⟨1970, 1, 2⟩, []⟩],
        call.date = firstDate → ∀ n, call.outcome ≠ .cut_short n :=
  failed_saves_keep_iff (fun _ => none) ⟨.written, firstDate, bucketWith none⟩ (by decide) _ (by decide)

/-- A save that fails at the first character leaves an empty file. -/
theorem emptied_file_lost :
    ¬ ∀ (files : Files) (first second : SaveCall), (save files first).1 = .ok true →
      second.date = first.date → (save (save files first).2 second).1 = .ok false →
      ∀ now, load_schedule_from_disk now first.date (save (save files first).2 second).2 = .ok first.schedule := by
  intro claim
  have kept := claim (fun _ => none) ⟨.written, firstDate, bucketWith none⟩ ⟨.cut_short 0, firstDate, []⟩
    (by decide) rfl (by decide) .nan
  have text : (save (save (fun _ => none) ⟨.written, firstDate, bucketWith none⟩).2
      ⟨.cut_short 0, firstDate, []⟩).2 firstDate = some (.cut [] 0) := rfl
  cases kept.symm.trans (load_cut .nan text)

end DispenserHub.Storage
