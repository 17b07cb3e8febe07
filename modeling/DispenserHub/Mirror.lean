import Mathlib.Data.List.Basic
import Mathlib.Data.List.Nodup

/-!
A log of sent pairs of a key and a value, and the value last sent for a key.
A log mirrors a row when it last sent the value of every key of it. It goes on
to mirror the next row when what changed from one to the other is sent.
-/

namespace DispenserHub.Mirror

variable {κ ν : Type*} [DecidableEq κ]

def latest (log : List (κ × ν)) (key : κ) : Option ν := (log.reverse.find? fun e => e.1 = key).map Prod.snd

/-- The last value sent for every key of the row is its value there. -/
def Mirrors (log row : List (κ × ν)) : Prop := ∀ e ∈ row, latest log e.1 = some e.2

theorem latest_append (log batch : List (κ × ν)) (key : κ) :
    latest (log ++ batch) key = (latest batch key).or (latest log key) := by
  rw [latest, List.reverse_append, List.find?_append, Option.map_or]
  rfl

theorem latest_cons (e : κ × ν) (rest : List (κ × ν)) (key : κ) :
    latest (e :: rest) key = (latest rest key).or (if e.1 = key then some e.2 else none) := by
  rw [← List.singleton_append, latest_append]
  by_cases same : e.1 = key <;> simp [latest, same]

theorem latest_none {batch : List (κ × ν)} {key : κ} (absent : key ∉ batch.map Prod.fst) :
    latest batch key = none := by
  simp only [latest, Option.map_eq_none_iff, List.find?_eq_none, List.mem_reverse, decide_eq_true_eq]
  rintro e member rfl
  exact absent (List.mem_map_of_mem member)

/-- A key of the log has a latest value, and it was sent for that key. -/
theorem latest_mem {log : List (κ × ν)} {key : κ} (sent : key ∈ log.map Prod.fst) :
    ∃ value, latest log key = some value ∧ (key, value) ∈ log := by
  cases found : log.reverse.find? fun e => e.1 = key with
  | none =>
    obtain ⟨e, member, rfl⟩ := List.mem_map.mp sent
    simpa using List.find?_eq_none.mp found e (List.mem_reverse.mpr member)
  | some e =>
    have member := List.mem_reverse.mp (List.mem_of_find?_eq_some found)
    obtain rfl : e.1 = key := by simpa using List.find?_some found
    exact ⟨e.2, by rw [latest, found]; rfl, member⟩

theorem latest_map {μ : Type*} (f : ν → μ) (log : List (κ × ν)) (key : κ) :
    latest (log.map (Prod.map id f)) key = (latest log key).map f := by
  induction log with
  | nil => rfl
  | cons e rest ih =>
    rw [List.map_cons, ← List.singleton_append, latest_append, ih, ← List.singleton_append (x := e), latest_append,
      Option.map_or]
    by_cases same : e.1 = key <;> simp [latest, same]

theorem latest_append_other (log : List (κ × ν)) {batch : List (κ × ν)} {key : κ}
    (absent : key ∉ batch.map Prod.fst) : latest (log ++ batch) key = latest log key := by
  rw [latest_append, latest_none absent, Option.none_or]

theorem latest_concat (log : List (κ × ν)) (e : κ × ν) : latest (log ++ [e]) e.1 = some e.2 := by
  rw [latest_append]
  simp [latest]

/-- Sending a whole row that names each key once makes the log mirror it. -/
theorem mirrors_append (log : List (κ × ν)) {row : List (κ × ν)} (nodup : (row.map Prod.fst).Nodup) :
    Mirrors (log ++ row) row := by
  induction row generalizing log with
  | nil => intro e member; cases member
  | cons first rest ih =>
    rw [List.map_cons, List.nodup_cons] at nodup
    rw [List.append_cons]
    intro e member
    rcases List.mem_cons.mp member with rfl | later
    · rw [latest_append_other _ nodup.1, latest_concat]
    · exact ih (log ++ [first]) nodup.2 e later

theorem Mirrors.eq {log row row' : List (κ × ν)} (mirrors : Mirrors log row) (mirrors' : Mirrors log row')
    (aligned : row.map Prod.fst = row'.map Prod.fst) : row = row' := by
  induction row generalizing row' with
  | nil => exact (List.map_eq_nil_iff.mp aligned.symm).symm
  | cons e rest ih =>
    cases row' with
    | nil => cases aligned
    | cons e' rest' =>
      rw [List.map_cons, List.map_cons, List.cons.injEq] at aligned
      have here := mirrors e (by simp)
      have here' := mirrors' e' (by simp)
      rw [aligned.1, here', Option.some.injEq] at here
      rw [ih (fun x member => mirrors x (by simp [member])) (fun x member => mirrors' x (by simp [member])) aligned.2,
        Prod.ext aligned.1 here.symm]

/-- The pairs whose value differs from the one at the same place before. -/
def changes [DecidableEq ν] (current previous : List (κ × ν)) : List (κ × ν) :=
  ((current.zip previous).filter fun e => e.1.2 ≠ e.2.2).map Prod.fst

omit [DecidableEq κ] in
@[simp] theorem changes_self [DecidableEq ν] (row : List (κ × ν)) : changes row row = [] := by
  induction row with
  | nil => rfl
  | cons e rest ih => simpa [changes] using ih

omit [DecidableEq κ] in
theorem changes_keys [DecidableEq ν] (current previous : List (κ × ν)) :
    (changes current previous).map Prod.fst ⊆ current.map Prod.fst := by
  intro key sent
  obtain ⟨e, changed, rfl⟩ := List.mem_map.mp sent
  obtain ⟨⟨e', e₀⟩, kept, rfl⟩ := List.mem_map.mp changed
  exact List.mem_map_of_mem (List.of_mem_zip (List.mem_filter.mp kept).1).1

/-- Sending the changes takes a log from one row to the next. -/
theorem Mirrors.changes [DecidableEq ν] {log current previous : List (κ × ν)} (mirrors : Mirrors log previous)
    (aligned : current.map Prod.fst = previous.map Prod.fst) (nodup : (current.map Prod.fst).Nodup) :
    Mirrors (log ++ changes current previous) current := by
  induction current generalizing log previous with
  | nil => intro e member; cases member
  | cons e rest ih =>
    cases previous with
    | nil => cases aligned
    | cons e₀ rest₀ =>
      rw [List.map_cons, List.map_cons, List.cons.injEq] at aligned
      rw [List.map_cons, List.nodup_cons] at nodup
      have unsent : e.1 ∉ (Mirror.changes rest rest₀).map Prod.fst := fun sent => nodup.1 (changes_keys _ _ sent)
      by_cases same : e.2 = e₀.2
      · -- The head is not sent: what was sent for its key before still stands.
        have quiet : Mirror.changes (e :: rest) (e₀ :: rest₀) = Mirror.changes rest rest₀ := by
          simp [Mirror.changes, same]
        rw [quiet]
        intro x member
        rcases List.mem_cons.mp member with rfl | later
        · rw [latest_append_other _ unsent, aligned.1, mirrors e₀ (by simp), same]
        · exact ih (fun y before => mirrors y (by simp [before])) aligned.2 nodup.2 x later
      · have sent : Mirror.changes (e :: rest) (e₀ :: rest₀) = e :: Mirror.changes rest rest₀ := by
          simp [Mirror.changes, same]
        rw [sent, List.append_cons]
        have tail : Mirrors (log ++ [e]) rest₀ := by
          intro y before
          have other : y.1 ∉ [e].map Prod.fst := by
            rw [List.map_singleton, List.mem_singleton]
            intro key
            apply nodup.1
            rw [← key, aligned.2]
            exact List.mem_map_of_mem before
          rw [latest_append_other _ other]
          exact mirrors y (by simp [before])
        intro x member
        rcases List.mem_cons.mp member with rfl | later
        · rw [latest_append_other _ unsent, latest_concat]
        · exact ih tail aligned.2 nodup.2 x later

/-- After the changes between two rows the value last sent for a key is the later
    row's where the rows differ, and what it was where they do not. -/
theorem latest_changes [DecidableEq ν] (log : List (κ × ν)) {current previous : List (κ × ν)}
    (aligned : current.map Prod.fst = previous.map Prod.fst) (nodup : (current.map Prod.fst).Nodup) (key : κ) :
    latest (log ++ changes current previous) key =
      if latest current key = latest previous key then latest log key else latest current key := by
  rw [latest_append]
  induction current generalizing previous with
  | nil =>
    cases previous with
    | nil => rfl
    | cons => cases aligned
  | cons e rest ih =>
    cases previous with
    | nil => cases aligned
    | cons e₀ rest₀ =>
      rw [List.map_cons, List.map_cons, List.cons.injEq] at aligned
      rw [List.map_cons, List.nodup_cons] at nodup
      have tail := ih aligned.2 nodup.2
      rw [latest_cons, latest_cons, ← aligned.1]
      by_cases here : e.1 = key
      · -- The key is the head's and no other's.
        subst here
        have absent₀ : e.1 ∉ rest₀.map Prod.fst := by rw [← aligned.2]; exact nodup.1
        have unsent : latest (Mirror.changes rest rest₀) e.1 = none :=
          latest_none fun sent => nodup.1 (changes_keys _ _ sent)
        rw [latest_none nodup.1, latest_none absent₀]
        by_cases same : e.2 = e₀.2
        · have quiet : Mirror.changes (e :: rest) (e₀ :: rest₀) = Mirror.changes rest rest₀ := by
            simp [Mirror.changes, same]
          simp [quiet, unsent, same]
        · have sent : Mirror.changes (e :: rest) (e₀ :: rest₀) = e :: Mirror.changes rest rest₀ := by
            simp [Mirror.changes, same]
          simp [sent, latest_cons, unsent, same]
      · have other : latest (Mirror.changes (e :: rest) (e₀ :: rest₀)) key = latest (Mirror.changes rest rest₀) key := by
          by_cases same : e.2 = e₀.2
          · simp [Mirror.changes, same]
          · have sent : Mirror.changes (e :: rest) (e₀ :: rest₀) = e :: Mirror.changes rest rest₀ := by
              simp [Mirror.changes, same]
            rw [sent, latest_cons, if_neg here, Option.or_none]
        rw [other, tail, if_neg here, if_neg here, Option.or_none, Option.or_none]

end DispenserHub.Mirror
