import Mathlib.Data.List.Induction

/-!
A machine takes one input at a time, answers it and moves to its next state.
A run keeps every input beside its answer, so an invariant may speak of what
was answered so far. A law proved of every run holds in every state reached,
since each of these ends a run of its own.
-/

namespace DispenserHub.Runs

variable {σ ι ο : Type*}

/-- The answered inputs of a run, in order, and the state it ends in. -/
def run (step : σ → ι → ο × σ) : σ → List ι → List (ι × ο) × σ
  | s, [] => ([], s)
  | s, i :: rest =>
    let later := run step (step s i).2 rest
    ((i, (step s i).1) :: later.1, later.2)

variable (step : σ → ι → ο × σ)

theorem run_append (s : σ) (earlier later : List ι) :
    run step s (earlier ++ later) =
      ((run step s earlier).1 ++ (run step (run step s earlier).2 later).1,
        (run step (run step s earlier).2 later).2) := by
  induction earlier generalizing s with
  | nil => rfl
  | cons i rest ih => simp [run, ih]

theorem run_concat (s : σ) (inputs : List ι) (i : ι) :
    run step s (inputs ++ [i]) =
      ((run step s inputs).1 ++ [(i, (step (run step s inputs).2 i).1)],
        (step (run step s inputs).2 i).2) := by
  rw [run_append]; rfl

@[simp] theorem run_inputs (s : σ) (inputs : List ι) : (run step s inputs).1.map Prod.fst = inputs := by
  induction inputs generalizing s with
  | nil => rfl
  | cons i rest ih => rw [run, List.map_cons, ih]

/-- Where an input is answered the same in every state, so is it in a run. -/
theorem run_answers {answer : ι → ο} (answers : ∀ s i, (step s i).1 = answer i) (s : σ) (inputs : List ι) :
    (run step s inputs).1 = inputs.map fun i => (i, answer i) := by
  induction inputs generalizing s with
  | nil => rfl
  | cons i rest ih => rw [run, ih, answers, List.map_cons]

/-- What holds at the start and is kept by every allowed input holds after
    every run of allowed inputs. -/
theorem run_invariant_of (Allowed : ι → Prop) (Inv : List (ι × ο) → σ → Prop) {s : σ} (init : Inv [] s)
    (keep : ∀ history s i, Allowed i → Inv history s →
      Inv (history ++ [(i, (step s i).1)]) (step s i).2)
    (inputs : List ι) (allowed : ∀ i ∈ inputs, Allowed i) :
    Inv (run step s inputs).1 (run step s inputs).2 := by
  induction inputs using List.reverseRecOn with
  | nil => exact init
  | append_singleton earlier i ih =>
    rw [run_concat]
    exact keep _ _ i (allowed i (by simp)) (ih fun j member => allowed j (by simp [member]))

/-- What holds at the start and is kept by every input holds after every run. -/
theorem run_invariant (Inv : List (ι × ο) → σ → Prop) {s : σ} (init : Inv [] s)
    (keep : ∀ history s i, Inv history s → Inv (history ++ [(i, (step s i).1)]) (step s i).2)
    (inputs : List ι) : Inv (run step s inputs).1 (run step s inputs).2 :=
  run_invariant_of step (fun _ => True) Inv init (fun history s i _ => keep history s i) inputs
    (fun _ _ => trivial)

/-- The same for a machine that does not take every input in every state. -/
theorem foldlM_invariant (step : σ → ι → Option σ) (Inv : List ι → σ → Prop) {s : σ} (init : Inv [] s)
    (keep : ∀ earlier s i after, step s i = some after → Inv earlier s → Inv (earlier ++ [i]) after)
    {inputs : List ι} {after : σ} (ran : inputs.foldlM step s = some after) : Inv inputs after := by
  induction inputs using List.reverseRecOn generalizing after with
  | nil =>
    obtain rfl : s = after := by simpa using ran
    exact init
  | append_singleton earlier i ih =>
    rw [List.foldlM_append] at ran
    obtain ⟨before, ran_earlier, last⟩ := Option.bind_eq_some_iff.mp ran
    exact keep earlier before i after (by simpa using last) (ih ran_earlier)

/-- Erasing the answered inputs that a second machine need not see: what it is
    given it answers the same, and it stays related to the first. -/
theorem run_erase {τ : Type*} (step' : τ → ι → ο × τ) (Allowed : ι → Prop) (Rel : σ → τ → Prop) (seen : ι × ο → Bool)
    (silent : ∀ s t i, Allowed i → Rel s t → seen (i, (step s i).1) = false → Rel (step s i).2 t)
    (follows : ∀ s t i, Allowed i → Rel s t → seen (i, (step s i).1) = true →
      (step' t i).1 = (step s i).1 ∧ Rel (step s i).2 (step' t i).2)
    {s : σ} {t : τ} (rel : Rel s t) (inputs : List ι) (allowed : ∀ i ∈ inputs, Allowed i) :
    (run step' t (((run step s inputs).1.filter seen).map Prod.fst)).1 = (run step s inputs).1.filter seen ∧
      Rel (run step s inputs).2 (run step' t (((run step s inputs).1.filter seen).map Prod.fst)).2 := by
  induction inputs generalizing s t with
  | nil => exact ⟨rfl, rel⟩
  | cons i rest ih =>
    have later := fun j (member : j ∈ rest) => allowed j (List.mem_cons_of_mem i member)
    rw [run]
    cases shown : seen (i, (step s i).1) with
    | false =>
      rw [List.filter_cons_of_neg (by simp [shown])]
      exact ih (silent s t i (allowed i (by simp)) rel shown) later
    | true =>
      obtain ⟨same, next⟩ := follows s t i (allowed i (by simp)) rel shown
      obtain ⟨answers, ends⟩ := ih next later
      rw [List.filter_cons_of_pos shown, List.map_cons, run]
      exact ⟨by rw [answers, same], ends⟩

/-- What holds after every input of a run holds after its first one, and after
    every input of the run from there. -/
theorem always_cons (P : ι → σ → Prop) (s : σ) (j : ι) (rest : List ι) :
    (∀ earlier k, earlier ++ [k] <+: j :: rest → P k (run step s (earlier ++ [k])).2) ↔
      P j (step s j).2 ∧ ∀ earlier k, earlier ++ [k] <+: rest → P k (run step (step s j).2 (earlier ++ [k])).2 := by
  constructor
  · intro always
    exact ⟨always [] j (by simp), fun earlier k upTo => always (j :: earlier) k (by simpa using upTo)⟩
  · rintro ⟨here, always⟩ earlier k upTo
    cases earlier with
    | nil =>
      obtain rfl : k = j := by simpa using upTo
      exact here
    | cons e earlier =>
      rw [List.cons_append, List.cons_prefix_cons] at upTo
      obtain ⟨rfl, upTo⟩ := upTo
      exact always earlier k upTo

/-- A state stands at the last input that was seen, and may be right for it. Inputs
    that are not seen leave it as it is; the next one seen leaves a right state
    right exactly if the two are related. So a run is right after all that it sees
    exactly if they are related in turn. -/
theorem run_always_iff_chain (seen : ι → Bool) (Allowed : ι → Prop) (At Right : ι → σ → Prop) (Related : ι → ι → Prop)
    (silent : ∀ i s j, seen j = false → At i s → At i (step s j).2 ∧ (Right i s → Right i (step s j).2))
    (next : ∀ i s j, Allowed j → seen j = true → At i s →
      At j (step s j).2 ∧ (Right i s → (Right j (step s j).2 ↔ Related i j)))
    {i : ι} {s : σ} (stands : At i s) (right : Right i s) (inputs : List ι) (allowed : ∀ j ∈ inputs, Allowed j) :
    (∀ earlier j, earlier ++ [j] <+: inputs → seen j = true → Right j (run step s (earlier ++ [j])).2) ↔
      (i :: inputs.filter seen).IsChain Related := by
  induction inputs generalizing i s with
  | nil => simp
  | cons j rest ih =>
    have later := fun k (member : k ∈ rest) => allowed k (List.mem_cons_of_mem j member)
    rw [always_cons step fun k t => seen k = true → Right k t]
    cases shown : seen j with
    | false =>
      obtain ⟨stays, kept⟩ := silent i s j shown stands
      rw [List.filter_cons_of_neg (by simp [shown]), ← ih stays (kept right) later]
      simp
    | true =>
      obtain ⟨moves, exactly⟩ := next i s j (allowed j (by simp)) shown stands
      rw [List.filter_cons_of_pos shown, List.isChain_cons_cons, ← exactly right]
      simp only [true_implies]
      exact and_congr_right fun here => ih moves here later

end DispenserHub.Runs
