import DispenserHub.Runs
import Mathlib.Data.List.Basic

/-!
Two inputs of a machine are independent when neither sees the other: each gets
the answer it would get without the other before it, and both orders end in the
same state. If every input of one stream is independent of every input of
another, then any interleaving answers each stream as it is answered alone, and
ends where one stream after the other ends. A run may be followed on a second
machine that keeps less of the state and of the inputs.
-/

namespace DispenserHub.Interleaving
open Runs

section
variable {σ ι ο : Type*} (step : σ → ι → ο × σ)

structure Independent (a b : ι) : Prop where
  first : ∀ s, (step (step s b).2 a).1 = (step s a).1
  second : ∀ s, (step (step s a).2 b).1 = (step s b).1
  meet : ∀ s, (step (step s a).2 b).2 = (step (step s b).2 a).2

variable {step}

theorem Independent.symm {a b : ι} (apart : Independent step a b) : Independent step b a :=
  ⟨apart.second, apart.first, fun s => (apart.meet s).symm⟩

/-- An input passes a list of inputs it is independent of. -/
theorem run_past {a : ι} {inputs : List ι} (apart : ∀ b ∈ inputs, Independent step a b) (s : σ) :
    (run step (step s a).2 inputs).1 = (run step s inputs).1 ∧
      (run step (step s a).2 inputs).2 = (step (run step s inputs).2 a).2 := by
  induction inputs generalizing s with
  | nil => exact ⟨rfl, rfl⟩
  | cons b rest ih =>
    have here := apart b (by simp)
    obtain ⟨answers, ends⟩ := ih (fun c member => apart c (by simp [member])) (step s b).2
    rw [← here.meet s] at answers ends
    simp only [run, here.second s, answers, ends, and_self]

end

section
variable {σ ι ο : Type*}

/-- The inputs of one stream, in order. -/
def stream (side : Bool) (inputs : List (Bool × ι)) : List ι := (inputs.filter fun i => i.1 = side).map Prod.snd

/-- The answers that one stream got, in order. -/
def answers (side : Bool) (history : List ((Bool × ι) × ο)) : List ο :=
  (history.filter fun entry => entry.1.1 = side).map Prod.snd

/-- The machine does not look at the stream an input comes from. -/
def merged (step : σ → ι → ο × σ) (s : σ) (input : Bool × ι) : ο × σ := step s input.2

theorem stream_cons (side : Bool) (i : Bool × ι) (inputs : List (Bool × ι)) :
    stream side (i :: inputs) = if i.1 = side then i.2 :: stream side inputs else stream side inputs := by
  by_cases own : i.1 = side <;> simp [stream, own]

theorem answers_cons (side : Bool) (entry : (Bool × ι) × ο) (history : List ((Bool × ι) × ο)) :
    answers side (entry :: history) = if entry.1.1 = side then entry.2 :: answers side history else answers side history := by
  by_cases own : entry.1.1 = side <;> simp [answers, own]

theorem mem_stream {side : Bool} {inputs : List (Bool × ι)} {i : ι} :
    i ∈ stream side inputs ↔ (side, i) ∈ inputs := by
  simp [stream]

variable {step : σ → ι → ο × σ}

/-- Each stream is answered as it would be alone, and the run ends where the
    one stream followed by the other ends. -/
theorem run_streams {inputs : List (Bool × ι)}
    (apart : ∀ a ∈ stream true inputs, ∀ b ∈ stream false inputs, Independent step a b) (s : σ) :
    (∀ side, answers side (run (merged step) s inputs).1 = (run step s (stream side inputs)).1.map Prod.snd) ∧
      (run (merged step) s inputs).2 = (run step (run step s (stream true inputs)).2 (stream false inputs)).2 := by
  induction inputs generalizing s with
  | nil => exact ⟨fun side => rfl, rfl⟩
  | cons i rest ih =>
    obtain ⟨side, i⟩ := i
    cases side with
    | true =>
      simp only [stream_cons, if_true, Bool.true_eq_false, if_false] at apart ⊢
      obtain ⟨alone, ends⟩ := ih (fun a left b right => apart a (by simp [left]) b right) (step s i).2
      have past := run_past (fun b right => apart i (by simp) b right) s
      refine ⟨?_, ends⟩
      rintro (_ | _)
      · simpa [run, merged, answers_cons, stream_cons, past.1] using alone false
      · simpa [run, merged, answers_cons, stream_cons] using alone true
    | false =>
      simp only [stream_cons, if_true, Bool.false_eq_true, if_false] at apart ⊢
      obtain ⟨alone, ends⟩ := ih (fun a left b right => apart a left b (by simp [right])) (step s i).2
      have past := run_past (fun a left => (apart a left i (by simp)).symm) s
      refine ⟨?_, ?_⟩
      · rintro (_ | _)
        · simpa [run, merged, answers_cons, stream_cons] using alone false
        · simpa [run, merged, answers_cons, stream_cons, past.1] using alone true
      · rw [past.2] at ends
        exact ends

/-- Two interleavings of the same streams give every stream the same answers
    and end in the same state. -/
theorem runs_agree {inputs inputs' : List (Bool × ι)} (same : ∀ side, stream side inputs' = stream side inputs)
    (apart : ∀ a ∈ stream true inputs, ∀ b ∈ stream false inputs, Independent step a b) (s : σ) :
    (∀ side, answers side (run (merged step) s inputs').1 = answers side (run (merged step) s inputs).1) ∧
      (run (merged step) s inputs').2 = (run (merged step) s inputs).2 := by
  obtain ⟨alone, ends⟩ := run_streams apart s
  obtain ⟨alone', ends'⟩ := run_streams (by rw [same, same]; exact apart) s
  refine ⟨?_, ?_⟩
  · intro side
    rw [alone, alone', same]
  · rw [ends, ends', same, same]

end

section
variable {σ τ ι κ ο : Type*} {step : σ → ι → ο × σ} {step' : τ → κ → ο × τ}

/-- Every step from a related state, on an allowed input, is answered as the
    other machine answers it and ends in a related state. -/
def Follows (step : σ → ι → ο × σ) (step' : τ → κ → ο × τ) (erase : ι → κ) (Allowed : ι → Prop)
    (related : σ → τ → Prop) : Prop :=
  ∀ s t i, Allowed i → related s t →
    (step s i).1 = (step' t (erase i)).1 ∧ related (step s i).2 (step' t (erase i)).2

theorem run_follows {erase : ι → κ} {Allowed : ι → Prop} {related : σ → τ → Prop}
    (follows : Follows step step' erase Allowed related) {s : σ} {t : τ} (start : related s t) {inputs : List ι}
    (allowed : ∀ i ∈ inputs, Allowed i) :
    (run step s inputs).1.map (Prod.map erase id) = (run step' t (inputs.map erase)).1 ∧
      related (run step s inputs).2 (run step' t (inputs.map erase)).2 := by
  induction inputs generalizing s t with
  | nil => exact ⟨rfl, start⟩
  | cons i rest ih =>
    obtain ⟨answered, next⟩ := follows s t i (allowed i (by simp)) start
    obtain ⟨history, ends⟩ := ih next fun j member => allowed j (by simp [member])
    simp only [run, List.map_cons, Prod.map, id, answered]
    exact ⟨congrArg _ history, ends⟩

theorem answers_erased (erase : ι → κ) (side : Bool) (history : List ((Bool × ι) × ο)) :
    answers side (history.map (Prod.map (Prod.map id erase) id)) = answers side history := by
  simp [answers, List.filter_map, Function.comp_def]

theorem stream_erased (erase : ι → κ) (side : Bool) (inputs : List (Bool × ι)) :
    stream side (inputs.map (Prod.map id erase)) = (stream side inputs).map erase := by
  simp [stream, List.filter_map, Function.comp_def]

end

end DispenserHub.Interleaving
