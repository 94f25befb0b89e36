import Mathlib.Data.List.Basic

/-!
Machines that read and write: a step takes a state and an input to an output and
the next state. A machine whose step on two inputs together is the step on the one
followed by that on the other does not see how its input is cut (`run_additive`).
A machine that owes a part of its output refines one that never does, if it writes
the same and then owes what that is ahead by (`run_owing`).
-/
namespace VibeBridge.Transducer

section
variable {σ τ υ α γ β : Type}

/-- What one step writes, and then another from the state that it leaves. -/
def follow (first : List β × σ) (next : σ → List β × τ) : List β × τ := (first.1 ++ (next first.2).1,(next first.2).2)

@[simp] theorem follow_fst (first : List β × σ) (next : σ → List β × τ) :
    (follow first next).1 = first.1 ++ (next first.2).1 := rfl

@[simp] theorem follow_snd (first : List β × σ) (next : σ → List β × τ) : (follow first next).2 = (next first.2).2 := rfl

theorem follow_assoc (first : List β × σ) (second : σ → List β × τ) (third : τ → List β × υ) :
    follow (follow first second) third = follow first (fun s => follow (second s) third) := by
  simp [follow]

/-- Only what happens from the state that is left matters. -/
theorem follow_congr {first : List β × σ} {next next' : σ → List β × τ} (same : next first.2 = next' first.2) :
    follow first next = follow first next' := by
  rw [follow,follow,same]

theorem follow_nothing (s : σ) (next : σ → List β × τ) : follow ([],s) next = next s := by
  simp [follow]

theorem follow_idle (first : List β × σ) : follow first (fun s => ([],s)) = first := by
  simp [follow]

/-- A machine on a list of inputs. -/
def run (step : σ → α → List β × σ) (s : σ) : List α → List β × σ
  | [] => ([],s)
  | a :: rest => follow (step s a) (fun after => run step after rest)

/-- What the machine writes at each of them. -/
def outputs (step : σ → α → List β × σ) (s : σ) : List α → List (List β)
  | [] => []
  | a :: rest => (step s a).1 :: outputs step (step s a).2 rest

theorem outputs_flatten (step : σ → α → List β × σ) (s : σ) (inputs : List α) :
    (outputs step s inputs).flatten = (run step s inputs).1 := by
  induction inputs generalizing s with
  | nil => rfl
  | cons a rest ih => rw [outputs,List.flatten_cons,ih,run,follow_fst]

theorem run_singleton (step : σ → α → List β × σ) (s : σ) (a : α) : run step s [a] = step s a := follow_idle _

theorem run_append (step : σ → α → List β × σ) (s : σ) (front rest : List α) :
    run step s (front ++ rest) = follow (run step s front) (fun after => run step after rest) := by
  induction front generalizing s with
  | nil => rw [List.nil_append,run,follow_nothing]
  | cons a front ih =>
    rw [List.cons_append,run,run,follow_assoc]
    exact follow_congr (ih _)

/-- A machine on lists of inputs. -/
theorem run_flatten (step : σ → α → List β × σ) (s : σ) (inputs : List (List α)) :
    run step s inputs.flatten = run (run step) s inputs := by
  induction inputs generalizing s with
  | nil => rfl
  | cons a rest ih =>
    rw [List.flatten_cons,run_append,run]
    exact follow_congr (ih _)

theorem run_map (step : σ → γ → List β × σ) (f : α → γ) (s : σ) (inputs : List α) :
    run step s (inputs.map f) = run (fun s a => step s (f a)) s inputs := by
  induction inputs generalizing s with
  | nil => rfl
  | cons a rest ih => exact follow_congr (ih _)

/-- What is kept by every step is kept by a run. -/
theorem run_keeps {step : σ → α → List β × σ} {P : σ → Prop} (kept : ∀ s a, P s → P (step s a).2) {s : σ}
    (start : P s) (inputs : List α) : P (run step s inputs).2 := by
  induction inputs generalizing s with
  | nil => exact start
  | cons a rest ih => exact ih (kept s a start)

/-- A machine that does not see how its input is cut. -/
theorem run_additive {step : σ → List α → List β × σ} {P : σ → Prop} (kept : ∀ s a, P s → P (step s a).2)
    (nothing : ∀ s, P s → step s [] = ([],s))
    (joins : ∀ s a b, P s → follow (step s a) (fun after => step after b) = step s (a ++ b)) {s : σ} (start : P s)
    (inputs : List (List α)) : run step s inputs = step s inputs.flatten := by
  induction inputs generalizing s with
  | nil => exact (nothing s start).symm
  | cons a rest ih =>
    rw [run,List.flatten_cons,← joins s a _ start]
    exact follow_congr (ih (kept s a start))

/-- A machine that writes what another one does, and owes the rest. -/
theorem run_owing {step : σ → α → List β × σ} {step' : τ → γ → List β × τ} {owed : σ → List β × τ} {parts : α → List γ}
    {P : σ → Prop} (kept : ∀ s a, P s → P (step s a).2)
    (one : ∀ s a, P s → follow (step s a) owed = follow (owed s) (fun t => run step' t (parts a))) {s : σ} (start : P s)
    (inputs : List α) : follow (run step s inputs) owed = follow (owed s) (fun t => run step' t (inputs.flatMap parts)) := by
  induction inputs generalizing s with
  | nil =>
    rw [run,follow_nothing,List.flatMap_nil]
    exact (follow_idle _).symm
  | cons a rest ih =>
    have later := ih (kept s a start)
    let writes_rest := fun t => run step' t (rest.flatMap parts)
    calc follow (follow (step s a) (fun after => run step after rest)) owed
        = follow (step s a) (fun after => follow (run step after rest) owed) := follow_assoc _ _ _
      _ = follow (step s a) (fun after => follow (owed after) writes_rest) := follow_congr later
      _ = follow (follow (step s a) owed) writes_rest := (follow_assoc _ _ _).symm
      _ = follow (follow (owed s) (fun t => run step' t (parts a))) writes_rest := by rw [one s a start]
      _ = follow (owed s) (fun t => follow (run step' t (parts a)) writes_rest) := follow_assoc _ _ _
      _ = follow (owed s) (fun t => run step' t ((a :: rest).flatMap parts)) := by
        simp only [writes_rest,List.flatMap_cons,run_append]

end

end VibeBridge.Transducer
