import RationalCalc.Fault

/-!
A run of a stack machine over a list of inputs. A run that a fault stops leaves a state behind, and
every run reports the greatest size any state had, which is what the store behind the stack had to
hold. The outcome alone is the ordinary fold.
-/

namespace RationalCalc

structure Stop (σ : Type) where
  fault : Fault
  state : σ

structure Course (σ α : Type) where
  outcome : Except (Stop σ) α
  peak : Nat

namespace Course

def run (step : σ → τ → Except (Stop σ) σ) (size : σ → Nat) (state : σ) : List τ → Course σ σ
  | [] => ⟨.ok state, size state⟩
  | input :: rest =>
      match step state input with
      | .error stop => ⟨.error stop, size state⟩
      | .ok next =>
          let later := run step size next rest
          ⟨later.outcome, max (size state) later.peak⟩

/-- A last step, which makes the state no larger. -/
def ending (course : Course σ σ) (last : σ → Except (Stop σ) α) : Course σ α :=
  ⟨course.outcome.bind last, course.peak⟩

def answer (course : Course σ α) : Except Fault α :=
  course.outcome.mapError Stop.fault

theorem run_outcome (step : σ → τ → Except (Stop σ) σ) (size : σ → Nat) (state : σ)
    (inputs : List τ) : (run step size state inputs).outcome = inputs.foldlM step state := by
  induction inputs generalizing state with
  | nil => rfl
  | cons input rest ih =>
      simp only [run, List.foldlM_cons]
      cases step state input with
      | error stop => rfl
      | ok next => exact ih next

end Course

end RationalCalc
