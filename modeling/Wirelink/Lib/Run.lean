/-
Module: Wirelink.Lib.Run
Purpose: Runs of a machine as a fold over its inputs. One rule turns an invariant that is kept until
  the machine breaks, and a break that shows at once, into an exact condition: every state of a run
  is safe if and only if no state of it is broken, or no step of it breaks.
Trusted boundary: none
-/
import Mathlib.Tactic.Common

namespace Wirelink

variable {State Input : Type*} {step : State → Input → State} {Inv Safe Broken : State → Prop}

/-- Every state of a run is safe exactly when no state of it is broken, if the invariant is kept up
to the first broken state and a broken state is not safe when it is first reached. -/
theorem forall_take_safe_iff (sound : ∀ state, Inv state → Safe state)
    (whole : ∀ state, Inv state → ¬ Broken state)
    (keeps : ∀ state input, Inv state → ¬ Broken (step state input) → Inv (step state input))
    (breaks : ∀ state input, Inv state → Broken (step state input) → ¬ Safe (step state input))
    {start : State} (init : Inv start) (inputs : List Input) :
    (∀ count, Safe ((inputs.take count).foldl step start)) ↔
      ∀ count, ¬ Broken ((inputs.take count).foldl step start) := by
  induction inputs generalizing start with
  | nil =>
    simp only [List.take_nil, List.foldl_nil]
    exact ⟨fun _ _ => whole start init, fun _ _ => sound start init⟩
  | cons input inputs ih =>
    by_cases broken : Broken (step start input)
    · constructor
      · intro safe
        exact absurd (safe 1) (breaks start input init broken)
      · intro intact
        exact absurd broken (intact 1)
    · have later := ih (keeps start input init broken)
      constructor
      · intro safe count
        cases count with
        | zero => exact whole start init
        | succ count => exact later.mp (fun turn => safe (turn + 1)) count
      · intro intact count
        cases count with
        | zero => exact sound start init
        | succ count => exact later.mpr (fun turn => intact (turn + 1)) count

/-- The same for a machine that breaks at a step: every state of a run is safe exactly when no step
of it breaks. -/
theorem forall_take_safe_iff_steps {Breaks : State → Input → Prop}
    (sound : ∀ state, Inv state → Safe state)
    (keeps : ∀ state input, Inv state → ¬ Breaks state input → Inv (step state input))
    (breaks : ∀ state input, Inv state → Breaks state input → ¬ Safe (step state input))
    {start : State} (init : Inv start) (inputs : List Input) :
    (∀ count, Safe ((inputs.take count).foldl step start)) ↔
      ∀ (count : Nat) (inside : count < inputs.length),
        ¬ Breaks ((inputs.take count).foldl step start) inputs[count] := by
  induction inputs generalizing start with
  | nil =>
    simp only [List.take_nil, List.foldl_nil]
    exact ⟨(nofun), fun _ _ => sound start init⟩
  | cons input inputs ih =>
    by_cases broken : Breaks start input
    · constructor
      · intro safe
        exact absurd (safe 1) (breaks start input init broken)
      · intro intact
        exact absurd broken (intact 0 (Nat.zero_lt_succ _))
    · have later := ih (keeps start input init broken)
      constructor
      · intro safe count inside
        cases count with
        | zero => exact broken
        | succ count =>
          exact later.mp (fun turn => safe (turn + 1)) count (Nat.lt_of_succ_lt_succ inside)
      · intro intact count
        cases count with
        | zero => exact sound start init
        | succ count =>
          exact later.mpr (fun turn inside => intact (turn + 1) (Nat.succ_lt_succ inside)) count

end Wirelink
