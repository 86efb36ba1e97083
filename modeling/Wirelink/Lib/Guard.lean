/-
Module: Wirelink.Lib.Guard
Purpose: Functions that check their arguments one after the other and return an error at the first
  check that fails. If such a function goes through, every check was passed.
Trusted boundary: none
-/
import Mathlib.Tactic.Common

namespace Wirelink

variable {ε α : Type*} {refused : Prop} [Decidable refused] {err : ε} {value : α}

theorem ite_error_eq_ok {rest : Except ε α} :
    (if refused then .error err else rest) = .ok value ↔ ¬ refused ∧ rest = .ok value := by
  split <;> simp [*]

end Wirelink
