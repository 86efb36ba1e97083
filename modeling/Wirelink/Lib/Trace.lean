/-
Module: Wirelink.Lib.Trace
Purpose: Traces that grow at the front, and properties of every moment of such a trace.
Trusted boundary: none
-/
import Mathlib.Data.List.Infix

namespace Wirelink.Trace

variable {Entry : Type} {Holds : List Entry → Prop} {trace past : List Entry}

/-- `Holds` at every moment of a trace whose newest entry comes first. -/
def Always (Holds : List Entry → Prop) : List Entry → Prop
  | [] => Holds []
  | entry :: past => Holds (entry :: past) ∧ Always Holds past

instance Always.decidable [DecidablePred Holds] : (trace : List Entry) →
    Decidable (Always Holds trace)
  | [] => inferInstanceAs (Decidable (Holds []))
  | entry :: past =>
    have := Always.decidable past
    inferInstanceAs (Decidable (Holds (entry :: past) ∧ Always Holds past))

theorem Always.now (always : Always Holds trace) : Holds trace := by
  cases trace with
  | nil => exact always
  | cons => exact always.1

/-- The same at every earlier moment. -/
theorem Always.earlier (always : Always Holds trace) (suffix : past <:+ trace) :
    Always Holds past := by
  induction trace with
  | nil =>
    rw [List.suffix_nil.mp suffix]
    exact always
  | cons entry rest ih =>
    rcases List.suffix_cons_iff.mp suffix with same | older
    · rw [same]
      exact always
    · exact ih always.2 older

theorem always_iff_suffix : Always Holds trace ↔ ∀ past, past <:+ trace → Holds past := by
  constructor
  · intro always past earlier
    exact (always.earlier earlier).now
  · intro each
    induction trace with
    | nil => exact each [] (List.suffix_refl [])
    | cons entry rest ih =>
      exact ⟨each _ (List.suffix_refl _),
        ih (fun past earlier => each past (earlier.trans (List.suffix_cons entry rest)))⟩

end Wirelink.Trace
