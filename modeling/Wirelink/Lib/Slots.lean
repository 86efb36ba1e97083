/-
Module: Wirelink.Lib.Slots
Purpose: Loops over the indices of a slot table: an invariant rule for a loop that folds a state over
  the indices below a count, the counts of two tables whose slots match, and the scan that looks for
  the best of some candidates.
Trusted boundary: none
-/
import Mathlib.Combinatorics.Enumerative.DoubleCounting
import Mathlib.Tactic.Common

namespace Wirelink.Slots

/-- What a loop over the indices below a count keeps, in terms of the index it has come to. -/
theorem foldl_range_invariant {State : Type*} {body : State → Nat → State}
    {Inv : Nat → State → Prop} {start : State} {count : Nat} (init : Inv 0 start)
    (keeps : ∀ index state, index < count → Inv index state → Inv (index + 1) (body state index)) :
    Inv count ((List.range count).foldl body start) := by
  induction count with
  | zero => exact init
  | succ count ih =>
    rw [List.range_succ, List.foldl_append]
    exact keeps count _ (Nat.lt_succ_self count)
      (ih fun index state inside => keeps index state (Nat.lt_succ_of_lt inside))

/-- A search over the indices below a count finds the only index that passes the test. -/
theorem find?_range_eq_some_of_unique {test : Nat → Bool} {count index : Nat}
    (inside : index < count) (passes : test index = true)
    (unique : ∀ other, other < count → test other = true → other = index) :
    (List.range count).find? test = some index := by
  rw [List.find?_range_eq_some]
  refine ⟨passes, List.mem_range.mpr inside, fun earlier before => ?_⟩
  rw [Bool.not_eq_true']
  by_contra holds
  rw [Bool.not_eq_false] at holds
  exact Nat.ne_of_lt before (unique earlier (Nat.lt_trans before inside) holds)

/-! ### Counting -/

theorem countP_range_eq_card (test : Nat → Bool) (count : Nat) :
    (List.range count).countP test = ((Finset.range count).filter (test · = true)).card := by
  induction count with
  | zero => rfl
  | succ count ih =>
    rw [List.range_succ, List.countP_append, List.countP_singleton, ih, Finset.range_add_one,
      Finset.filter_insert]
    split
    · rw [Finset.card_insert_of_notMem (by simp)]
    · rfl

/-- Slots of two tables that match one to one are equally many. -/
theorem countP_range_eq_of_matching {Matches : Nat → Nat → Prop} {left right : Nat → Bool}
    {leftCount rightCount : Nat}
    (forward : ∀ index, index < leftCount → left index = true →
      ∃ other, other < rightCount ∧ right other = true ∧ Matches index other)
    (backward : ∀ other, other < rightCount → right other = true →
      ∃ index, index < leftCount ∧ left index = true ∧ Matches index other)
    (functional : ∀ index first second, Matches index first → Matches index second →
      first = second)
    (injective : ∀ first second other, Matches first other → Matches second other →
      first = second) :
    (List.range leftCount).countP left = (List.range rightCount).countP right := by
  rw [countP_range_eq_card, countP_range_eq_card]
  apply Nat.le_antisymm
  · refine Finset.card_le_card_of_forall_subsingleton Matches (fun index member => ?_)
      (fun other _ first one second two => injective first second other one.2 two.2)
    rw [Finset.mem_filter, Finset.mem_range] at member
    obtain ⟨other, inside, passes, pair⟩ := forward index member.1 member.2
    exact ⟨other, Finset.mem_filter.mpr ⟨Finset.mem_range.mpr inside, passes⟩, pair⟩
  · refine Finset.card_le_card_of_forall_subsingleton (fun other index => Matches index other)
      (fun other member => ?_)
      (fun index _ first one second two => functional index first second one.2 two.2)
    rw [Finset.mem_filter, Finset.mem_range] at member
    obtain ⟨index, inside, passes, pair⟩ := backward other member.1 member.2
    exact ⟨index, Finset.mem_filter.mpr ⟨Finset.mem_range.mpr inside, passes⟩, pair⟩

/-- A test that also passes one more index counts one more. -/
theorem countP_range_succ_of_added {test wider : Nat → Bool} {count index : Nat}
    (inside : index < count) (fails : test index = false) (passes : wider index = true)
    (elsewhere : ∀ other, other ≠ index → wider other = test other) :
    (List.range count).countP wider = (List.range count).countP test + 1 := by
  have grown : (Finset.range count).filter (wider · = true) =
      insert index ((Finset.range count).filter (test · = true)) := by
    ext other
    rw [Finset.mem_insert, Finset.mem_filter, Finset.mem_filter, Finset.mem_range]
    by_cases same : other = index
    · subst same
      exact ⟨fun _ => .inl rfl, fun _ => ⟨inside, passes⟩⟩
    · rw [elsewhere other same]
      exact ⟨.inr, fun either => either.resolve_left same⟩
  rw [countP_range_eq_card, countP_range_eq_card, grown, Finset.card_insert_of_notMem]
  intro member
  exact nomatch fails.symm.trans (Finset.mem_filter.mp member).2

/-! ### The best candidate -/

/-- One turn of the scan: a candidate replaces the choice so far if it is better. -/
def scanTurn (candidate : Nat → Bool) (better : Nat → Nat → Bool) (best : Option Nat)
    (index : Nat) : Option Nat :=
  if ¬ candidate index then best
  else
    match best with
    | none => some index
    | some chosen => if better index chosen then some index else some chosen

/-- The scan for the best candidate below a count. -/
def scanBest (candidate : Nat → Bool) (better : Nat → Nat → Bool) (count : Nat) : Option Nat :=
  (List.range count).foldl (scanTurn candidate better) none

/-- What the scan has found when it has come to a bound: no candidate, or one that no candidate
comes before. -/
def Scanned (candidate : Nat → Bool) (le : Nat → Nat → Prop) (bound : Nat) : Option Nat → Prop
  | none => ∀ index, index < bound → candidate index = false
  | some chosen =>
    chosen < bound ∧ candidate chosen = true ∧
      ∀ index, index < bound → candidate index = true → le chosen index

section scan

variable {candidate : Nat → Bool} {better : Nat → Nat → Bool} {le : Nat → Nat → Prop}
  {bound count index chosen : Nat} {best : Option Nat}

theorem Scanned.skip (before : Scanned candidate le bound best)
    (skipped : candidate bound = false) :
    Scanned candidate le (bound + 1) best := by
  cases best with
  | none =>
    intro index inside
    rcases Nat.lt_succ_iff_lt_or_eq.mp inside with below | rfl
    · exact before index below
    · exact skipped
  | some =>
    obtain ⟨inside, met, least⟩ := before
    refine ⟨Nat.lt_succ_of_lt inside, met, fun index within other => ?_⟩
    rcases Nat.lt_succ_iff_lt_or_eq.mp within with below | rfl
    · exact least index below other
    · exact absurd (other.symm.trans skipped) Bool.true_eq_false.mp

/-- The scan moves to a candidate that comes before every earlier one. -/
theorem Scanned.take (met : candidate bound = true) (self : le bound bound)
    (least : ∀ index, index < bound → candidate index = true → le bound index) :
    Scanned candidate le (bound + 1) (some bound) := by
  refine ⟨Nat.lt_succ_self bound, met, fun index within other => ?_⟩
  rcases Nat.lt_succ_iff_lt_or_eq.mp within with below | rfl
  · exact least index below other
  · exact self

/-- The scan stays with its choice if the new candidate does not come before it. -/
theorem Scanned.stay (before : Scanned candidate le bound (some chosen)) (after : le chosen bound) :
    Scanned candidate le (bound + 1) (some chosen) := by
  obtain ⟨inside, met, least⟩ := before
  refine ⟨Nat.lt_succ_of_lt inside, met, fun index within other => ?_⟩
  rcases Nat.lt_succ_iff_lt_or_eq.mp within with below | rfl
  · exact least index below other
  · exact after

/-- The scan finds the least candidate of an order, if its comparison decides the order between
candidates. -/
theorem scanBest_scanned (refl : ∀ index, le index index)
    (trans : ∀ first second third, le first second → le second third → le first third)
    (older : ∀ first second, first < count → second < count → candidate first = true →
      candidate second = true → better first second = true → le first second)
    (newer : ∀ first second, first < count → second < count → candidate first = true →
      candidate second = true → better first second = false → le second first) :
    Scanned candidate le count (scanBest candidate better count) := by
  refine @foldl_range_invariant _ (scanTurn candidate better) (Scanned candidate le) none count
    (fun _ inside => absurd inside (Nat.not_lt_zero _)) (fun bound best within before => ?_)
  unfold scanTurn
  cases met : candidate bound with
  | false => exact before.skip met
  | true =>
    cases best with
    | none =>
      refine Scanned.take met (refl bound) fun index inside other => ?_
      exact absurd (other.symm.trans (before index inside)) Bool.true_eq_false.mp
    | some chosen =>
      have inside := Nat.lt_trans before.1 within
      cases answer : better bound chosen with
      | true =>
        have first := older bound chosen within inside met before.2.1 answer
        simp only [not_true_eq_false, if_false, answer, if_true]
        exact Scanned.take met (refl bound) fun index inside other =>
          trans _ _ _ first (before.2.2 index inside other)
      | false =>
        simp only [not_true_eq_false, if_false, answer, Bool.false_eq_true]
        exact before.stay (newer bound chosen within inside met before.2.1 answer)

theorem scanBest_any :
    Scanned candidate (fun _ _ => True) count (scanBest candidate better count) :=
  scanBest_scanned (fun _ => trivial) (fun _ _ _ _ _ => trivial) (fun _ _ _ _ _ _ _ => trivial)
    (fun _ _ _ _ _ _ _ => trivial)

theorem candidate_of_scanBest (found : scanBest candidate better count = some chosen) :
    chosen < count ∧ candidate chosen = true := by
  have scanned : Scanned candidate (fun _ _ => True) count (scanBest candidate better count) :=
    scanBest_any
  rw [found] at scanned
  exact ⟨scanned.1, scanned.2.1⟩

end scan

end Wirelink.Slots
