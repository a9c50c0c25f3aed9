import CommandShell.Pattern.Expr
import Mathlib.Logic.Function.Iterate

/-!
# Where matches end

The more places there are at which a match may begin, the more there are at which it may end
(`Expr.ends_mono`). So an expression that is to stand between two conditions on places is found
only in texts in which it is found without them (`Expr.isFound_of_between`).
-/

namespace CommandShell.Pattern

namespace Places

/-- All places of the first set belong to the second one. -/
def Within (places places' : Places) : Prop :=
  ∀ i, places.testBit i = true → places'.testBit i = true

variable {places places' other other' : Places}

theorem Within.and (h : places.Within places') (test : Places) :
    (places &&& test).Within (places' &&& test) := by
  intro i hi
  rw [Nat.testBit_and, Bool.and_eq_true] at hi ⊢
  exact ⟨h i hi.1, hi.2⟩

theorem and_within (places test : Places) : (places &&& test).Within places := by
  intro i hi
  rw [Nat.testBit_and, Bool.and_eq_true] at hi
  exact hi.1

theorem Within.or (h : places.Within places') (hother : other.Within other') :
    (places ||| other).Within (places' ||| other') := by
  intro i hi
  rw [Nat.testBit_or, Bool.or_eq_true] at hi ⊢
  exact hi.imp (h i) (hother i)

theorem Within.shiftLeft (h : places.Within places') (n : Nat) :
    (places <<< n).Within (places' <<< n) := by
  intro i hi
  rw [Nat.testBit_shiftLeft, Bool.and_eq_true] at hi ⊢
  exact ⟨hi.1, h _ hi.2⟩

theorem Within.eq_zero (h : places.Within 0) : places = 0 := by
  refine Nat.eq_of_testBit_eq fun i => ?_
  rw [Nat.zero_testBit, ← Bool.not_eq_true]
  intro hi
  exact Bool.false_ne_true ((Nat.zero_testBit i).symm.trans (h i hi))

/-! ## Repeated steps -/

variable {step : Places → Places}

/-- Stopping once nothing changes any more makes no difference. -/
theorem iterate_eq (step : Places → Places) (count : Nat) (places : Places) :
    iterate step count places = step^[count] places := by
  induction count generalizing places with
  | zero => rfl
  | succ count ih =>
    rw [iterate]
    split
    · next hfixed => exact (Function.iterate_fixed hfixed _).symm
    · rw [ih, Function.iterate_succ_apply]

theorem gather_eq (step : Places → Places) (count : Nat) (places : Places) :
    gather step count places = (fun places => places ||| step places)^[count] places := by
  induction count generalizing places with
  | zero => rfl
  | succ count ih =>
    rw [gather]
    split
    · next hfixed => exact (Function.iterate_fixed hfixed (count + 1)).symm
    · rw [ih, Function.iterate_succ_apply]

theorem Within.iterate (hstep : ∀ ⦃a b : Places⦄, a.Within b → (step a).Within (step b))
    (h : places.Within places') (count : Nat) :
    (step^[count] places).Within (step^[count] places') := by
  induction count generalizing places places' with
  | zero => exact h
  | succ count ih =>
    rw [Function.iterate_succ_apply, Function.iterate_succ_apply]
    exact ih (hstep h)

end Places

namespace Expr

open Places

/-- Where a match may begin at more places, it may end at more places. -/
theorem ends_mono (n : Nat) (expr : Expr Places Places) ⦃places places' : Places⦄
    (h : places.Within places') : (expr.ends n places).Within (expr.ends n places') := by
  induction expr generalizing places places' with
  | empty => exact h
  | oneOf test => exact (h.and test).shiftLeft 1
  | look test => exact h.and test
  | sequence first second ihFirst ihSecond => exact ihSecond (ihFirst h)
  | either left right ihLeft ihRight => exact (ihLeft h).or (ihRight h)
  | repeated body least most ih =>
    simp only [ends, iterate_eq, gather_eq]
    exact Within.iterate (fun _ _ hab => hab.or (ih hab)) (Within.iterate ih h least) _

/-- An expression that stands between two conditions on places is found only where it would be
found without them. -/
theorem isFound_of_between {expr : Expr (Char → Bool) PlaceTest} {before after : PlaceTest}
    {text : List Char} (h : (ofSequence [.look before, expr, .look after]).isFound text = true) :
    expr.isFound text = true := by
  rw [isFound, bne_iff_ne] at h ⊢
  intro hnone
  -- Where the first condition holds there are fewer places to begin at than anywhere.
  have hwithin := ends_mono text.length (expr.map (beforeChar text) (passing text))
    (and_within (all text.length) (passing text before))
  rw [hnone] at hwithin
  refine h ?_
  change ends text.length _ (all text.length &&& passing text before) &&& passing text after = 0
  rw [hwithin.eq_zero, Nat.zero_and]

end Expr

end CommandShell.Pattern
