import Mathlib.Init

/-!
# Loops that end

A `Loop` is a `while` statement on a state, with a variant that every iteration lowers; one that may
not end cannot be built. `Loop.run` is the state it ends in, and `Loop.run_invariant` with
`Loop.guard_run` the rule for it.
-/

universe u

/-- A `while` statement, with its variant. -/
structure Loop (σ : Type u) where
  guard : σ → Bool
  body : σ → σ
  variant : σ → Nat
  /-- Every iteration lowers the variant. -/
  lowers : ∀ s, guard s = true → variant (body s) < variant s

namespace Loop

variable {σ : Type u} {L : Loop σ} {s : σ}

/-- The state the loop ends in. -/
def run (L : Loop σ) (s : σ) : σ := if _h : L.guard s = true then L.run (L.body s) else s
termination_by L.variant s
decreasing_by exact L.lowers s _h

/-- After the loop its guard is false. -/
theorem guard_run (L : Loop σ) (s : σ) : L.guard (L.run s) = false := by
  fun_induction run L s with
  | case1 s _ ih => exact ih
  | case2 s h => exact Bool.eq_false_iff.mpr h

/-- What every iteration preserves holds after the loop. -/
theorem run_invariant {I : σ → Prop} (hbody : ∀ s, L.guard s = true → I s → I (L.body s))
    (hs : I s) : I (L.run s) := by
  fun_induction run L s with
  | case1 s h ih => exact ih (hbody s h hs)
  | case2 s h => exact hs

end Loop
