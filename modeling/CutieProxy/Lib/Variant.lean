import CutieProxy.Lib.Transition
import Mathlib.Data.List.Basic

/-!
# Runs with their events, and variants

`System.Run` is a run with the list of its events. A variant of a kind of events is a number that
each of them takes one off while the others add nothing to it: a run has as many of these events at
most as the variant says where it starts (`System.Run.countP_add_le`).
-/

namespace Transition

universe u v

variable {σ : Type u} {ε : Type v}

/-- `t` is reached from `s` by the events, in this order. -/
inductive System.Run (M : System σ ε) : σ → List ε → σ → Prop
  | nil (s : σ) : Run M s [] s
  | cons {s t r : σ} {e : ε} {es : List ε} : M.step s e t → Run M t es r → Run M s (e :: es) r

namespace System

variable {M : System σ ε} {s t : σ} {es : List ε}

/-- The events of a kind are counted against a variant, along with an invariant of the steps. -/
theorem Run.countP_add_le {I : σ → Prop} {p : ε → Bool} {v : σ → Nat}
    (hstep : ∀ s e t, I s → M.step s e t → I t ∧ (if p e then 1 else 0) + v t ≤ v s)
    (h : M.Run s es t) (hs : I s) : I t ∧ es.countP p + v t ≤ v s := by
  induction h with
  | nil s => exact ⟨hs, Nat.le_of_eq (Nat.zero_add _)⟩
  | @cons s t r e es hfirst _ ih =>
    obtain ⟨ht, hvariant⟩ := hstep s e t hs hfirst
    obtain ⟨hr, hcount⟩ := ih ht
    refine ⟨hr, ?_⟩
    rw [List.countP_cons]
    omega

end System

end Transition
