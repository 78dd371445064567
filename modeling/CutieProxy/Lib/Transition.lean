import Mathlib.Logic.Relation

/-!
# Labelled transition systems and their runs

A system is a set of initial states and a labelled step relation. `System.Steps` is its
reflexive-transitive closure and `System.Reachable` the states of its runs. `System.restrict`
keeps the steps whose label meets a condition in the state it is taken from; a run of the
restriction is a run of the system every step of which meets the condition.
`System.Reachable.invariant` is the induction every safety theorem goes through.
-/

namespace Transition

universe u v

/-- A labelled transition system over the states `σ` and the labels `ε`. -/
structure System (σ : Type u) (ε : Type v) where
  /-- The states a run starts in. -/
  init : σ → Prop
  /-- `step s e t`: in state `s` the event `e` leads to state `t`. -/
  step : σ → ε → σ → Prop

namespace System

variable {σ : Type u} {ε : Type v} {M : System σ ε} {s t r : σ}

/-- `t` is reached from `s` by finitely many steps. -/
def Steps (M : System σ ε) : σ → σ → Prop :=
  Relation.ReflTransGen fun s t => ∃ e, M.step s e t

/-- `t` is a state of a run of the system. -/
def Reachable (M : System σ ε) (t : σ) : Prop := ∃ s, M.init s ∧ M.Steps s t

/-- The system whose steps are those that meet `cond` in the state they are taken from. -/
def restrict (M : System σ ε) (cond : σ → ε → Prop) : System σ ε where
  init := M.init
  step s e t := cond s e ∧ M.step s e t

/-- No step reaches the state itself. -/
theorem Steps.refl (s : σ) : M.Steps s s := Relation.ReflTransGen.refl

/-- A run goes on by one step. -/
theorem Steps.snoc {e : ε} (h : M.Steps s t) (hstep : M.step t e r) : M.Steps s r :=
  Relation.ReflTransGen.tail h ⟨e, hstep⟩

/-- Two runs compose. -/
theorem Steps.trans (h : M.Steps s t) (h' : M.Steps t r) : M.Steps s r :=
  Relation.ReflTransGen.trans h h'

/-- A predicate every step preserves is preserved by a run. -/
theorem Steps.invariant {I : σ → Prop} (hstep : ∀ s e t, I s → M.step s e t → I t)
    (h : M.Steps s t) (hs : I s) : I t := by
  induction h with
  | refl => exact hs
  | tail _ hlast ih =>
    obtain ⟨e, he⟩ := hlast
    exact hstep _ e _ ih he

/-- An initial state is reachable. -/
theorem Reachable.init (h : M.init s) : M.Reachable s := ⟨s, h, Steps.refl s⟩

/-- A reachable state stays reachable after a step. -/
theorem Reachable.snoc {e : ε} (h : M.Reachable s) (hstep : M.step s e t) : M.Reachable t := by
  obtain ⟨s₀, h₀, hs⟩ := h
  exact ⟨s₀, h₀, hs.snoc hstep⟩

/-- What holds initially and is preserved by every step holds in every reachable state. -/
theorem Reachable.invariant {I : σ → Prop} (hinit : ∀ s, M.init s → I s)
    (hstep : ∀ s e t, I s → M.step s e t → I t) (h : M.Reachable t) : I t := by
  obtain ⟨s, hs, hrun⟩ := h
  exact hrun.invariant hstep (hinit s hs)

/-- A run of a restriction is a run of the system. -/
theorem Steps.of_restrict {cond : σ → ε → Prop} (h : (M.restrict cond).Steps s t) :
    M.Steps s t := by
  induction h with
  | refl => exact Steps.refl s
  | tail _ hlast ih =>
    obtain ⟨_, -, he⟩ := hlast
    exact ih.snoc he

/-- A state a restriction reaches is reachable. -/
theorem Reachable.of_restrict {cond : σ → ε → Prop} (h : (M.restrict cond).Reachable t) :
    M.Reachable t := by
  obtain ⟨s, hs, hrun⟩ := h
  exact ⟨s, hs, hrun.of_restrict⟩

/-- A run of a restriction goes on by a step that meets the condition. -/
theorem Reachable.restrict_snoc {cond : σ → ε → Prop} {e : ε} (h : (M.restrict cond).Reachable s)
    (hstep : M.step s e t) (hcond : cond s e) : (M.restrict cond).Reachable t :=
  h.snoc (e := e) ⟨hcond, hstep⟩

/-- A run that meets a condition meets a weaker one. -/
theorem Reachable.restrict_mono {cond cond' : σ → ε → Prop} (himp : ∀ s e, cond s e → cond' s e)
    (h : (M.restrict cond).Reachable t) : (M.restrict cond').Reachable t :=
  Reachable.invariant (M := M.restrict cond) (I := (M.restrict cond').Reachable)
    (fun _ hs => Reachable.init hs)
    (fun s e _ hs ⟨hcond, he⟩ => hs.restrict_snoc he (himp s e hcond)) h

/-- What holds initially and is preserved by every step that meets the condition holds in every
state a restriction reaches. -/
theorem Reachable.restrict_invariant {cond : σ → ε → Prop} {I : σ → Prop}
    (hinit : ∀ s, M.init s → I s) (hstep : ∀ s e t, I s → cond s e → M.step s e t → I t)
    (h : (M.restrict cond).Reachable t) : I t :=
  Reachable.invariant (M := M.restrict cond) hinit
    (fun s e t hs ⟨hcond, he⟩ => hstep s e t hs hcond he) h

end System

end Transition
