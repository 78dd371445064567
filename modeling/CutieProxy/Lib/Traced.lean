import Mathlib.Data.List.Basic

/-!
# Computations that record their accesses

A `Traced σ α` is a computation on a state `σ` that records, beside its value, which intervals of
cells of a memory it accesses. `Within n` says that all of them end at `n` at the latest. It is
taken apart along the computation: a sequence is within `n` when its parts are (`within_bind`), a
branch when the branch taken is.
-/

universe u

/-- An interval of `size` cells, from `start` on. -/
structure Span where
  start : Nat
  size : Nat
  deriving DecidableEq, Repr

/-- The interval has no cell from `n` on; an empty one is nowhere. -/
def Span.Within (n : Nat) (a : Span) : Prop := a.size = 0 ∨ a.start + a.size ≤ n

instance {n : Nat} {a : Span} : Decidable (a.Within n) := inferInstanceAs (Decidable (_ ∨ _))

theorem Span.within_of_le {n start size : Nat} (h : start + size ≤ n) :
    Span.Within n ⟨start, size⟩ := .inr h

/-- What a computation comes to: its value, the state it leaves and the accesses it made. -/
structure Outcome (σ α : Type u) where
  value : α
  state : σ
  spans : List Span

/-- A computation on a state that records its accesses. -/
def Traced (σ α : Type u) := σ → Outcome σ α

namespace Traced

variable {σ α β : Type u} {n : Nat} {m m' : Traced σ α} {f : α → Traced σ β} {s : σ} {a : α}

/-- Runs a computation on a state. -/
def run (m : Traced σ α) (s : σ) : Outcome σ α := m s

instance : Monad (Traced σ) where
  pure a := fun s => ⟨a, s, []⟩
  bind m f := fun s =>
    let first := m.run s
    let next := (f first.value).run first.state
    ⟨next.value, next.state, first.spans ++ next.spans⟩

/-- A value read from the state, by accesses to `spans`. -/
def read (spans : List Span) (f : σ → α) : Traced σ α := fun s => ⟨f s, s, spans⟩

/-- A change of the state, by accesses to `spans`. -/
def update (spans : List Span) (f : σ → σ) : Traced σ PUnit := fun s => ⟨⟨⟩, f s, spans⟩

/-- All accesses end at `n` at the latest. -/
def Within (n : Nat) (m : Traced σ α) (s : σ) : Prop := ∀ a ∈ (m.run s).spans, a.Within n

@[simp] theorem run_pure : (pure a : Traced σ α).run s = ⟨a, s, []⟩ := rfl

@[simp] theorem run_bind : (m >>= f).run s =
    ⟨((f (m.run s).value).run (m.run s).state).value,
      ((f (m.run s).value).run (m.run s).state).state,
      (m.run s).spans ++ ((f (m.run s).value).run (m.run s).state).spans⟩ := rfl

@[simp] theorem run_read {spans : List Span} {g : σ → α} :
    (read spans g).run s = ⟨g s, s, spans⟩ := rfl

@[simp] theorem run_update {spans : List Span} {g : σ → σ} :
    (update spans g).run s = ⟨⟨⟩, g s, spans⟩ := rfl

/-- The branch taken is the one that runs. -/
@[simp] theorem run_cond {c : Bool} :
    (bif c then m else m').run s = bif c then m.run s else m'.run s := by
  cases c <;> rfl

@[simp] theorem within_pure : (pure a : Traced σ α).Within n s := fun _ h => absurd h List.not_mem_nil

/-- A sequence is within `n` when both of its parts are. -/
@[simp] theorem within_bind : (m >>= f).Within n s ↔
    m.Within n s ∧ (f (m.run s).value).Within n (m.run s).state := List.forall_mem_append

@[simp] theorem within_read {spans : List Span} {g : σ → α} :
    (read spans g).Within n s ↔ ∀ a ∈ spans, a.Within n := Iff.rfl

@[simp] theorem within_update {spans : List Span} {g : σ → σ} :
    (update spans g).Within n s ↔ ∀ a ∈ spans, a.Within n := Iff.rfl

/-- A branch is within `n` when the one taken is. -/
@[simp] theorem within_cond {c : Bool} :
    (bif c then m else m').Within n s ↔ bif c then m.Within n s else m'.Within n s := by
  cases c <;> rfl

end Traced
