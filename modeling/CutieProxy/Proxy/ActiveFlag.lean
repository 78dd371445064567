import CutieProxy.Lib.Transition
import Mathlib.Data.List.Chain
import Mathlib.Data.Multiset.ZeroCons

/-!
# What `start` and `stop` report

`start` and `stop` of `socks_local_router` exchange `is_active_` and, when that changed it, return
what they read of it at their end: `start` is told apart from a failure only while the router stays
active, and `stop`, which is documented to return true, returns true only when another `start` has
come in between. `Socksifier::stop` takes false for a success. `honest_of_inTime` says in which runs
the results are what the documentation says they are; `not_honest_of_late` that a run with any other
step breaks it.
-/

namespace CutieProxy

open Transition

/-- `start` and `stop` of `socks_local_router`. -/
inductive RouterOperation where
  | start
  | stop
  deriving DecidableEq, Repr

namespace RouterOperation

/-- The value of `is_active_` that the operation expects. -/
def expected : RouterOperation → Bool
  | start => false
  | stop => true

/-- The value of `is_active_` that the operation sets. -/
def desired : RouterOperation → Bool
  | start => true
  | stop => false

end RouterOperation

/-- Who calls the router. -/
inductive RouterCaller where
  | direct
  /-- `Socksifier::start` or `Socksifier::stop`, under `m_Lock`. -/
  | socksifier
  deriving DecidableEq, Repr

/-- A call of an operation. -/
structure RouterCall where
  operation : RouterOperation
  caller : RouterCaller
  deriving DecidableEq, Repr

/-- What the caller is told when the router returns `result`. -/
def RouterCall.report (c : RouterCall) (result : Bool) : Bool :=
  match c.caller, c.operation with
  | .direct, _ => result
  | .socksifier, .start => if !result then false else true
  | .socksifier, .stop => if result then false else true

/-- Where a call is. -/
inductive CallProgress where
  /-- Before the exchange. -/
  | called
  /-- The exchange changed the flag. -/
  | exchanged
  /-- Before the return of `result`. -/
  | returning (changed result : Bool)
  deriving DecidableEq, Repr

/-- A call that has returned. -/
structure ReturnedCall where
  call : RouterCall
  /-- The call changed the flag. -/
  changed : Bool
  result : Bool
  reported : Bool

/-- `is_active_` and the calls of the router. -/
structure ActiveFlag where
  isActive : Bool := false
  calls : Multiset (RouterCall × CallProgress) := 0
  /-- The operations that changed the flag, the latest first. -/
  exchanges : List RouterOperation := []
  returned : List ReturnedCall := []

namespace ActiveFlag

/-- What happens to the flag. -/
inductive Event where
  | call (c : RouterCall)
  | exchange (c : RouterCall)
  | reread (c : RouterCall)
  | returns (c : RouterCall)

/-- What happens when. -/
inductive Step : ActiveFlag → Event → ActiveFlag → Prop
  | call {s c} : (c.caller = .socksifier → ∀ p ∈ s.calls, p.1.caller ≠ .socksifier) →
      Step s (.call c) { s with calls := (c, .called) ::ₘ s.calls }
  | exchange {s c rest} : s.calls = (c, .called) ::ₘ rest → s.isActive = c.operation.expected →
      Step s (.exchange c)
      { s with
        isActive := c.operation.desired
        exchanges := c.operation :: s.exchanges
        calls := (c, .exchanged) ::ₘ rest }
  | refuse {s c rest} : s.calls = (c, .called) ::ₘ rest → s.isActive ≠ c.operation.expected →
      Step s (.exchange c) { s with calls := (c, .returning false false) ::ₘ rest }
  | reread {s c rest} : s.calls = (c, .exchanged) ::ₘ rest →
      Step s (.reread c) { s with calls := (c, .returning true s.isActive) ::ₘ rest }
  | returns {s c rest changed result} : s.calls = (c, .returning changed result) ::ₘ rest →
      Step s (.returns c)
      { s with
        calls := rest
        returned := ⟨c, changed, result, c.report result⟩ :: s.returned }

/-- The flag from the construction of the router on. -/
def system : System ActiveFlag Event where
  init s := s = {}
  step := Step

/-- The results say what the calls did. -/
structure Honest (s : ActiveFlag) : Prop where
  /-- A call returns true just when it changed the flag. -/
  results : ∀ r ∈ s.returned, r.result = true ↔ r.changed = true
  /-- The operations that changed the flag alternate. -/
  alternate : s.exchanges.IsChain (· ≠ ·)
  /-- `Socksifier::stop` returns what the router returned. -/
  reported : ∀ r ∈ s.returned, r.call = ⟨.stop, .socksifier⟩ →
    (r.reported = true ↔ r.result = true)

/-- A call that changed the flag reads it at a time at which the router is active, and
`Socksifier::stop` does not return. -/
def InTime (s : ActiveFlag) : Event → Prop
  | .reread _ => s.isActive = true
  | .returns c => c ≠ ⟨.stop, .socksifier⟩
  | _ => True

variable {s r : ActiveFlag} {e : Event} {c : RouterCall}

/-- The call will return what it did. -/
def WillBeHonest (p : RouterCall × CallProgress) : Prop :=
  ∀ changed result, p.2 = .returning changed result → result = changed

/-- What holds between the steps. -/
structure Sound (s : ActiveFlag) : Prop where
  honest : s.Honest
  /-- The router is active after a `start`. -/
  latest : s.isActive = true ↔ s.exchanges.head? = some .start
  pending : ∀ p ∈ s.calls, WillBeHonest p

/-- A call goes on. -/
theorem pending_move {p q : RouterCall × CallProgress} {rest : Multiset (RouterCall × CallProgress)}
    (h : ∀ p ∈ s.calls, WillBeHonest p) (hcalls : s.calls = p ::ₘ rest) (hq : WillBeHonest q) :
    ∀ p ∈ q ::ₘ rest, WillBeHonest p := by
  intro p' hp'
  rcases Multiset.mem_cons.mp hp' with rfl | hrest
  · exact hq
  · exact h p' (hcalls ▸ Multiset.mem_cons_of_mem hrest)

/-- An operation that changes the flag is another than the latest one that did. -/
theorem Sound.exchange (h : s.Sound) {o : RouterOperation} (hexpected : s.isActive = o.expected) :
    (o :: s.exchanges).IsChain (· ≠ ·) := by
  refine List.isChain_cons.mpr ⟨fun o' ho' heq => ?_, h.honest.alternate⟩
  have hlatest := h.latest
  rw [hexpected, ho', ← heq] at hlatest
  cases o with
  | start => cases hlatest.mpr rfl
  | stop => cases hlatest.mp rfl

/-- Other calls change nothing that has to hold of the flag. -/
theorem Sound.calls (h : s.Sound) {calls : Multiset (RouterCall × CallProgress)}
    (hcalls : ∀ p ∈ calls, WillBeHonest p) : ({ s with calls } : ActiveFlag).Sound :=
  ⟨⟨h.honest.results, h.honest.alternate, h.honest.reported⟩, h.latest, hcalls⟩

theorem Sound.step (h : s.Sound) (htime : s.InTime e) (hstep : Step s e r) : r.Sound := by
  cases hstep with
  | call _ =>
    refine h.calls fun p hp => ?_
    rcases Multiset.mem_cons.mp hp with rfl | hp
    · exact fun _ _ => nofun
    · exact h.pending p hp
  | @exchange c rest hcalls hexpected =>
    refine ⟨⟨h.honest.results, h.exchange hexpected, h.honest.reported⟩, ?_,
      pending_move h.pending hcalls fun _ _ => nofun⟩
    rcases c with ⟨o, caller⟩
    cases o with
    | start => exact iff_of_true rfl rfl
    | stop => exact iff_of_false nofun nofun
  | refuse hcalls _ =>
    refine h.calls (pending_move h.pending hcalls fun _ _ heq => ?_)
    cases heq
    rfl
  | reread hcalls =>
    refine h.calls (pending_move h.pending hcalls fun _ _ heq => ?_)
    cases heq
    exact htime
  | @returns c rest changed result hcalls =>
    have hresult : result = changed :=
      h.pending _ (hcalls ▸ Multiset.mem_cons_self _ _) changed result rfl
    have hrest : ∀ p ∈ rest, WillBeHonest p := fun p hp =>
      h.pending p (hcalls ▸ Multiset.mem_cons_of_mem hp)
    refine ⟨⟨fun r hr => ?_, h.honest.alternate, fun r hr hcall => ?_⟩, h.latest, hrest⟩
    · rcases List.mem_cons.mp hr with rfl | hr
      · rw [hresult]
      · exact h.honest.results r hr
    · rcases List.mem_cons.mp hr with rfl | hr
      · exact absurd hcall htime
      · exact h.honest.reported r hr hcall

/-- In a run whose calls read the flag while the router is active, and in which `Socksifier::stop`
does not return, every call returns true just when it changed the flag. -/
theorem honest_of_inTime (h : (system.restrict InTime).Reachable s) : s.Honest := by
  have hsound : s.Sound := by
    refine h.restrict_invariant (I := Sound) ?_ fun s e t hs htime hstep => hs.step htime hstep
    rintro s rfl
    exact ⟨⟨nofun, List.isChain_nil, nofun⟩, iff_of_false nofun nofun, nofun⟩
  exact hsound.honest

/-- After any other step a call can return something else. -/
theorem not_honest_of_late (hstep : Step s e r) (hlate : ¬ s.InTime e) :
    ∃ q, system.Steps r q ∧ ¬ q.Honest := by
  cases hstep with
  | call _ | exchange _ _ | refuse _ _ => exact absurd trivial hlate
  | @reread c rest hcalls =>
    have hinactive : s.isActive = false := Bool.eq_false_iff.mpr hlate
    refine ⟨_, (System.Steps.refl (M := system) _).snoc (M := system) (.returns rfl), fun hq => ?_⟩
    have hresult := hq.results _ List.mem_cons_self
    dsimp only at hresult
    rw [hinactive] at hresult
    cases hresult.mpr rfl
  | @returns c rest changed result hcalls =>
    have hcall : c = ⟨.stop, .socksifier⟩ := not_not.mp hlate
    refine ⟨_, System.Steps.refl (M := system) _, fun hq => ?_⟩
    have hreported := hq.reported _ List.mem_cons_self hcall
    rw [hcall] at hreported
    cases result with
    | true => cases hreported.mpr rfl
    | false => cases hreported.mp rfl

/-! ## A run -/

/-- The router after a first `start` has returned. -/
def started : ActiveFlag where
  isActive := true
  exchanges := [.start]
  returned := [⟨⟨.start, .direct⟩, true, true, true⟩]

theorem started_reachable : (system.restrict InTime).Reachable started := by
  have hinit : (system.restrict InTime).Reachable {} := .init rfl
  have hcall := hinit.restrict_snoc (M := system) (@Step.call _ ⟨.start, .direct⟩ nofun) trivial
  have hexchange := hcall.restrict_snoc (M := system)
    (@Step.exchange _ ⟨.start, .direct⟩ 0 rfl rfl) trivial
  have hreread := hexchange.restrict_snoc (M := system) (@Step.reread _ ⟨.start, .direct⟩ 0 rfl) rfl
  exact hreread.restrict_snoc (M := system)
    (@Step.returns _ ⟨.start, .direct⟩ 0 true true rfl) nofun

/-- A `stop` and a second `start` have returned too, and a third `start` that found the router
active. -/
def restarted : ActiveFlag where
  isActive := true
  exchanges := [.start, .stop, .start]
  returned := [⟨⟨.start, .socksifier⟩, false, false, false⟩, ⟨⟨.start, .direct⟩, true, true, true⟩,
    ⟨⟨.stop, .direct⟩, true, true, true⟩, ⟨⟨.start, .direct⟩, true, true, true⟩]

theorem restarted_reachable : (system.restrict InTime).Reachable restarted := by
  have hstop := started_reachable.restrict_snoc (M := system)
    (@Step.call _ ⟨.stop, .direct⟩ nofun) trivial
  have hstopped := hstop.restrict_snoc (M := system)
    (@Step.exchange _ ⟨.stop, .direct⟩ 0 rfl rfl) trivial
  have hstart := hstopped.restrict_snoc (M := system)
    (@Step.call _ ⟨.start, .direct⟩ nofun) trivial
  -- the second `start` changes the flag before `stop` reads it
  have hactive := hstart.restrict_snoc (M := system)
    (@Step.exchange _ ⟨.start, .direct⟩ {(⟨.stop, .direct⟩, .exchanged)} rfl rfl) trivial
  have hread := hactive.restrict_snoc (M := system)
    (@Step.reread _ ⟨.stop, .direct⟩ {(⟨.start, .direct⟩, .exchanged)}
      (Multiset.cons_swap _ _ 0)) rfl
  have hreturn := hread.restrict_snoc (M := system)
    (@Step.returns _ ⟨.stop, .direct⟩ {(⟨.start, .direct⟩, .exchanged)} true true rfl) nofun
  have hsecond := hreturn.restrict_snoc (M := system)
    (@Step.reread _ ⟨.start, .direct⟩ 0 rfl) rfl
  have hboth := hsecond.restrict_snoc (M := system)
    (@Step.returns _ ⟨.start, .direct⟩ 0 true true rfl) nofun
  have hthird := hboth.restrict_snoc (M := system)
    (@Step.call _ ⟨.start, .socksifier⟩ nofun) trivial
  have hrefused := hthird.restrict_snoc (M := system)
    (@Step.refuse _ ⟨.start, .socksifier⟩ 0 rfl nofun) trivial
  exact hrefused.restrict_snoc (M := system)
    (@Step.returns _ ⟨.start, .socksifier⟩ 0 false false rfl) nofun

theorem honest_of_inTime_restarted :
    (system.restrict InTime).Reachable restarted ∧ restarted.Honest :=
  ⟨restarted_reachable, honest_of_inTime restarted_reachable⟩

/-- A `stop` that changes the flag returns false. -/
theorem stop_returns_false : ¬ ∀ s, system.Reachable s → s.Honest := by
  intro hclaim
  have hcall := started_reachable.of_restrict.snoc (M := system)
    (@Step.call _ ⟨.stop, .direct⟩ nofun)
  have hexchange := hcall.snoc (M := system) (@Step.exchange _ ⟨.stop, .direct⟩ 0 rfl rfl)
  have hreread := hexchange.snoc (M := system) (@Step.reread _ ⟨.stop, .direct⟩ 0 rfl)
  have hreturns := hreread.snoc (M := system) (@Step.returns _ ⟨.stop, .direct⟩ 0 true false rfl)
  have hresult := (hclaim _ hreturns).results _ List.mem_cons_self
  cases hresult.mpr rfl

end ActiveFlag

end CutieProxy
