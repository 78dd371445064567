import CutieProxy.Iphelper.AdapterList
import CutieProxy.Proxy.FilteredAdapter

/-!
# What the filtered adapter is

`update_network_configuration` looks up the best interface and filters the interface of the driver
that matches it. `AdapterRun` adds to the runs of `FilteredAdapter` what the system answers at each
look-up. `tunneled_was_reported` says that the adapter in tunnel mode matches one that the system
reported up, with an address, and no loopback, at a look-up of the run; the list of the driver
cannot change under a filter that is not stopped.
-/

namespace CutieProxy

open Transition

namespace RouterControl

variable {s t : RouterControl} {e : Event} {c : Call} {rest : Multiset Call}
  {P Q : NetworkAdapterInfo → Prop}

/-- The best interface an event looks up, if it does. -/
def Event.lookUp : Event → Option (Option NetworkAdapterInfo)
  | .update best _ | .notification best _ => some best
  | _ => none

/-- The default adapter, and one that matches the interface the filter has, are of a kind. -/
structure Named (P : NetworkAdapterInfo → Prop) (s : RouterControl) : Prop where
  default : ∀ a, s.defaultAdapter = some a → P a
  filtered : s.filter.filterState ≠ .stopped → ∃ a ndis, P a ∧
    s.filter.networkInterfaces[s.filter.adapter]? = some ndis ∧ a.matchesAdapter ndis = true

theorem Named.init (h : system.init s) : s.Named P := by
  obtain rfl : s = {} := h
  exact ⟨fun _ ha => (by cases ha), fun hne => absurd rfl hne⟩

theorem Named.mono (h : s.Named P) (himp : ∀ a, P a → Q a) : s.Named Q := by
  refine ⟨fun a ha => himp a (h.default a ha), fun hne => ?_⟩
  obtain ⟨a, ndis, ha, hndis, hmatch⟩ := h.filtered hne
  exact ⟨a, ndis, himp a ha, hndis, hmatch⟩

theorem defaultAdapter_update {best : Option NetworkAdapterInfo} {bound : List NetworkAdapter}
    {updated : Bool} (h : s.updateNetworkConfiguration best bound = (updated, t)) :
    t.defaultAdapter = best := by
  unfold updateNetworkConfiguration at h
  dsimp only at h
  split at h
  · cases h
    rfl
  · split at h <;> cases h <;> rfl

/-- A filter that is not stopped keeps its list of interfaces. -/
theorem Named.update {best : Option NetworkAdapterInfo} {bound : List NetworkAdapter}
    {updated : Bool} {calls : Multiset Call} (h : s.Named P) (hbest : ∀ a, best = some a → P a)
    (hupdate : s.updateNetworkConfiguration best bound = (updated, t)) :
    Named P { t with calls := calls } := by
  have hfilter := (FilteredAdapter.update_cases hupdate).1
  refine ⟨fun a ha => hbest a ((defaultAdapter_update hupdate).symm.trans ha), fun hne => ?_⟩
  dsimp only at hne ⊢
  rw [hfilter, filterState_reconfigure] at hne
  rw [hfilter, PacketFilter.reconfigure, if_neg hne]
  exact h.filtered hne

/-- The filter is started on the interface that was found. -/
theorem Named.start {initialized : Bool} {calls : Multiset Call} (h : s.Named P)
    (hindexed : FilteredAdapter.Indexed s) :
    Named P { s with
      filter := s.filter.startFilter initialized s.ifIndex
      calls := calls } := by
  refine ⟨h.default, fun hne => ?_⟩
  dsimp only at hne ⊢
  unfold PacketFilter.startFilter at hne ⊢
  split
  · obtain ⟨a, ndis, hdefault, hndis, hmatch⟩ := hindexed
    exact ⟨a, ndis, h.default a hdefault, hndis, hmatch⟩
  · next hstopped => exact h.filtered hstopped

/-- A step keeps the kind, when what it looks up is of it and a call that starts the filter has
found an interface. -/
theorem Named.step (h : s.Named P)
    (hlooks : ∀ best, e.lookUp = some best → ∀ a, best = some a → P a)
    (hindexed : ∀ c ∈ s.calls, c.AtStart → FilteredAdapter.Indexed s) (hstep : Step s e t) :
    t.Named P := by
  cases hstep with
  | start _ | stop _ | startAcquires _ _ | stopAcquires _ _ | taskAcquires _ _ | startRegisters _
  | stopCancels _ | stopLeaves _ => exact ⟨h.default, h.filtered⟩
  | @notification best bound _ =>
    obtain ⟨latest, heq | heq⟩ := callback_eq best bound s
    all_goals
      rw [heq]
      exact ⟨h.default, h.filtered⟩
  | startUpdates hcalls hupdate | taskUpdates hcalls hupdate =>
    exact h.update (hlooks _ rfl) hupdate
  | startStarts hcalls =>
    exact h.start (hindexed .startStarts (hcalls ▸ Multiset.mem_cons_self ..) (by decide))
  | taskStarts hcalls =>
    exact h.start (hindexed .taskStarts (hcalls ▸ Multiset.mem_cons_self ..) (by decide))
  | stopStops hcalls =>
    refine ⟨h.default, fun hne => ?_⟩
    dsimp only at hne ⊢
    unfold PacketFilter.beginStop at hne ⊢
    split
    · next hrunning => exact h.filtered (by rw [hrunning]; simp)
    · next hnot =>
      rw [if_neg hnot] at hne
      exact h.filtered hne
  | stopJoins hcalls => exact ⟨h.default, fun hne => absurd rfl hne⟩
  | taskStops hcalls =>
    refine ⟨h.default, fun hne => ?_⟩
    dsimp only at hne ⊢
    unfold PacketFilter.stopFilter at hne ⊢
    split
    · next hrunning => exact absurd (if_pos hrunning ▸ rfl) hne
    · next hnot =>
      rw [if_neg hnot] at hne
      exact h.filtered hne

end RouterControl

/-- The router and its adapters, with what the system answered at each look-up of the best
interface. -/
structure AdapterRun where
  adapter : FilteredAdapter := {}
  lookUps : List AdapterAnswers := []

namespace AdapterRun

open FilteredAdapter (Event)

/-- The best interface an event looks up, if it does. -/
def lookUp : Event → Option (Option NetworkAdapterInfo)
  | .router e _ => e.lookUp
  | .unbound _ => none

/-- A look-up finds what `get_best_interface` returns on what the system answers. -/
inductive Step : AdapterRun → Event → AdapterRun → Prop
  | looksUp {s e t best calls r} {answers : AdapterAnswers} : lookUp e = some best →
      answers.getBestInterface calls = some r →
      best = r.map IndexedAdapter.toNetworkAdapterInfo → FilteredAdapter.Step s.adapter e t →
      Step s e { adapter := t, lookUps := s.lookUps ++ [answers] }
  | other {s e t} : lookUp e = none → FilteredAdapter.Step s.adapter e t →
      Step s e { s with adapter := t }

/-- The runs from the router's construction on. -/
def system : System AdapterRun Event where
  init s := s = {}
  step := Step

/-- The events of the router's adapters are orderly. -/
def Orderly (s : AdapterRun) (e : Event) : Prop := s.adapter.Orderly e

/-- The system reported the adapter at a look-up of the run. -/
def Reported (s : AdapterRun) (a : NetworkAdapterInfo) : Prop :=
  ∃ answers ∈ s.lookUps, ∃ x, answers.Reports x ∧ x.info.toNetworkAdapterInfo = a

variable {s t : AdapterRun} {e : Event}

/-- A step looks up only what the system reports, and forgets nothing that was reported. -/
theorem reported_of_step (h : Step s e t) :
    FilteredAdapter.Step s.adapter e t.adapter ∧ (∀ a, s.Reported a → t.Reported a) ∧
      ∀ best, lookUp e = some best → ∀ a, best = some a → t.Reported a := by
  cases h with
  | looksUp hlook hanswers hbest hstep =>
    refine ⟨hstep, fun a ⟨answers, hmem, ha⟩ => ⟨answers, List.mem_append_left _ hmem, ha⟩, ?_⟩
    intro best' hlook' a ha
    cases hlook.symm.trans hlook'
    obtain ⟨indexed, rfl, rfl⟩ := Option.map_eq_some_iff.mp (hbest.symm.trans ha)
    obtain ⟨x, hx, rfl⟩ := AdapterAnswers.reports_of_getBestInterface hanswers
    exact ⟨_, List.mem_append_right _ (List.mem_singleton_self _), x, hx, rfl⟩
  | other hnone hstep =>
    refine ⟨hstep, fun _ ha => ha, fun best hlook => ?_⟩
    rw [hnone] at hlook
    cases hlook

/-- A step of the router or of the driver keeps the kind. -/
theorem named_step {u v : FilteredAdapter} {P : NetworkAdapterInfo → Prop} (hinv : u.Inv)
    (hnamed : u.control.Named P)
    (hlooks : ∀ best, lookUp e = some best → ∀ a, best = some a → P a)
    (hstep : FilteredAdapter.Step u e v) : v.control.Named P := by
  cases hstep with
  | router hrouter _ => exact hnamed.step hlooks hinv.indexed hrouter
  | unbound handle => exact hnamed

theorem named_of_reachable (h : (system.restrict Orderly).Reachable s) :
    s.adapter.Inv ∧ s.adapter.control.Named s.Reported := by
  refine h.restrict_invariant (I := fun s => s.adapter.Inv ∧ s.adapter.control.Named s.Reported)
    (fun s hs => ?_) fun s e t hs horderly hstep => ?_
  · obtain rfl : s = {} := hs
    exact ⟨FilteredAdapter.Inv.init rfl, RouterControl.Named.init rfl⟩
  · obtain ⟨hfiltered, hmono, hlooks⟩ := reported_of_step hstep
    refine ⟨hs.1.step horderly hfiltered, ?_⟩
    exact named_step hs.1 (hs.2.mono hmono) hlooks hfiltered

/-- In every orderly run, whatever the system answers at the look-ups: an adapter in tunnel mode is
an interface of the driver that matches an adapter which the system reported up, with an address,
and no loopback, at a look-up of the run; and a call that is about to start the filter starts it on
an interface that matches such an adapter, the default one. -/
theorem tunneled_was_reported (h : (system.restrict Orderly).Reachable s) :
    (∀ handle ∈ s.adapter.tunneled,
      s.adapter.handles[s.adapter.control.filter.adapter]? = some handle ∧
      ∃ ndis a, s.adapter.control.filter.networkInterfaces[s.adapter.control.filter.adapter]? =
        some ndis ∧ s.Reported a ∧ a.matchesAdapter ndis = true) ∧
      ∀ c ∈ s.adapter.control.calls, c.AtStart →
        ∃ ndis a, s.adapter.control.filter.networkInterfaces[s.adapter.control.ifIndex]? =
            some ndis ∧ s.adapter.control.defaultAdapter = some a ∧ s.Reported a ∧
          a.matchesAdapter ndis = true := by
  obtain ⟨hinv, hnamed⟩ := named_of_reachable h
  refine ⟨fun handle hmem => ?_, fun c hc hat => ?_⟩
  · obtain ⟨hrunning, hhandle⟩ := hinv.tunneled handle hmem
    obtain ⟨a, ndis, hreported, hndis, hmatch⟩ := hnamed.filtered (by rw [hrunning]; simp)
    exact ⟨hhandle, ndis, a, hndis, hreported, hmatch⟩
  · obtain ⟨a, ndis, hdefault, hndis, hmatch⟩ := hinv.indexed c hc hat
    exact ⟨ndis, a, hndis, hdefault, hnamed.default a hdefault, hmatch⟩

/-! ## A run -/

namespace NamedRun

/-- The adapter that is up. -/
def adapter : NetworkAdapterInfo := ⟨2, 6, "", [.inet ⟨192, 0, 2, 7⟩]⟩

/-- The adapter and the loopback are reported. -/
def answers : AdapterAnswers where
  luids := some [1, 2]
  calls _ := ⟨100, some [⟨1, 1, "lo", 24, true, [.inet ⟨127, 0, 0, 1⟩]⟩,
    ⟨2, 7, "", 6, true, [.inet ⟨192, 0, 2, 7⟩]⟩]⟩
  bestIfIndex := some 7

/-- `start` is in progress. -/
def starting (c : Call) : FilteredAdapter where
  control := { isActive := true, calls := {c} }

/-- `start` has found the adapter. -/
def found : FilteredAdapter where
  control :=
    { isActive := true
      defaultAdapter := some adapter
      filter := { networkInterfaces := [⟨"", none⟩] }
      calls := {.startStarts}
      found := some "" }
  handles := [7]

/-- The filter is running. -/
def running : FilteredAdapter where
  control :=
    { found.control with
      filter := ⟨.running, [⟨"", none⟩], 0⟩
      calls := {.startRegisters} }
  handles := [7]
  tunneled := {7}

theorem running_reachable :
    (system.restrict Orderly).Reachable { adapter := running, lookUps := [answers] } := by
  have hinit : (system.restrict Orderly).Reachable {} := .init rfl
  have hstart := hinit.restrict_snoc (M := system) (t := { adapter := starting .startRequests })
    (.other rfl (.router (a := {}) (.start rfl) (by simp))) rfl
  have hacquire := hstart.restrict_snoc (M := system) (t := { adapter := starting .startUpdates })
    (.other rfl (.router (a := {}) (@RouterControl.Step.startAcquires _ 0 rfl (by simp))
      (by simp))) trivial
  have hrouter : RouterControl.Step (starting .startUpdates).control
      (.update (some adapter) [⟨"", none⟩]) found.control :=
    @RouterControl.Step.startUpdates (starting .startUpdates).control 0 (some adapter)
      [⟨"", none⟩] true { found.control with calls := {.startUpdates} } rfl rfl
  have hupdate : FilteredAdapter.Step (starting .startUpdates) _ found :=
    @FilteredAdapter.Step.router _ _ { handles := [7] } _ hrouter (by simp)
  have hfound : (system.restrict Orderly).Reachable { adapter := found, lookUps := [answers] } :=
    hacquire.restrict_snoc (M := system)
      (@Step.looksUp _ _ _ (some adapter) 1 (some ⟨adapter, 7⟩) answers rfl rfl rfl hupdate) trivial
  have hfilter : FilteredAdapter.Step found (.router (.startFilter true) {}) running :=
    @FilteredAdapter.Step.router found _ {} _ (@RouterControl.Step.startStarts _ 0 true rfl)
      (by simp)
  exact hfound.restrict_snoc (M := system) (.other rfl hfilter) trivial

end NamedRun

open NamedRun in
/-- The adapter in tunnel mode is the one that the system reported up. -/
theorem tunneled_was_reported_running : ∃ ndis a,
    running.control.filter.networkInterfaces[running.control.filter.adapter]? = some ndis ∧
      Reported { adapter := running, lookUps := [answers] } a ∧ a.matchesAdapter ndis = true :=
  ((tunneled_was_reported running_reachable).1 7 (by decide)).2

end AdapterRun

end CutieProxy
