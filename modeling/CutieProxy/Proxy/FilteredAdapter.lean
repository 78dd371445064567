import CutieProxy.Proxy.StopIsFinal
import Mathlib.Data.Finset.Erase
import Mathlib.Data.Finset.Insert

/-!
# The adapter that is filtered

`init_filter` puts the adapter at the index it was given into tunnel mode, in which the driver hands
packets to the filter in place of sending them, and `release_filter` takes it out again. Both look
up `network_interfaces_[adapter_]` without a check, and `reconfigure` replaces that list. This
module adds the driver to the runs of `RouterControl`: the handles of the adapters in the list, and
which adapters are in tunnel mode.

`only_filtered_tunneled` says that the index is one of the list and that no adapter but the one of a
running filter is in tunnel mode, in every run in which `start` is not called while an earlier call
of it is yet to start the filter (`Orderly`). `overlapping_starts_fault` shows what two calls of
`start` can do to each other: they share the lock.
-/

namespace CutieProxy

open Transition

/-- What the driver answers. -/
structure DriverAnswers where
  /-- `m_nAdapterHandle` of `GetTcpipBoundAdaptersInfo`. -/
  handles : List Nat := []
  /-- What `SetAdapterMode` returns. -/
  setAdapterMode : Bool := true

/-- The router, and what the driver has of its adapters. -/
structure FilteredAdapter where
  control : RouterControl := {}
  /-- `get_adapter` of each of `network_interfaces_`. -/
  handles : List Nat := []
  /-- The adapters that are in tunnel mode. -/
  tunneled : Finset Nat := ∅
  /-- An adapter was looked up beyond the end of `network_interfaces_`. -/
  faulted : Bool := false

namespace FilteredAdapter

/-- `reconfigure`. -/
def reconfigure (handles : List Nat) (s : FilteredAdapter) : FilteredAdapter :=
  if s.control.filter.filterState = .stopped then { s with handles := handles } else s

/-- `start_filter` with the index `if_index_`; `initialized` says that the blocks were allocated
and that the driver took the event. -/
def startFilter (initialized setAdapterMode : Bool) (s : FilteredAdapter) : FilteredAdapter :=
  if s.control.filter.filterState = .stopped then
    match s.handles[s.control.ifIndex]? with
    | some handle =>
      if initialized ∧ setAdapterMode then { s with tunneled := insert handle s.tunneled } else s
    | none => { s with faulted := true }
  else s

/-- `release` of the adapter in `stop_filter`. -/
def release (setAdapterMode : Bool) (s : FilteredAdapter) : FilteredAdapter :=
  if s.control.filter.filterState = .running then
    match s.handles[s.control.filter.adapter]? with
    | some handle =>
      if setAdapterMode then { s with tunneled := s.tunneled.erase handle } else s
    | none => { s with faulted := true }
  else s

/-- What an event of the router does to the adapters. -/
def after (e : RouterControl.Event) (a : DriverAnswers) (s : FilteredAdapter) : FilteredAdapter :=
  match e with
  | .update _ _ => s.reconfigure a.handles
  | .startFilter initialized => s.startFilter initialized a.setAdapterMode
  | .stopFilter _ => s.release a.setAdapterMode
  | _ => s

/-- What happens to the router and to the adapters. -/
inductive Event where
  | router (e : RouterControl.Event) (a : DriverAnswers)
  /-- The driver is no longer bound to an adapter, and forgets its mode. -/
  | unbound (handle : Nat)

/-- What happens when. -/
inductive Step : FilteredAdapter → Event → FilteredAdapter → Prop
  | router {s e a t} : RouterControl.Step s.control e t →
      (∀ best bound, e = .update best bound → a.handles.length = bound.length) →
      Step s (.router e a) { s.after e a with control := t }
  | unbound {s} (handle : Nat) :
      Step s (.unbound handle) { s with tunneled := s.tunneled.erase handle }

/-- The router and the adapters from the router's construction on. -/
def system : System FilteredAdapter Event where
  init s := s = {}
  step := Step

/-- `start` is not called while an earlier call of it is yet to start the filter, and the driver
takes an adapter out of tunnel mode when it is told to. -/
def Orderly (s : FilteredAdapter) : Event → Prop
  | .router .start _ => s.control.calls.countP Call.StartsLater = 0
  | .router (.stopFilter _) a => ∀ handle ∈ s.tunneled,
      s.handles[s.control.filter.adapter]? = some handle → a.setAdapterMode = true
  | _ => True

/-- The events of the router are in order. -/
def InOrder (s : FilteredAdapter) : Event → Prop
  | .router e _ => s.control.InOrder e
  | .unbound _ => True

variable {s r : FilteredAdapter} {e : Event} {c d : Call} {rest : Multiset Call}
  {a : DriverAnswers} {e' : RouterControl.Event} {t : RouterControl}

/-! ## What holds between the steps -/

/-- `if_index_` stands for an interface of the driver that matches the default adapter. -/
def Indexed (t : RouterControl) : Prop :=
  ∃ adapter ndis, t.defaultAdapter = some adapter ∧
    t.filter.networkInterfaces[t.ifIndex]? = some ndis ∧ adapter.matchesAdapter ndis = true

/-- What holds between the steps of an orderly run. -/
structure Inv (s : FilteredAdapter) : Prop where
  apart : s.control.Apart
  starters : s.control.calls.countP Call.StartsLater ≤ 1
  length : s.handles.length = s.control.filter.networkInterfaces.length
  indexed : ∀ c ∈ s.control.calls, c.AtStart → Indexed s.control
  adapter : s.control.filter.filterState ≠ .stopped → s.control.filter.adapter < s.handles.length
  tunneled : ∀ handle ∈ s.tunneled, s.control.filter.filterState = .running ∧
    s.handles[s.control.filter.adapter]? = some handle
  faulted : s.faulted = false

theorem Inv.init (h : system.init s) : s.Inv := by
  obtain rfl : s = {} := h
  exact ⟨RouterControl.Apart.init rfl, by simp, rfl, by simp, fun h => absurd rfl h, by simp, rfl⟩

/-- A call moves on, and leaves the filter and the adapters as they are. -/
theorem Inv.of_calls (h : s.Inv) (hapart : t.Apart) (hfilter : t.filter = s.control.filter)
    (hindex : t.ifIndex = s.control.ifIndex)
    (hdefault : t.defaultAdapter = s.control.defaultAdapter)
    (hstarters : t.calls.countP Call.StartsLater ≤ 1)
    (hstart : ∀ c ∈ t.calls, c.AtStart → c ∈ s.control.calls) :
    Inv { s with control := t } where
  apart := hapart
  starters := hstarters
  length := h.length.trans (congrArg (·.networkInterfaces.length) hfilter.symm)
  indexed c hc hat := by
    unfold Indexed
    rw [hfilter, hindex, hdefault]
    exact h.indexed c (hstart c hc hat) hat
  adapter hne := by
    rw [hfilter] at hne ⊢
    exact h.adapter hne
  tunneled handle hmem := by
    rw [hfilter]
    exact h.tunneled handle hmem
  faulted := h.faulted

/-- When a call comes to another action than `start_filter`, the calls there were there before. -/
theorem mem_of_moved {calls : Multiset Call} {c' : Call} (hcalls : calls = c ::ₘ rest)
    (hmem : c' ∈ d ::ₘ rest) (hstart : c'.AtStart) (hat : ¬ d.AtStart) : c' ∈ calls := by
  rw [hcalls]
  exact Multiset.mem_cons_of_mem
    ((Multiset.mem_cons.mp hmem).resolve_left fun heq => hat (heq ▸ hstart))

/-- The number of calls of `start` that are yet to start the filter does not grow when a call
leaves. -/
theorem Inv.starters_rest (h : s.Inv) (hcalls : s.control.calls = c ::ₘ rest) :
    rest.countP Call.StartsLater ≤ 1 := by
  have hcount := h.starters
  rw [hcalls, Multiset.countP_cons] at hcount
  exact le_trans (Nat.le_add_right _ _) hcount

/-- The number of calls of `start` that are yet to start the filter does not grow when a call comes
to an action from which it may start the filter only if it might before. -/
theorem Inv.starters_move (h : s.Inv) (hcalls : s.control.calls = c ::ₘ rest)
    (hlater : d.StartsLater → c.StartsLater) : (d ::ₘ rest).countP Call.StartsLater ≤ 1 := by
  have hcount := h.starters
  rw [hcalls, Multiset.countP_cons] at hcount
  rw [Multiset.countP_cons]
  refine le_trans (Nat.add_le_add_left ?_ _) hcount
  split
  · next hd => rw [if_pos (hlater hd)]
  · exact Nat.zero_le _

/-- A call comes to its next action. -/
theorem Inv.move (h : s.Inv) (hstep : RouterControl.Step s.control e' t)
    (hcalls : s.control.calls = c ::ₘ rest) (hr : t.calls = d ::ₘ rest)
    (hfilter : t.filter = s.control.filter) (hindex : t.ifIndex = s.control.ifIndex)
    (hdefault : t.defaultAdapter = s.control.defaultAdapter)
    (hlater : d.StartsLater → c.StartsLater) (hat : ¬ d.AtStart) :
    Inv { s with control := t } := by
  refine h.of_calls (h.apart.step hstep) hfilter hindex hdefault ?_ fun c' hc' hstart => ?_
  · rw [hr]
    exact h.starters_move hcalls hlater
  · rw [hr] at hc'
    exact mem_of_moved hcalls hc' hstart hat

/-- A call returns. -/
theorem Inv.leave (h : s.Inv) (hstep : RouterControl.Step s.control e' t)
    (hcalls : s.control.calls = c ::ₘ t.calls) (hfilter : t.filter = s.control.filter)
    (hindex : t.ifIndex = s.control.ifIndex)
    (hdefault : t.defaultAdapter = s.control.defaultAdapter) : Inv { s with control := t } := by
  refine h.of_calls (h.apart.step hstep) hfilter hindex hdefault (h.starters_rest hcalls)
    fun c' hc' _ => ?_
  rw [hcalls]
  exact Multiset.mem_cons_of_mem hc'

/-- A call begins. -/
theorem Inv.call (h : s.Inv) (hstep : RouterControl.Step s.control e' t)
    (hr : t.calls = c ::ₘ s.control.calls) (hfilter : t.filter = s.control.filter)
    (hindex : t.ifIndex = s.control.ifIndex)
    (hdefault : t.defaultAdapter = s.control.defaultAdapter)
    (hlater : c.StartsLater → s.control.calls.countP Call.StartsLater = 0) (hat : ¬ c.AtStart) :
    Inv { s with control := t } := by
  refine h.of_calls (h.apart.step hstep) hfilter hindex hdefault ?_ fun c' hc' hstart => ?_
  · rw [hr, Multiset.countP_cons]
    split
    · next hc => rw [hlater hc]
    · exact h.starters
  · rw [hr] at hc'
    exact (Multiset.mem_cons.mp hc').resolve_left fun heq => hat (heq ▸ hstart)

/-! ## The list of adapters and the filter -/

/-- An update replaces the list unless the filter has it, and finds the index of an interface that
matches the adapter it looked up, or none. -/
theorem update_cases {t t' : RouterControl} {best : Option NetworkAdapterInfo}
    {bound : List NetworkAdapter} {updated : Bool}
    (h : t.updateNetworkConfiguration best bound = (updated, t')) :
    t'.filter = t.filter.reconfigure bound ∧ t'.calls = t.calls ∧
      (updated = true → Indexed t') := by
  unfold RouterControl.updateNetworkConfiguration at h
  dsimp only at h
  split at h
  · cases h
    exact ⟨rfl, rfl, by simp⟩
  · next adapter =>
    split at h
    · next i hi =>
      cases h
      obtain ⟨hlt, hmatch, -⟩ := List.findIdx?_eq_some_iff_getElem.mp hi
      exact ⟨rfl, rfl, fun _ => ⟨adapter, _, rfl, List.getElem?_eq_getElem hlt, hmatch⟩⟩
    · cases h
      exact ⟨rfl, rfl, by simp⟩

/-- The list is replaced together with the handles. -/
theorem length_reconfigure {bound : List NetworkAdapter}
    (h : s.handles.length = s.control.filter.networkInterfaces.length)
    (hlength : a.handles.length = bound.length) : (s.reconfigure a.handles).handles.length =
      (s.control.filter.reconfigure bound).networkInterfaces.length := by
  unfold reconfigure PacketFilter.reconfigure
  split
  · exact hlength
  · exact h

/-- The configuration is updated by a call that has the lock to itself but for calls of `stop`. -/
theorem Inv.update {best : Option NetworkAdapterInfo} {bound : List NetworkAdapter} {updated : Bool}
    {calls : Multiset Call} (h : s.Inv)
    (hstep : RouterControl.Step s.control (.update best bound) { t with calls := calls })
    (hupdate : s.control.updateNetworkConfiguration best bound = (updated, t))
    (hlength : a.handles.length = bound.length)
    (hstarters : calls.countP Call.StartsLater ≤ 1)
    (hat : ∀ c ∈ calls, c.AtStart → updated = true) :
    Inv { s.reconfigure a.handles with control := { t with calls := calls } } := by
  obtain ⟨hfilter, -, hindexed⟩ := update_cases hupdate
  have hstate : t.filter.filterState = s.control.filter.filterState := by
    rw [hfilter, RouterControl.filterState_reconfigure]
  refine ⟨h.apart.step hstep, hstarters, ?_, fun c hc hstart => hindexed (hat c hc hstart), ?_, ?_,
    ?_⟩
  · dsimp only
    rw [hfilter]
    exact length_reconfigure h.length hlength
  · -- a filter that is not stopped keeps its list
    intro hne
    dsimp only at hne ⊢
    rw [hstate] at hne
    rw [hfilter, reconfigure, PacketFilter.reconfigure, if_neg hne, if_neg hne]
    exact h.adapter hne
  · intro handle hmem
    have hmem' : handle ∈ s.tunneled := by
      unfold reconfigure at hmem
      split at hmem <;> exact hmem
    obtain ⟨hrunning, hhandle⟩ := h.tunneled handle hmem'
    have hne : s.control.filter.filterState ≠ .stopped := by
      rw [hrunning]
      simp
    dsimp only
    rw [hstate, hfilter, reconfigure, PacketFilter.reconfigure, if_neg hne, if_neg hne]
    exact ⟨hrunning, hhandle⟩
  · unfold reconfigure
    split <;> exact h.faulted

/-- The filter is started on the adapter that was found. -/
theorem Inv.start {initialized accepted : Bool} {calls : Multiset Call} (h : s.Inv)
    (hindexed : Indexed s.control)
    (hstep : RouterControl.Step s.control (.startFilter initialized)
      { s.control with
        filter := s.control.filter.startFilter initialized s.control.ifIndex
        calls := calls })
    (hstarters : calls.countP Call.StartsLater ≤ 1) :
    Inv { s.startFilter initialized accepted with
      control :=
        { s.control with
          filter := s.control.filter.startFilter initialized s.control.ifIndex
          calls := calls } } := by
  have hapart := h.apart.step hstep
  by_cases hstopped : s.control.filter.filterState = .stopped
  · have hfilter : s.control.filter.startFilter initialized s.control.ifIndex =
        { s.control.filter with
          filterState := if initialized then .running else .starting
          adapter := s.control.ifIndex } := if_pos hstopped
    obtain ⟨adapter, ndis, hdefault, hndis, hmatch⟩ := hindexed
    have hlt : s.control.ifIndex < s.handles.length := by
      rw [h.length]
      exact (List.getElem?_eq_some_iff.mp hndis).1
    have hhandle := List.getElem?_eq_getElem hlt
    have hnone : s.tunneled = ∅ := by
      refine Finset.eq_empty_of_forall_notMem fun handle hmem => ?_
      have hrunning := (h.tunneled handle hmem).1
      rw [hstopped] at hrunning
      cases hrunning
    have hstart : s.startFilter initialized accepted = if initialized ∧ accepted then
        { s with tunneled := {s.handles[s.control.ifIndex]} } else s := by
      rw [startFilter, if_pos hstopped, hhandle, hnone]
      rfl
    rw [hfilter] at hapart ⊢
    rw [hstart]
    have hall : ∀ tunneled : Finset Nat, (∀ handle ∈ tunneled,
        initialized = true ∧ handle = s.handles[s.control.ifIndex]) →
        Inv { s with
          tunneled := tunneled
          control :=
            { s.control with
              filter :=
                { s.control.filter with
                  filterState := if initialized then .running else .starting
                  adapter := s.control.ifIndex }
              calls := calls } } := fun tunneled htunneled =>
      ⟨hapart, hstarters, h.length, fun _ _ _ => ⟨adapter, ndis, hdefault, hndis, hmatch⟩,
        fun _ => hlt, fun handle hmem => by
          obtain ⟨rfl, rfl⟩ := htunneled handle hmem
          exact ⟨rfl, hhandle⟩, h.faulted⟩
    split
    · next hboth => exact hall _ fun handle hmem => ⟨hboth.1, Finset.mem_singleton.mp hmem⟩
    · exact hall _ (by simp [hnone])
  · have hfilter : s.control.filter.startFilter initialized s.control.ifIndex =
        s.control.filter := if_neg hstopped
    have hsame : s.startFilter initialized accepted = s := if_neg hstopped
    rw [hfilter] at hapart ⊢
    rw [hsame]
    exact ⟨hapart, hstarters, h.length, fun _ _ _ => hindexed, h.adapter, h.tunneled, h.faulted⟩

/-- After `release_filter` no adapter is in tunnel mode. -/
theorem Inv.tunneled_release {accepted : Bool} (h : s.Inv)
    (haccepted : ∀ handle ∈ s.tunneled,
      s.handles[s.control.filter.adapter]? = some handle → accepted = true) :
    (s.release accepted).tunneled = ∅ := by
  refine Finset.eq_empty_of_forall_notMem fun handle hmem => ?_
  unfold release at hmem
  split at hmem
  · split at hmem
    · next filtered hfiltered =>
      split at hmem
      · obtain ⟨hne, hmem⟩ := Finset.mem_erase.mp hmem
        have hhandle := (h.tunneled handle hmem).2
        rw [hfiltered] at hhandle
        exact hne (Option.some.inj hhandle).symm
      · next hnot => exact hnot (haccepted handle hmem (h.tunneled handle hmem).2)
    · next hnone =>
      have hhandle := (h.tunneled handle hmem).2
      rw [hnone] at hhandle
      cases hhandle
  · next hnot => exact hnot (h.tunneled handle hmem).1

/-- The filter is stopped. -/
theorem Inv.stop {accepted : Bool} {filter : PacketFilter} {calls : Multiset Call} (h : s.Inv)
    (hapart : RouterControl.Apart { s.control with filter := filter, calls := calls })
    (hinterfaces : filter.networkInterfaces = s.control.filter.networkInterfaces)
    (hadapter : filter.adapter = s.control.filter.adapter)
    (hstopped : s.control.filter.filterState = .stopped → filter.filterState = .stopped)
    (hstarters : calls.countP Call.StartsLater ≤ 1)
    (hat : ∀ c ∈ calls, c.AtStart → c ∈ s.control.calls)
    (haccepted : ∀ handle ∈ s.tunneled,
      s.handles[s.control.filter.adapter]? = some handle → accepted = true) :
    Inv { s.release accepted with
      control := { s.control with filter := filter, calls := calls } } := by
  have hkept : (s.release accepted).handles = s.handles ∧ (s.release accepted).faulted = false := by
    unfold release
    split
    · next hrunning =>
      have hlt := h.adapter (by rw [hrunning]; simp)
      rw [List.getElem?_eq_getElem hlt]
      dsimp only
      split <;> exact ⟨rfl, h.faulted⟩
    · exact ⟨rfl, h.faulted⟩
  refine ⟨hapart, hstarters, ?_, fun c hc hstart => ?_, fun hne => ?_, ?_, hkept.2⟩
  · dsimp only
    rw [hkept.1, hinterfaces]
    exact h.length
  · unfold Indexed
    dsimp only
    rw [hinterfaces]
    exact h.indexed c (hat c hc hstart) hstart
  · dsimp only at hne ⊢
    rw [hkept.1, hadapter]
    exact h.adapter fun heq => hne (hstopped heq)
  · dsimp only
    rw [h.tunneled_release haccepted]
    simp

/-- No other call is about to start the filter while one updates. -/
theorem Inv.rest_not_atStart (h : s.Inv) (hcalls : s.control.calls = c ::ₘ rest)
    (hc : c = .startUpdates ∨ c = .taskUpdates) : ∀ d ∈ rest, ¬ d.AtStart := by
  have halone := h.apart.alone
  rcases hc with rfl | rfl
  · -- the lock is shared, so no task has it; and there is no other `start`
    have htasks := h.apart.exclusive_eq_zero hcalls (by decide) (by decide)
    have hstarters := h.starters
    rw [hcalls, Multiset.countP_cons_of_pos _ (by decide)] at hstarters
    have hnone := Nat.le_zero.mp (Nat.le_of_succ_le_succ hstarters)
    rintro d hd (rfl | rfl)
    · exact Multiset.countP_eq_zero.mp hnone _ hd (by decide)
    · exact Multiset.countP_eq_zero.mp htasks _ hd (by decide)
  · -- a task has the lock alone
    rw [hcalls] at halone
    obtain ⟨hone, hshared⟩ := halone (Multiset.countP_pos.mpr ⟨_, Multiset.mem_cons_self _ _,
      by decide⟩)
    rw [Multiset.countP_cons_of_pos _ (by decide)] at hone
    have htasks := Nat.succ.inj hone
    rintro d hd (rfl | rfl)
    · exact Multiset.countP_eq_zero.mp hshared _ (Multiset.mem_cons_of_mem hd) (by decide)
    · exact Multiset.countP_eq_zero.mp htasks _ hd (by decide)

/-- A call that is about to start the filter is no `stop`. -/
theorem not_isStop_of_atStart (h : c.AtStart) : ¬ c.IsStop := by
  rcases h with rfl | rfl <;> decide

/-- An orderly step keeps the adapters that are not filtered out of tunnel mode. -/
theorem Inv.step (h : s.Inv) (horderly : s.Orderly e) (hstep : Step s e r) : r.Inv := by
  cases hstep with
  | unbound handle =>
    exact { h with tunneled := fun x hx => h.tunneled x (Finset.mem_of_mem_erase hx) }
  | @router e a t hrouter hlength =>
    have hstep := hrouter
    cases hrouter with
    | start hinactive =>
      have hnone : (s.control.calls.map Call.supersede).countP Call.StartsLater = 0 :=
        (Call.countP_supersede Call.startsLater_supersede _).trans horderly
      refine h.of_calls (h.apart.step hstep) rfl rfl rfl ?_ fun c hc hat => ?_
      · rw [Multiset.countP_cons_of_pos _ (by decide), hnone]
      · have hmem := (Multiset.mem_cons.mp hc).resolve_left fun heq => by
          rw [heq] at hat
          exact absurd hat (by decide)
        exact Call.mem_of_supersede hmem (not_isStop_of_atStart hat)
    | stop hactive => exact h.call hstep rfl rfl rfl rfl (absurd · (by decide)) (by decide)
    | @notification best bound hregistered =>
      obtain ⟨latest, heq | heq⟩ := RouterControl.callback_eq best bound s.control
      · rw [heq] at hstep ⊢
        exact h.of_calls (h.apart.step hstep) rfl rfl rfl h.starters fun _ hc _ => hc
      · rw [heq] at hstep ⊢
        exact h.call hstep rfl rfl rfl rfl (absurd · (by decide)) (by decide)
    | startAcquires hcalls hfree =>
      exact h.move hstep hcalls rfl rfl rfl rfl (fun _ => by decide) (by decide)
    | taskAcquires hcalls hfree =>
      exact h.move hstep hcalls rfl rfl rfl rfl (absurd · (by decide)) (by decide)
    | @stopAcquires rest last hcalls hfree | @stopCancels rest last _ hcalls =>
      exact h.move hstep hcalls rfl rfl rfl rfl (absurd · (by cases last <;> decide))
        (by cases last <;> decide)
    | startRegisters hcalls | stopLeaves hcalls => exact h.leave hstep hcalls rfl rfl rfl
    | @startUpdates rest best bound updated t hcalls hupdate =>
      have hrest := h.rest_not_atStart hcalls (.inl rfl)
      refine h.update hstep hupdate (hlength _ _ rfl) (h.starters_move hcalls fun _ => by decide)
        fun c hc hat => ?_
      rcases Multiset.mem_cons.mp hc with rfl | hc
      · cases updated with
        | true => rfl
        | false => exact absurd hat (by decide)
      · exact absurd hat (hrest c hc)
    | @taskUpdates rest best bound updated t hcalls hupdate =>
      have hrest := h.rest_not_atStart hcalls (.inr rfl)
      cases updated with
      | true =>
        exact h.update hstep hupdate (hlength _ _ rfl)
          (h.starters_move hcalls (absurd · (by decide))) fun _ _ _ => rfl
      | false =>
        exact h.update hstep hupdate (hlength _ _ rfl) (h.starters_rest hcalls)
          fun c hc hat => absurd hat (hrest c hc)
    | @startStarts rest initialized hcalls =>
      exact h.start (h.indexed .startStarts (hcalls ▸ Multiset.mem_cons_self ..) (by decide)) hstep
        (h.starters_move hcalls (absurd · (by decide)))
    | @taskStarts rest initialized hcalls =>
      exact h.start (h.indexed .taskStarts (hcalls ▸ Multiset.mem_cons_self ..) (by decide)) hstep
        (h.starters_rest hcalls)
    | @stopStops rest last hcalls =>
      have hpc : ¬ (if s.control.filter.filterState = .running then Call.stopJoins last
            else .stopLeaves last).StartsLater ∧
          ¬ (if s.control.filter.filterState = .running then Call.stopJoins last
            else .stopLeaves last).AtStart := by
        split <;> cases last <;> decide
      refine h.stop (h.apart.step hstep) ?_ ?_ (fun hstopped => ?_)
        (h.starters_move hcalls (absurd · hpc.1))
        (fun c hc hat => mem_of_moved hcalls hc hat hpc.2) horderly
      · unfold PacketFilter.beginStop
        split <;> rfl
      · unfold PacketFilter.beginStop
        split <;> rfl
      · rw [PacketFilter.beginStop, if_neg (by simp [hstopped]), hstopped]
    | @taskStops rest hcalls =>
      refine h.stop (h.apart.step hstep) ?_ ?_ (fun hstopped => ?_)
        (h.starters_move hcalls (absurd · (by decide)))
        (fun c hc hat => mem_of_moved hcalls hc hat (by decide)) horderly
      · unfold PacketFilter.stopFilter
        split <;> rfl
      · unfold PacketFilter.stopFilter
        split <;> rfl
      · rw [PacketFilter.stopFilter, if_neg (by simp [hstopped]), hstopped]
    | @stopJoins rest last hcalls =>
      -- the filter is stopping, so no adapter is in tunnel mode any more
      have hnot : s.control.filter.filterState ≠ .running := by
        rw [h.apart.stopping_of_joins hcalls]
        simp
      exact ⟨h.apart.step hstep, h.starters_move hcalls (absurd · (by cases last <;> decide)),
        h.length,
        fun c hc hat => h.indexed c (mem_of_moved hcalls hc hat (by cases last <;> decide)) hat,
        fun hne => absurd rfl hne, fun handle hmem => absurd (h.tunneled handle hmem).1 hnot,
        h.faulted⟩

/-! ## A run -/

namespace TunnelRun

open RouterControl (anyAdapter)

/-- The condition on the runs of `none_tunneled_of_stopped`. -/
abbrev condition (s : FilteredAdapter) (e : Event) : Prop := s.Orderly e ∧ s.InOrder e

/-- `start` is in progress. -/
def starting (c : Call) : FilteredAdapter where
  control := RouterControl.StopRun.starting c

/-- `start` has found an adapter. -/
def found : FilteredAdapter where
  control := RouterControl.StopRun.updated
  handles := [7]

/-- The filter is running. -/
def started : FilteredAdapter where
  control := RouterControl.StopRun.started
  handles := [7]
  tunneled := {7}

theorem found_reachable : (system.restrict condition).Reachable found := by
  have hinit : (system.restrict condition).Reachable {} := .init rfl
  have hstart : (system.restrict condition).Reachable (starting .startRequests) :=
    hinit.restrict_snoc (M := system) (Step.router (a := {}) (.start rfl) (by simp))
      ⟨rfl, fun _ _ => trivial⟩
  have hacquire : (system.restrict condition).Reachable (starting .startUpdates) :=
    hstart.restrict_snoc (M := system) (Step.router (a := {})
      (@RouterControl.Step.startAcquires _ 0 rfl (by simp)) (by simp)) ⟨trivial, fun _ _ => trivial⟩
  have hrouter : RouterControl.Step (starting .startUpdates).control
      (.update (some anyAdapter) [⟨"", none⟩]) RouterControl.StopRun.updated :=
    @RouterControl.Step.startUpdates (RouterControl.StopRun.starting .startUpdates) 0
      (some anyAdapter) [⟨"", none⟩] true
      { RouterControl.StopRun.updated with calls := {.startUpdates} } rfl rfl
  have hstep : Step (starting .startUpdates) _ found :=
    @Step.router _ _ { handles := [7] } _ hrouter (by simp)
  exact hacquire.restrict_snoc (M := system) hstep ⟨trivial, fun _ _ => trivial⟩

theorem started_reachable : (system.restrict condition).Reachable started := by
  have hfilter : Step found (.router (.startFilter true) {})
      { control := RouterControl.StopRun.filtering, handles := [7], tunneled := {7} } :=
    @Step.router found _ {} _ (@RouterControl.Step.startStarts _ 0 true rfl) (by simp)
  have hregister : Step
      { control := RouterControl.StopRun.filtering, handles := [7], tunneled := {7} }
      (.router (.setNotify true) {}) started :=
    @Step.router _ _ {} _ (@RouterControl.Step.startRegisters RouterControl.StopRun.filtering 0 true
      rfl) (by simp)
  exact (found_reachable.restrict_snoc (M := system) hfilter
    ⟨trivial, fun _ _ => trivial⟩).restrict_snoc (M := system) hregister
    ⟨trivial, fun _ _ => trivial⟩

/-- `stop` is at an action. -/
def stopping (registered : Bool) (c : Call) : FilteredAdapter :=
  { started with
    control :=
      { RouterControl.StopRun.started with
        isActive := false
        registered := registered
        calls := {c} } }

/-- `stop` has returned. -/
def stopped : FilteredAdapter where
  control := RouterControl.StopRun.stopped RouterControl.StopRun.started
  handles := [7]
  tunneled := ({7} : Finset Nat).erase 7

theorem stopped_reachable : (system.restrict condition).Reachable stopped := by
  have hstop : (system.restrict condition).Reachable (stopping true (.stopRequests true)) :=
    started_reachable.restrict_snoc (M := system) (Step.router (a := {}) (.stop rfl) (by simp))
      ⟨trivial, fun _ _ => trivial⟩
  have hacquire : (system.restrict condition).Reachable (stopping true (.stopCancels true)) :=
    hstop.restrict_snoc (M := system) (Step.router (a := {})
      (@RouterControl.Step.stopAcquires _ 0 true rfl (by simp)) (by simp))
      ⟨trivial, fun _ _ => trivial⟩
  have hcancel : (system.restrict condition).Reachable (stopping false (.stopStops true)) :=
    hacquire.restrict_snoc (M := system) (Step.router (a := {})
      (@RouterControl.Step.stopCancels _ 0 true true rfl) (by simp)) ⟨trivial, fun _ _ => trivial⟩
  have hstops := hcancel.restrict_snoc (M := system) (Step.router (a := {})
    (@RouterControl.Step.stopStops _ 0 true rfl) (by simp)) ⟨fun _ _ _ => rfl, fun _ _ => rfl⟩
  have hjoins := hstops.restrict_snoc (M := system) (Step.router (a := {})
    (@RouterControl.Step.stopJoins _ 0 true rfl) (by simp)) ⟨trivial, fun _ _ => trivial⟩
  exact hjoins.restrict_snoc (M := system) (Step.router (a := {})
    (@RouterControl.Step.stopLeaves _ 0 true rfl) (by simp)) ⟨trivial, fun _ _ => trivial⟩

end TunnelRun

/-! ## Every run -/

theorem inv_of_reachable (h : (system.restrict Orderly).Reachable s) : s.Inv :=
  h.restrict_invariant (fun _ => Inv.init) fun _ _ _ hs horderly hstep => hs.step horderly hstep

/-- In every orderly run `network_interfaces_` has the index that is looked up in it, no adapter is
in tunnel mode but the one a running filter filters, and a call that is about to start the filter
starts it on an interface of the driver that matches the default adapter. -/
theorem only_filtered_tunneled (h : (system.restrict Orderly).Reachable s) :
    s.faulted = false ∧
      (∀ handle ∈ s.tunneled, s.control.filter.filterState = .running ∧
        s.handles[s.control.filter.adapter]? = some handle) ∧
      ∀ c ∈ s.control.calls, c.AtStart → Indexed s.control :=
  ⟨(inv_of_reachable h).faulted, (inv_of_reachable h).tunneled, (inv_of_reachable h).indexed⟩

open TunnelRun in
theorem only_filtered_tunneled_started : started.faulted = false ∧
    ∀ handle ∈ started.tunneled, started.control.filter.filterState = .running ∧
      started.handles[started.control.filter.adapter]? = some handle :=
  have h := only_filtered_tunneled (started_reachable.restrict_mono fun _ _ => And.left)
  ⟨h.1, h.2.1⟩

/-- Where the events of the router are in order too, no adapter is left in tunnel mode once the
`stop` that made the router inactive has returned, until the next `start`. -/
theorem none_tunneled_of_stopped
    (h : (system.restrict fun s e => s.Orderly e ∧ s.InOrder e).Reachable s)
    (hstopped : s.control.Stopped) : s.tunneled = ∅ := by
  have hboth : s.Inv ∧ s.control.Final := by
    refine h.restrict_invariant (I := fun s => s.Inv ∧ s.control.Final) ?_ ?_
    · intro s hs
      refine ⟨Inv.init hs, ?_⟩
      obtain rfl : s = {} := hs
      exact fun _ _ _ => ⟨by simp, rfl, rfl⟩
    · intro s e r hs horder hstep
      refine ⟨hs.1.step horder.1 hstep, ?_⟩
      cases hstep with
      | router hrouter _ => exact hs.2.step hs.1.apart horder.2 hrouter
      | unbound handle => exact hs.2
  obtain ⟨hinv, hfinal⟩ := hboth
  refine Finset.eq_empty_of_forall_notMem fun handle hmem => ?_
  have hrunning := (hinv.tunneled handle hmem).1
  exact (hfinal (by rw [hrunning]; simp) hstopped.1 hstopped.willStop).1 hrunning

open TunnelRun in
theorem none_tunneled_of_stopped_started : stopped.tunneled = ∅ :=
  none_tunneled_of_stopped stopped_reachable ⟨rfl, rfl⟩

/-! ## Calls of `start` that overlap -/

theorem apart_of_reachable (h : system.Reachable s) : s.control.Apart := by
  refine h.invariant (I := fun s => s.control.Apart) ?_ ?_
  · intro s hs
    obtain rfl : s = {} := hs
    exact RouterControl.Apart.init rfl
  · intro s e r hs hstep
    cases hstep with
    | router hrouter _ => exact hs.step hrouter
    | unbound handle => exact hs

/-- A `start` that is called while an earlier call of it is between `update_network_configuration`
and `start_filter` replaces the list of adapters, and the index stays. -/
theorem second_start_faults (hinactive : s.control.isActive = false)
    (hcalls : s.control.calls = .startStarts ::ₘ rest) (hfree : rest.countP Call.Exclusive = 0)
    (hstopped : s.control.filter.filterState = .stopped) :
    ∃ r, system.Steps s r ∧ r.faulted = true := by
  have hcalled : s.control.calls.map Call.supersede =
      .startStarts ::ₘ rest.map Call.supersede := by
    rw [hcalls, Multiset.map_cons]
    rfl
  have hnone : ∀ c ∈ Call.startStarts ::ₘ rest.map Call.supersede, ¬ c.Exclusive := by
    refine Multiset.countP_eq_zero.mp ?_
    rw [Multiset.countP_cons_of_neg _ (by decide),
      Call.countP_supersede Call.exclusive_supersede, hfree]
  have hstart := (System.Steps.refl (M := system) s).snoc
    (Step.router (a := {}) (.start hinactive) (by simp))
  have hacquire : system.Steps s { s with
      control :=
        { s.control with
          isActive := true
          latest := none
          calls := .startUpdates ::ₘ .startStarts ::ₘ rest.map Call.supersede } } := by
    rw [← hcalled] at hnone ⊢
    exact hstart.snoc (Step.router (a := {}) (.startAcquires rfl hnone) (by simp))
  have hupdate := hacquire.snoc (Step.router (a := {})
    (@RouterControl.Step.startUpdates _ _ none [] _ _ rfl rfl) (by simp))
  have hswap : Call.startRegisters ::ₘ .startStarts ::ₘ rest.map Call.supersede =
      .startStarts ::ₘ .startRegisters ::ₘ rest.map Call.supersede := Multiset.cons_swap ..
  refine ⟨_, hupdate.snoc (Step.router (a := {})
    (@RouterControl.Step.startStarts _ _ true hswap) (by simp)), ?_⟩
  simp [after, reconfigure, startFilter, PacketFilter.reconfigure, hstopped]

/-- While a call of `start` is between `update_network_configuration` and `start_filter`, another
`start`, after a `stop` where the router is active, can bring it to look up an index that
`network_interfaces_` does not have: the calls share the lock. -/
theorem overlapping_starts_fault (h : system.Reachable s)
    (hcalls : s.control.calls = .startStarts ::ₘ rest)
    (hstopped : s.control.filter.filterState = .stopped) :
    ∃ r, system.Steps s r ∧ r.faulted = true := by
  have hfree := (apart_of_reachable h).exclusive_eq_zero hcalls (by decide) (by decide)
  by_cases hactive : s.control.isActive = true
  · have hstops : Call.stopRequests true ::ₘ s.control.calls =
        .startStarts ::ₘ .stopRequests true ::ₘ rest := by
      rw [hcalls, Multiset.cons_swap]
    have hrest : (Call.stopRequests true ::ₘ rest).countP Call.Exclusive = 0 :=
      (Multiset.countP_cons_of_neg rest (by decide)).trans hfree
    obtain ⟨t, hstop, hinactive, hstarts, hidle⟩ : ∃ t, system.Steps s t ∧
        t.control.isActive = false ∧
        t.control.calls = .startStarts ::ₘ .stopRequests true ::ₘ rest ∧
        t.control.filter.filterState = .stopped :=
      ⟨_, (System.Steps.refl s).snoc (M := system)
        (Step.router (a := {}) (.stop hactive) (by simp)), rfl, hstops, hstopped⟩
    obtain ⟨r, hsteps, hfault⟩ := second_start_faults hinactive hstarts hrest hidle
    exact ⟨r, hstop.trans hsteps, hfault⟩
  · exact second_start_faults (Bool.eq_false_iff.mpr hactive) hcalls hfree hstopped

open TunnelRun in
theorem overlapping_starts_fault_found : ∃ r, system.Steps found r ∧ r.faulted = true :=
  @overlapping_starts_fault found 0 found_reachable.of_restrict rfl rfl

end FilteredAdapter

end CutieProxy
