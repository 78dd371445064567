import CutieProxy.Proxy.RouterControl

/-!
# The packet filter after `stop`

A restart task does not look at `is_active_`, and `stop` neither joins nor cancels the tasks that
wait for the lock; `start` and `stop` share the lock, so calls of them may overlap.
`not_running_of_stopped` says when the filter stays stopped all the same, from the return of a
`stop` to the next `start`: no task is given the lock, and no call of `start` is still on its way,
once that `stop` has stopped the filter (`InOrder`). `late_task_starts` shows that a task that is
given the lock later can start the filter again.
-/

namespace CutieProxy

open Transition

namespace RouterControl

variable {s r : RouterControl} {e : Event} {c d : Call} {rest : Multiset Call}

/-- The call of `stop` that made the router inactive has returned. Earlier ones, after which `start`
was called, may be in progress. -/
def Stopped (s : RouterControl) : Prop :=
  s.isActive = false ∧ s.calls.countP Call.IsLastStop = 0

/-- No call that may start the filter comes after the `stop_filter` of the `stop` that made the
router inactive. A filter whose start failed is out of use. -/
def InOrder (s : RouterControl) (e : Event) : Prop :=
  s.filter.filterState ≠ .starting → s.isActive = false →
    match e with
    | .acquire .taskRequests => 0 < s.calls.countP Call.WillStop
    | .stopFilter (.stopStops true) => s.calls.countP Call.StartsLater = 0
    | _ => True

/-! ## Who has the lock -/

/-- A task that has the lock is the only call that has it. -/
def Alone (calls : Multiset Call) : Prop :=
  0 < calls.countP Call.Exclusive →
    calls.countP Call.Exclusive = 1 ∧ calls.countP Call.Shared = 0

/-- A call moves on without taking or leaving the lock. -/
theorem Alone.move (h : Alone (c ::ₘ rest)) (hexclusive : d.Exclusive ↔ c.Exclusive)
    (hshared : d.Shared ↔ c.Shared) : Alone (d ::ₘ rest) := by
  unfold Alone at h ⊢
  simpa only [Multiset.countP_cons, hexclusive, hshared] using h

/-- The lock is kept as it must be, and one call at most waits for the threads of the filter. -/
structure Apart (s : RouterControl) : Prop where
  alone : Alone s.calls
  joins : s.calls.countP Call.Joins = if s.filter.filterState = .stopping then 1 else 0

theorem filterState_reconfigure (p : PacketFilter) (bound : List NetworkAdapter) :
    (p.reconfigure bound).filterState = p.filterState := by
  unfold PacketFilter.reconfigure
  split <;> rfl

theorem update_eq {best bound updated s'}
    (h : s.updateNetworkConfiguration best bound = (updated, s')) :
    s'.filter.filterState = s.filter.filterState ∧ s'.isActive = s.isActive ∧
      s'.latest = s.latest := by
  unfold updateNetworkConfiguration at h
  split at h
  · cases h
    exact ⟨filterState_reconfigure .., rfl, rfl⟩
  · dsimp only at h
    split at h <;> cases h <;> exact ⟨filterState_reconfigure .., rfl, rfl⟩

theorem stopping_startFilter (p : PacketFilter) (initialized : Bool) (i : Nat) :
    (p.startFilter initialized i).filterState = .stopping ↔ p.filterState = .stopping := by
  unfold PacketFilter.startFilter
  split
  next hstopped => cases initialized <;> simp [hstopped]
  next => rfl

theorem stopping_stopFilter (p : PacketFilter) :
    p.stopFilter.filterState = .stopping ↔ p.filterState = .stopping := by
  unfold PacketFilter.stopFilter
  split
  next hrunning => simp [hrunning]
  next => rfl

/-- A notification adds a task at most, and leaves the rest as it is but what was reported. -/
theorem callback_eq (best : Option NetworkAdapterInfo) (bound : List NetworkAdapter)
    (s : RouterControl) : ∃ latest, s.ipInterfaceChangedCallback best bound =
      { s with latest := latest } ∨
      s.ipInterfaceChangedCallback best bound =
        { s with
          latest := latest
          calls := .taskRequests ::ₘ s.calls } := by
  unfold ipInterfaceChangedCallback
  split
  · exact ⟨_, .inl rfl⟩
  · dsimp only
    split
    · exact ⟨_, .inl rfl⟩
    · exact ⟨_, .inr rfl⟩

/-- A call that moves on without taking or leaving the lock, and without the filter's threads. -/
theorem Apart.move (h : s.Apart) (hcalls : s.calls = c ::ₘ rest) (hr : r.calls = d ::ₘ rest)
    (hexclusive : d.Exclusive ↔ c.Exclusive) (hshared : d.Shared ↔ c.Shared)
    (hc : ¬ c.Joins) (hc' : ¬ d.Joins)
    (hstate : r.filter.filterState = .stopping ↔ s.filter.filterState = .stopping) :
    r.Apart := by
  obtain ⟨halone, hjoins⟩ := h
  rw [hcalls] at halone hjoins
  refine ⟨?_, ?_⟩
  · rw [hr]
    exact halone.move hexclusive hshared
  · rw [hr, Multiset.countP_cons_of_neg _ hc']
    rw [Multiset.countP_cons_of_neg _ hc] at hjoins
    simpa only [hstate] using hjoins

/-- A call that ends. -/
theorem Apart.leave (h : s.Apart) (hcalls : s.calls = c ::ₘ rest) (hr : r.calls = rest)
    (hc : ¬ c.Joins)
    (hstate : r.filter.filterState = .stopping ↔ s.filter.filterState = .stopping) :
    r.Apart := by
  obtain ⟨halone, hjoins⟩ := h
  rw [hcalls] at halone hjoins
  refine ⟨fun hpos => ?_, ?_⟩
  · rw [hr] at hpos ⊢
    have hboth := halone (Nat.lt_of_lt_of_le hpos (by rw [Multiset.countP_cons]; omega))
    simp only [Multiset.countP_cons] at hboth
    omega
  · rw [hr]
    rw [Multiset.countP_cons_of_neg _ hc] at hjoins
    simpa only [hstate] using hjoins

/-- A call that begins without the lock. -/
theorem Apart.call (h : s.Apart) (hr : r.calls = c ::ₘ s.calls) (hexclusive : ¬ c.Exclusive)
    (hshared : ¬ c.Shared) (hc : ¬ c.Joins)
    (hstate : r.filter.filterState = s.filter.filterState) : r.Apart := by
  refine ⟨?_, ?_⟩
  · rw [hr, Alone, Multiset.countP_cons_of_neg _ hexclusive, Multiset.countP_cons_of_neg _ hshared]
    exact h.alone
  · rw [hr, Multiset.countP_cons_of_neg _ hc, hstate]
    exact h.joins

/-- When `start` is called the lock is where it was. -/
theorem Apart.supersede (h : s.Apart) :
    Apart { s with calls := s.calls.map Call.supersede } := by
  refine ⟨?_, ?_⟩
  · dsimp only
    rw [Alone, Call.countP_supersede Call.exclusive_supersede,
      Call.countP_supersede Call.shared_supersede]
    exact h.alone
  · exact (Call.countP_supersede Call.joins_supersede s.calls).trans h.joins

/-- A call is given the lock. -/
theorem Apart.acquire (h : s.Apart) (hcalls : s.calls = c ::ₘ rest) (hc : ¬ c.Joins)
    (hc' : ¬ d.Joins) (hfree : rest.countP Call.Exclusive = 0)
    (halone : d.Exclusive → rest.countP Call.Shared = 0 ∧ ¬ d.Shared) :
    Apart { s with calls := d ::ₘ rest } := by
  obtain ⟨-, hjoins⟩ := h
  rw [hcalls] at hjoins
  refine ⟨fun hpos => ?_, ?_⟩
  · simp only [Multiset.countP_cons] at hpos ⊢
    by_cases hexclusive : d.Exclusive
    · obtain ⟨hnone, hshared⟩ := halone hexclusive
      rw [if_pos hexclusive, if_neg hshared]
      omega
    · rw [if_neg hexclusive] at hpos
      omega
  · rw [Multiset.countP_cons_of_neg _ hc']
    rwa [Multiset.countP_cons_of_neg _ hc] at hjoins

/-- No other call has the lock alone while one shares it. -/
theorem Apart.exclusive_eq_zero (h : s.Apart) (hcalls : s.calls = c ::ₘ rest)
    (hexclusive : ¬ c.Exclusive) (hshared : c.Shared) : rest.countP Call.Exclusive = 0 := by
  have halone := h.alone
  rw [hcalls, Alone, Multiset.countP_cons_of_neg _ hexclusive,
    Multiset.countP_cons_of_pos _ hshared] at halone
  rcases Nat.eq_zero_or_pos (rest.countP Call.Exclusive) with hzero | hpos
  · exact hzero
  · cases (halone hpos).2

/-- Every step keeps the calls that have the lock apart. -/
theorem Apart.step (h : s.Apart) (hstep : Step s e r) : r.Apart := by
  cases hstep with
  | start hinactive => exact h.supersede.call rfl (by decide) (by decide) (by decide) rfl
  | stop hactive => exact h.call rfl (by decide) (by decide) (by decide) rfl
  | @notification best bound hregistered =>
    obtain ⟨latest, heq | heq⟩ := callback_eq best bound s
    · rw [heq]
      exact ⟨h.alone, h.joins⟩
    · rw [heq]
      exact h.call rfl (by decide) (by decide) (by decide) rfl
  | startAcquires hcalls hfree =>
    exact h.acquire hcalls (by decide) (by decide) (Multiset.countP_eq_zero.mpr hfree)
      fun hexclusive => absurd hexclusive (by decide)
  | @stopAcquires rest last hcalls hfree =>
    exact h.acquire hcalls (by cases last <;> decide) (by cases last <;> decide)
      (Multiset.countP_eq_zero.mpr hfree) fun hexclusive => absurd hexclusive (by cases last <;> decide)
  | taskAcquires hcalls hfree =>
    exact h.acquire hcalls (by decide) (by decide)
      (Multiset.countP_eq_zero.mpr fun c hc => (hfree c hc).1)
      fun _ => ⟨Multiset.countP_eq_zero.mpr fun c hc => (hfree c hc).2, by decide⟩
  | @startUpdates rest best bound updated s' hcalls hupdate =>
    have hstate := (update_eq hupdate).1
    cases updated with
    | true =>
      exact h.move (d := .startStarts) hcalls rfl (by decide) (by decide) (by decide) (by decide)
        (by rw [hstate])
    | false =>
      exact h.move (d := .startRegisters) hcalls rfl (by decide) (by decide) (by decide)
        (by decide) (by rw [hstate])
  | startStarts hcalls =>
    exact h.move hcalls rfl (by decide) (by decide) (by decide) (by decide)
      (stopping_startFilter ..)
  | startRegisters hcalls => exact h.leave hcalls rfl (by decide) Iff.rfl
  | @stopCancels rest last _ hcalls =>
    exact h.move hcalls rfl (by cases last <;> decide) (by cases last <;> decide) (by cases last <;> decide)
      (by cases last <;> decide) Iff.rfl
  | @stopStops rest last hcalls =>
    unfold PacketFilter.beginStop
    split
    next hrunning =>
      obtain ⟨halone, hjoins⟩ := h
      rw [hcalls] at halone hjoins
      rw [Multiset.countP_cons_of_neg _ (by cases last <;> decide), hrunning] at hjoins
      refine ⟨halone.move (by cases last <;> decide) (by cases last <;> decide), ?_⟩
      rw [Multiset.countP_cons_of_pos _ ⟨last, rfl⟩, hjoins]
      rfl
    next hrunning =>
      exact h.move hcalls rfl (by cases last <;> decide) (by cases last <;> decide) (by cases last <;> decide)
        (by cases last <;> decide) Iff.rfl
  | @stopJoins rest last hcalls =>
    obtain ⟨halone, hjoins⟩ := h
    rw [hcalls] at halone hjoins
    rw [Multiset.countP_cons_of_pos _ ⟨last, rfl⟩] at hjoins
    refine ⟨halone.move (by cases last <;> decide) (by cases last <;> decide), ?_⟩
    rw [Multiset.countP_cons_of_neg _ (by cases last <;> decide)]
    split at hjoins
    · exact Nat.succ.inj hjoins
    · cases hjoins
  | @stopLeaves rest last hcalls => exact h.leave hcalls rfl (by cases last <;> decide) Iff.rfl
  | taskStops hcalls =>
    exact h.move hcalls rfl (by decide) (by decide) (by decide) (by decide)
      (stopping_stopFilter _)
  | @taskUpdates rest best bound updated s' hcalls hupdate =>
    have hstate := (update_eq hupdate).1
    cases updated with
    | true =>
      exact h.move (d := .taskStarts) hcalls rfl (by decide) (by decide) (by decide) (by decide)
        (by rw [hstate])
    | false => exact h.leave hcalls rfl (by decide) (by rw [hstate])
  | taskStarts hcalls => exact h.leave hcalls rfl (by decide) (stopping_startFilter ..)

/-- A call waits for the threads of a filter that is stopping. -/
theorem Apart.stopping_of_joins {last : Bool} (h : s.Apart)
    (hcalls : s.calls = .stopJoins last ::ₘ rest) : s.filter.filterState = .stopping := by
  have hjoins := h.joins
  rw [hcalls, Multiset.countP_cons_of_pos _ ⟨last, rfl⟩] at hjoins
  split at hjoins
  next hstopping => exact hstopping
  next => cases hjoins

theorem Apart.init (h : system.init s) : s.Apart := by
  cases h
  exact ⟨nofun, rfl⟩

/-! ## The filter stays stopped -/

/-- A filter whose start failed is not used again. -/
theorem starting_of_step (h : s.Apart) (hstep : Step s e r)
    (hstarting : s.filter.filterState = .starting) : r.filter.filterState = .starting := by
  cases hstep with
  | start | stop | startAcquires | stopAcquires | taskAcquires | startRegisters | stopCancels
  | stopLeaves => exact hstarting
  | @notification best bound hregistered =>
    obtain ⟨latest, heq | heq⟩ := callback_eq best bound s <;> rw [heq] <;> exact hstarting
  | startUpdates hcalls hupdate => exact (update_eq hupdate).1.trans hstarting
  | taskUpdates hcalls hupdate => exact (update_eq hupdate).1.trans hstarting
  | startStarts | taskStarts => simp [PacketFilter.startFilter, hstarting]
  | stopStops => simp [PacketFilter.beginStop, hstarting]
  | taskStops => simp [PacketFilter.stopFilter, hstarting]
  | stopJoins hcalls =>
    rw [h.stopping_of_joins hcalls] at hstarting
    cases hstarting

/-- Once the last `stop` has stopped the filter, nothing that is in progress starts it. -/
def Final (s : RouterControl) : Prop :=
  s.filter.filterState ≠ .starting → s.isActive = false → s.calls.countP Call.WillStop = 0 →
    s.filter.filterState ≠ .running ∧ s.calls.countP Call.StartsLater = 0 ∧
      s.calls.countP Call.Exclusive = 0

/-- A call moves on, and starts nothing. -/
theorem Final.move (h : s.Final) (hstarting : s.filter.filterState ≠ .starting)
    (hcalls : s.calls = c ::ₘ rest) (hr : r.calls = d ::ₘ rest) (hactive : r.isActive = s.isActive)
    (hstop : d.WillStop ↔ c.WillStop) (hlater : d.StartsLater ↔ c.StartsLater)
    (hexclusive : d.Exclusive ↔ c.Exclusive)
    (hstate : s.filter.filterState ≠ .running → r.filter.filterState ≠ .running) : r.Final := by
  intro _ hinactive hnone
  rw [hactive] at hinactive
  have hbefore := h hstarting hinactive (by
    rw [hr] at hnone
    rw [hcalls]
    simpa only [Multiset.countP_cons, hstop] using hnone)
  rw [hcalls] at hbefore
  rw [hr]
  simp only [Multiset.countP_cons, hlater, hexclusive] at hbefore ⊢
  exact ⟨hstate hbefore.1, hbefore.2⟩

/-- A call that may start the filter is not in progress once the filter stays stopped. -/
theorem Final.of_starter (h : s.Final) (hstarting : s.filter.filterState ≠ .starting)
    (hcalls : s.calls = c ::ₘ rest) (hactive : r.isActive = s.isActive)
    (hc : ¬ c.WillStop) (hmay : c.StartsLater ∨ c.Exclusive)
    (hrest : r.calls.countP Call.WillStop = 0 → rest.countP Call.WillStop = 0) : r.Final := by
  intro _ hinactive hnone
  rw [hactive] at hinactive
  have hbefore := h hstarting hinactive (by
    rw [hcalls, Multiset.countP_cons_of_neg _ hc]
    exact hrest hnone)
  rw [hcalls] at hbefore
  rcases hmay with hmay | hmay
  · rw [Multiset.countP_cons_of_pos _ hmay] at hbefore
    cases hbefore.2.1
  · rw [Multiset.countP_cons_of_pos (s := rest) hmay] at hbefore
    cases hbefore.2.2

/-- A call begins. -/
theorem Final.call (h : s.Final) (hcalls : r.calls = c ::ₘ s.calls)
    (hactive : r.isActive = s.isActive) (hfilter : r.filter = s.filter) (hlater : ¬ c.StartsLater)
    (hexclusive : ¬ c.Exclusive) : r.Final := by
  intro hstarting hinactive hnone
  rw [hfilter] at hstarting ⊢
  rw [hactive] at hinactive
  rw [hcalls, Multiset.countP_cons] at hnone
  rw [hcalls, Multiset.countP_cons_of_neg _ hlater, Multiset.countP_cons_of_neg _ hexclusive]
  exact h hstarting hinactive (Nat.eq_zero_of_add_eq_zero_right hnone)

/-- A call ends, and started nothing. -/
theorem Final.leave (h : s.Final) (hcalls : s.calls = c ::ₘ rest) (hr : r.calls = rest)
    (hactive : r.isActive = s.isActive) (hfilter : r.filter = s.filter) (hstop : ¬ c.WillStop) :
    r.Final := by
  intro hstarting hinactive hnone
  rw [hfilter] at hstarting ⊢
  rw [hactive] at hinactive
  have hbefore := h hstarting hinactive (by
    rw [hcalls, Multiset.countP_cons_of_neg _ hstop, ← hr]
    exact hnone)
  rw [hcalls] at hbefore
  simp only [Multiset.countP_cons] at hbefore
  rw [hr]
  exact ⟨hbefore.1, Nat.eq_zero_of_add_eq_zero_right hbefore.2.1,
    Nat.eq_zero_of_add_eq_zero_right hbefore.2.2⟩

/-- A step in order starts nothing after the last `stop`. -/
theorem Final.step (h : s.Final) (hapart : s.Apart) (horder : s.InOrder e)
    (hstep : Step s e r) : r.Final := by
  by_cases hstarting : s.filter.filterState = .starting
  · exact fun hnot => absurd (starting_of_step hapart hstep hstarting) hnot
  cases hstep with
  | start hinactive => exact fun _ => nofun
  | stop hactive =>
    intro _ _ hnone
    rw [Multiset.countP_cons_of_pos _ (by decide)] at hnone
    cases hnone
  | @notification best bound hregistered =>
    obtain ⟨latest, heq | heq⟩ := callback_eq best bound s
    · rw [heq]
      exact h
    · rw [heq]
      exact h.call rfl rfl rfl (by decide) (by decide)
  | @startAcquires rest hcalls hfree =>
    exact h.of_starter hstarting hcalls rfl (by decide) (.inl (by decide)) fun hnone =>
      (Multiset.countP_cons_of_neg rest (by decide)).symm.trans hnone
  | @stopAcquires rest last hcalls hfree =>
    exact h.move hstarting hcalls rfl rfl (by cases last <;> decide) (by cases last <;> decide)
      (by cases last <;> decide) id
  | @taskAcquires rest hcalls hfree =>
    intro _ hinactive hnone
    have hpos := horder hstarting hinactive
    rw [hcalls, Multiset.countP_cons_of_neg _ (by decide)] at hpos
    rw [Multiset.countP_cons_of_neg _ (by decide)] at hnone
    exact absurd hpos (by rw [hnone]; exact Nat.lt_irrefl 0)
  | @startUpdates rest best bound updated s' hcalls hupdate =>
    refine h.of_starter hstarting hcalls (update_eq hupdate).2.1 (by decide) (.inl (by decide)) ?_
    intro hnone
    rw [Multiset.countP_cons] at hnone
    exact Nat.eq_zero_of_add_eq_zero_right hnone
  | @startStarts rest initialized hcalls =>
    exact h.of_starter hstarting hcalls rfl (by decide) (.inl (by decide)) fun hnone =>
      (Multiset.countP_cons_of_neg rest (by decide)).symm.trans hnone
  | startRegisters hcalls => exact h.leave hcalls rfl rfl rfl (by decide)
  | @stopCancels rest last _ hcalls =>
    exact h.move hstarting hcalls rfl rfl (by cases last <;> decide) (by cases last <;> decide)
      (by cases last <;> decide) id
  | @stopStops rest last hcalls =>
    have hstate : s.filter.filterState ≠ .running →
        s.filter.beginStop.filterState ≠ .running := fun hnot => by
      rw [PacketFilter.beginStop, if_neg hnot]
      exact hnot
    cases last with
    | false =>
      -- an earlier `stop`, after which `start` was called
      exact h.move hstarting hcalls rfl rfl (by split <;> decide) (by split <;> decide)
        (by split <;> decide) hstate
    | true =>
      intro _ hinactive hnone
      have hlater : s.calls.countP Call.StartsLater = 0 := horder hstarting hinactive
      rw [hcalls, Multiset.countP_cons_of_neg _ (by decide)] at hlater
      have hexclusive := hapart.exclusive_eq_zero hcalls (by decide) (by decide)
      refine ⟨?_, ?_, ?_⟩
      · show s.filter.beginStop.filterState ≠ .running
        by_cases hrunning : s.filter.filterState = .running
        · rw [PacketFilter.beginStop, if_pos hrunning]
          exact nofun
        · exact hstate hrunning
      · rw [Multiset.countP_cons, hlater]
        split <;> decide
      · rw [Multiset.countP_cons, hexclusive]
        split <;> decide
  | @stopJoins rest last hcalls =>
    exact h.move hstarting hcalls rfl rfl (by cases last <;> decide) (by cases last <;> decide)
      (by cases last <;> decide) fun _ => nofun
  | @stopLeaves rest last hcalls => exact h.leave hcalls rfl rfl rfl (by cases last <;> decide)
  | @taskStops rest hcalls =>
    exact h.of_starter hstarting hcalls rfl (by decide) (.inr (by decide)) fun hnone =>
      (Multiset.countP_cons_of_neg rest (by decide)).symm.trans hnone
  | @taskUpdates rest best bound updated s' hcalls hupdate =>
    refine h.of_starter hstarting hcalls (update_eq hupdate).2.1 (by decide) (.inr (by decide)) ?_
    intro hnone
    cases updated with
    | true => exact (Multiset.countP_cons_of_neg rest (by decide)).symm.trans hnone
    | false => exact hnone
  | @taskStarts rest initialized hcalls =>
    exact h.of_starter hstarting hcalls rfl (by decide) (.inr (by decide)) id

/-- The `stop` that made the router inactive has stopped the filter when it has returned. -/
theorem Stopped.willStop (h : s.Stopped) : s.calls.countP Call.WillStop = 0 := by
  refine Multiset.countP_eq_zero.mpr fun c hc hwill => Multiset.countP_eq_zero.mp h.2 c hc ?_
  rcases hwill with hc | hc | hc
  · exact .inl hc
  · exact .inr (.inl hc)
  · exact .inr (.inr (.inl hc))

/-- In a run whose calls come in order, the filter is not running once the `stop` that made the
router inactive has returned, until the next `start`. -/
theorem not_running_of_stopped (h : (system.restrict InOrder).Reachable s) (hstopped : s.Stopped) :
    s.filter.filterState ≠ .running := by
  have hboth : s.Apart ∧ s.Final := by
    refine h.restrict_invariant (I := fun s => s.Apart ∧ s.Final) ?_ ?_
    · rintro s rfl
      exact ⟨Apart.init rfl, fun _ _ _ => ⟨nofun, rfl, rfl⟩⟩
    · intro s e r hs horder hstep
      exact ⟨hs.1.step hstep, hs.2.step hs.1 horder hstep⟩
  intro hrunning
  exact (hboth.2 (by rw [hrunning]; exact nofun) hstopped.1 hstopped.willStop).1 hrunning

/-! ## A task that comes late -/

/-- The last call of `stop` has the lock when it is not yet to stop the filter. -/
theorem willStop_or_shared (h : c.IsLastStop) : c.WillStop ∨ c.Shared := by
  rcases h with rfl | rfl | rfl | rfl | rfl <;> decide

/-- An adapter that every interface matches. -/
def anyAdapter : NetworkAdapterInfo := ⟨0, 0, "", []⟩

/-- After every task that is given the lock out of order, the filter can be running although the
`stop` that made the router inactive has returned. -/
theorem late_task_starts (h : system.Reachable s) (hstep : Step s (.acquire .taskRequests) r)
    (hlate : ¬ s.InOrder (.acquire .taskRequests)) :
    ∃ q, system.Steps r q ∧ q.Stopped ∧ q.filter.filterState = .running := by
  have hapart : s.Apart := h.invariant (I := Apart) (fun _ hinit => Apart.init hinit)
    fun _ _ _ hs hstep => hs.step hstep
  obtain ⟨hstarting, hinactive, hnone⟩ : s.filter.filterState ≠ .starting ∧ s.isActive = false ∧
      s.calls.countP Call.WillStop = 0 := by
    simpa [InOrder] using hlate
  cases hstep with
  | @taskAcquires rest hcalls hfree =>
    have hstops : rest.countP Call.IsLastStop = 0 := by
      refine Multiset.countP_eq_zero.mpr fun c hc hstop => ?_
      rcases willStop_or_shared hstop with hwill | hshared
      · have hmem : c ∈ s.calls := hcalls ▸ Multiset.mem_cons_of_mem hc
        exact Multiset.countP_eq_zero.mp hnone c hmem hwill
      · exact (hfree c hc).2 hshared
    have hjoins : s.filter.filterState ≠ .stopping := by
      intro hstopping
      have hcount := hapart.joins
      rw [hcalls, hstopping, Multiset.countP_cons_of_neg _ (by decide)] at hcount
      rw [if_pos rfl] at hcount
      obtain ⟨_, hmem, last, rfl⟩ := Multiset.countP_pos.mp (hcount ▸ Nat.one_pos)
      exact (hfree _ hmem).2 (by cases last <;> decide)
    have hstopped : s.filter.stopFilter.filterState = .stopped := by
      unfold PacketFilter.stopFilter
      split
      next => rfl
      next hrunning =>
        cases hstate : s.filter.filterState with
        | stopped => rfl
        | starting => exact absurd hstate hstarting
        | running => exact absurd hstate hrunning
        | stopping => exact absurd hstate hjoins
    have hreconfigured : (s.filter.stopFilter.reconfigure [⟨"", none⟩]) =
        { s.filter.stopFilter with networkInterfaces := [⟨"", none⟩] } := if_pos hstopped
    have hfirst := (System.Steps.refl { s with calls := .taskStops ::ₘ rest }).snoc (M := system)
      (.taskStops rfl)
    have hupdate : ({ s with
        filter := s.filter.stopFilter
        calls := .taskUpdates ::ₘ rest } : RouterControl).updateNetworkConfiguration
        (some anyAdapter) [⟨"", none⟩] =
        (true, { s with
          filter := { s.filter.stopFilter with networkInterfaces := [⟨"", none⟩] }
          defaultAdapter := some anyAdapter
          ifIndex := 0
          found := some ""
          calls := .taskUpdates ::ₘ rest }) := by
      unfold updateNetworkConfiguration
      rw [hreconfigured]
      rfl
    have hsecond := hfirst.snoc (M := system) (.taskUpdates rfl hupdate)
    have hthird := hsecond.snoc (M := system) (@Step.taskStarts _ rest true rfl)
    refine ⟨_, hthird, ⟨hinactive, hstops⟩, ?_⟩
    unfold PacketFilter.startFilter
    rw [if_pos hstopped]
    rfl

/-! ## A run -/

namespace StopRun

/-- The router is started, and its filter is running. -/
def started : RouterControl where
  isActive := true
  defaultAdapter := some anyAdapter
  filter := ⟨.running, [⟨"", none⟩], 0⟩
  registered := true
  found := some ""

/-- Another adapter is reported. -/
def notified : RouterControl :=
  { started with
    calls := {.taskRequests}
    latest := some (⟨1, 0, "", []⟩, some "") }

/-- The router after `stop` has returned. -/
def stopped (s : RouterControl) : RouterControl :=
  { s with
    isActive := false
    registered := false
    filter := { s.filter with filterState := .stopped } }

/-- The router while `start` is in progress. -/
def starting (c : Call) : RouterControl where
  isActive := true
  calls := {c}

/-- `start` has found an interface. -/
def updated : RouterControl :=
  { starting .startStarts with
    defaultAdapter := some anyAdapter
    filter := { networkInterfaces := [⟨"", none⟩] }
    found := some "" }

/-- `start` has started the filter. -/
def filtering : RouterControl :=
  { updated with
    filter := ⟨.running, [⟨"", none⟩], 0⟩
    calls := {.startRegisters} }

theorem started_reachable : (system.restrict InOrder).Reachable started := by
  have hinit : (system.restrict InOrder).Reachable {} := .init rfl
  have hstart : (system.restrict InOrder).Reachable (starting .startRequests) :=
    hinit.restrict_snoc (M := system) (.start rfl) fun _ _ => trivial
  have hacquire : (system.restrict InOrder).Reachable (starting .startUpdates) :=
    hstart.restrict_snoc (M := system)
      (@Step.startAcquires _ 0 rfl fun _ hc => absurd hc (Multiset.notMem_zero _))
      fun _ _ => trivial
  have hstep : Step (starting .startUpdates) (.update (some anyAdapter) [⟨"", none⟩]) updated :=
    @Step.startUpdates (starting .startUpdates) 0 (some anyAdapter) [⟨"", none⟩] true
      { updated with calls := {.startUpdates} } rfl rfl
  have hupdate : (system.restrict InOrder).Reachable updated :=
    hacquire.restrict_snoc (M := system) hstep fun _ _ => trivial
  have hfilter : (system.restrict InOrder).Reachable filtering :=
    hupdate.restrict_snoc (M := system) (@Step.startStarts _ 0 true rfl) fun _ _ => trivial
  exact hfilter.restrict_snoc (M := system) (@Step.startRegisters _ 0 true rfl) fun _ _ => trivial

theorem notified_reachable : (system.restrict InOrder).Reachable notified :=
  started_reachable.restrict_snoc (M := system)
    (@Step.notification _ (some ⟨1, 0, "", []⟩) [⟨"", none⟩] rfl) fun _ _ => trivial

/-- An active router is stopped, whatever tasks wait for the lock. -/
theorem stopped_reachable (h : (system.restrict InOrder).Reachable s) (hactive : s.isActive = true)
    (hrunning : s.filter.filterState = .running) (hfree : ∀ c ∈ s.calls, ¬ c.Exclusive)
    (hlater : s.calls.countP Call.StartsLater = 0) :
    (system.restrict InOrder).Reachable (stopped s) := by
  have hstop := h.restrict_snoc (M := system) (.stop hactive) fun _ _ => trivial
  have hacquire := hstop.restrict_snoc (M := system) (.stopAcquires rfl hfree) fun _ _ => trivial
  have hcancel := hacquire.restrict_snoc (M := system) (@Step.stopCancels _ s.calls true true rfl)
    fun _ _ => trivial
  have hstops := hcancel.restrict_snoc (M := system) (@Step.stopStops _ s.calls true rfl)
    fun _ _ => (Multiset.countP_cons_of_neg _ (by decide)).trans hlater
  have hpc : (if s.filter.filterState = .running then Call.stopJoins true
      else .stopLeaves true) = .stopJoins true := if_pos hrunning
  have hbegun : s.filter.beginStop = { s.filter with filterState := .stopping } := if_pos hrunning
  simp only [hpc, hbegun, Bool.not_true, Bool.and_false] at hstops
  have hjoin := hstops.restrict_snoc (M := system) (.stopJoins rfl) fun _ _ => trivial
  exact hjoin.restrict_snoc (M := system) (.stopLeaves rfl) fun _ _ => trivial

/-- `start` was called again while an earlier `stop` asks for the lock, and is at an action. -/
def overlapping (c : Call) : RouterControl :=
  { started with calls := c ::ₘ {.stopRequests false} }

/-- That `start` has returned. -/
def overlapped : RouterControl :=
  { started with calls := {.stopRequests false} }

theorem overlapped_reachable : (system.restrict InOrder).Reachable overlapped := by
  have hfree : ∀ c ∈ ({.stopRequests false} : Multiset Call), ¬ c.Exclusive := fun c hc => by
    rw [Multiset.mem_singleton.mp hc]
    decide
  have hstop := started_reachable.restrict_snoc (M := system) (.stop rfl) fun _ _ => trivial
  have hstart : (system.restrict InOrder).Reachable (overlapping .startRequests) :=
    hstop.restrict_snoc (M := system) (.start rfl) fun _ _ => trivial
  have hacquire : (system.restrict InOrder).Reachable (overlapping .startUpdates) :=
    hstart.restrict_snoc (M := system) (.startAcquires rfl hfree) fun _ _ => trivial
  have hstep : Step (overlapping .startUpdates) (.update (some anyAdapter) [⟨"", none⟩])
      (overlapping .startStarts) :=
    @Step.startUpdates (overlapping .startUpdates) {Call.stopRequests false} (some anyAdapter)
      [⟨"", none⟩] true (overlapping .startUpdates) rfl rfl
  have hupdate := hacquire.restrict_snoc (M := system) hstep fun _ _ => trivial
  have hfilter : (system.restrict InOrder).Reachable (overlapping .startRegisters) :=
    hupdate.restrict_snoc (M := system) (@Step.startStarts _ {Call.stopRequests false} true rfl)
      fun _ _ => trivial
  exact hfilter.restrict_snoc (M := system)
    (@Step.startRegisters _ {Call.stopRequests false} true rfl) fun _ _ => trivial

theorem stopped_overlapped : (system.restrict InOrder).Reachable (stopped overlapped) := by
  refine stopped_reachable overlapped_reachable rfl rfl (fun c hc => ?_) rfl
  rw [Multiset.mem_singleton.mp hc]
  decide

theorem stopped_notified : (system.restrict InOrder).Reachable (stopped notified) := by
  refine stopped_reachable notified_reachable rfl rfl (fun c hc => ?_) rfl
  rw [Multiset.mem_singleton.mp hc]
  decide

end StopRun

open StopRun in
/-- The router was stopped while an earlier `stop` still asks for the lock. -/
theorem not_running_of_stopped_overlapped : .stopRequests false ∈ (stopped overlapped).calls ∧
    (stopped overlapped).filter.filterState ≠ .running :=
  ⟨Multiset.mem_singleton_self _, not_running_of_stopped stopped_overlapped ⟨rfl, rfl⟩⟩

open StopRun in
/-- The task that an earlier notification started is given the lock after `stop` has returned. -/
theorem filter_runs_after_stop :
    ¬ ∀ s, system.Reachable s → s.Stopped → s.filter.filterState ≠ .running := by
  intro hclaim
  have hstep : Step (stopped notified) (.acquire .taskRequests) _ :=
    .taskAcquires rfl fun _ hc => absurd hc (Multiset.notMem_zero _)
  have hlate : ¬ (stopped notified).InOrder (.acquire .taskRequests) := by
    intro horder
    exact absurd (horder nofun rfl) (by decide)
  obtain ⟨q, hsteps, hq, hrunning⟩ := late_task_starts stopped_notified.of_restrict hstep hlate
  obtain ⟨s₀, hinit, hrun⟩ := stopped_notified.of_restrict.snoc (M := system) hstep
  exact hclaim q ⟨s₀, hinit, hrun.trans hsteps⟩ hq hrunning

end RouterControl

end CutieProxy
