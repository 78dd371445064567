import CutieProxy.Ndisapi.PacketPipeline

/-!
# Stopping the packet filter

`release_filter` notifies each queue once and then joins the threads. It holds no mutex of the
queues, so a thread whose predicate was still false can go to sleep after the notification that was
meant for it. `no_hang` says when no thread does, in runs whose notifications each come while the
queue's thread is not between its predicate and its sleep (`Timely`), and `untimely_hangs` that any
other notification can leave `stop_filter` in a join for good.
-/

namespace CutieProxy

open Transition

universe u

variable {β : Type u}

/-- How many queues `release_filter` has notified. -/
def StopPc.notified : StopPc → Nat
  | .idle | .signals => 0
  | .notifies k => k.rank
  | .joins _ | .clears => 4

/-- The thread neither sleeps nor is about to. -/
def WorkerPc.Awake : WorkerPc β → Prop
  | .checked | .asleep => False
  | _ => True

namespace QueuedPacketFilter

variable [Inhabited β] {f : PacketFunctions β} {s r : QueuedPacketFilter β} {e : FilterEvent β}
  {k : Stage} {w : WorkerPc β}

/-- `stop_filter` waits in a join while a worker thread sleeps. -/
def Hangs (s : QueuedPacketFilter β) : Prop :=
  (∃ k, s.stopPc = .joins k) ∧ ∃ k, s.worker k = .asleep

/-- A notification comes only while the queue's thread is not between its predicate and its
sleep. -/
def Timely (s : QueuedPacketFilter β) : FilterEvent β → Prop
  | .notifyAll k => s.worker k ≠ .checked
  | _ => True

/-- The threads that were notified neither sleep nor are about to. -/
structure Roused (s : QueuedPacketFilter β) : Prop where
  stopping : s.stopPc ≠ .idle → s.filterState = .stopping
  awake : ∀ k, k.rank < s.stopPc.notified → (s.worker k).Awake

omit [Inhabited β] in
/-- A thread that neither goes to sleep nor prepares to. -/
theorem Roused.setWorker (h : s.Roused) (hpc : w.Awake) : (s.setWorker k w).Roused := by
  refine ⟨h.stopping, fun l hl => ?_⟩
  by_cases heq : l = k
  · subst heq
    simpa [QueuedPacketFilter.setWorker] using hpc
  · simpa [QueuedPacketFilter.setWorker, heq] using h.awake l hl

omit [Inhabited β] in
/-- Nothing was notified yet. -/
theorem Roused.of_notified (hstate : s.stopPc ≠ .idle → s.filterState = .stopping)
    (hnone : s.stopPc.notified = 0) : s.Roused :=
  ⟨hstate, fun k hk => absurd hk (by rw [hnone]; exact Nat.not_lt_zero _)⟩

omit [Inhabited β] in
/-- The queues are released only while the filter stops. -/
theorem Roused.idle (h : s.Roused) (hne : s.filterState ≠ .stopping) : s.stopPc = .idle :=
  Classical.byContradiction fun hpc => hne (h.stopping hpc)

omit [Inhabited β] in
theorem Roused.notify (h : s.Roused) : (s.notify k).Roused := by
  unfold QueuedPacketFilter.notify
  split
  · exact h.setWorker trivial
  · exact h

omit [Inhabited β] in
/-- A notification wakes its thread. -/
theorem awake_notify (hchecked : s.worker k ≠ .checked) : ((s.notify k).worker k).Awake := by
  cases hpc : s.worker k with
  | checked => exact absurd hpc hchecked
  | asleep => simp [QueuedPacketFilter.notify, hpc, QueuedPacketFilter.setWorker, WorkerPc.Awake]
  | _ => simp [QueuedPacketFilter.notify, hpc, WorkerPc.Awake]

/-- The queues that were notified once one more is. -/
theorem notified_afterNotify (k : Stage) : (StopPc.afterNotify k).notified = k.rank + 1 := by
  cases k <;> rfl

theorem notified_afterJoin (k : Stage) : (StopPc.afterJoin k).notified = 4 := by
  cases k <;> rfl

/-- A timely step lets no thread sleep that was notified. -/
theorem Roused.step (h : s.Roused) (htimely : s.Timely e) (hstep : Step f s e r) : r.Roused := by
  cases hstep with
  | startFilter hstopped =>
    have hidle : s.stopPc = .idle := h.idle (by simp [hstopped])
    refine Roused.of_notified (fun hne => absurd hidle hne) ?_
    rw [show s.started.stopPc = .idle from hidle]
    rfl
  | startFails failure hstopped =>
    have hidle : s.stopPc = .idle := h.idle (by simp [hstopped])
    refine ⟨fun hne => ?_, ?_⟩
    · rw [stopPc_initFilter] at hne
      exact absurd hidle hne
    · rw [stopPc_initFilter, worker_initFilter]
      exact h.awake
  | stopFilter hrun => exact Roused.of_notified (fun _ => rfl) rfl
  | signal hpc => exact Roused.of_notified (fun _ => h.stopping (by simp [hpc])) rfl
  | @notifyAll k hpc =>
    have hnotified := h.notify (k := k)
    have hstate : (s.notify k).filterState = .stopping :=
      hnotified.stopping (by simp [stopPc_notify, hpc])
    refine ⟨fun _ => hstate, fun l hl => ?_⟩
    rw [notified_afterNotify] at hl
    rcases Nat.lt_succ_iff_lt_or_eq.mp hl with hlt | heq
    · refine hnotified.awake l ?_
      rw [stopPc_notify, hpc]
      exact hlt
    · rw [rank_injective heq]
      exact awake_notify htimely
  | @join k hpc hexited =>
    refine ⟨fun _ => h.stopping (by simp [hpc]), fun l hl => h.awake l ?_⟩
    rw [notified_afterJoin] at hl
    rw [hpc]
    exact hl
  | clear hpc => exact Roused.of_notified (fun hne => absurd rfl hne) rfl
  | driverSignals => exact ⟨h.stopping, h.awake⟩
  | wakes | loop | leave | quit => exact h.setWorker trivial
  | @take k b q hpc hqueue hrun =>
    have hrest : (s.setQueue k q).Roused := ⟨h.stopping, h.awake⟩
    exact hrest.setWorker trivial
  | check hpc hqueue hrun =>
    have hidle : s.stopPc = .idle := h.idle (by simp [hrun])
    refine Roused.of_notified h.stopping ?_
    rw [show (s.setWorker _ _).stopPc = s.stopPc from rfl, hidle]
    rfl
  | @sleep k hpc =>
    refine ⟨h.stopping, fun l hl => ?_⟩
    have hawake := h.awake l hl
    by_cases heq : l = k
    · subst heq
      rw [hpc] at hawake
      exact hawake.elim
    · simpa [QueuedPacketFilter.setWorker, heq] using hawake
  | @awaitEvent b hpc hevent =>
    have hset := h.setWorker (k := .read) (w := .reads b) trivial
    exact ⟨hset.stopping, hset.awake⟩
  | @readPackets b batch hpc hlength =>
    have hset := h.setWorker (k := .read) (w := .pushes (b.readPackets batch)) trivial
    exact ⟨hset.stopping, hset.awake⟩
  | readFails hpc =>
    split
    · exact h.setWorker trivial
    · exact h.setWorker trivial
  | @process b hpc =>
    have hset := h.setWorker (k := .process)
      (w := .pushes (b.processPackets f s.packetsProcessed)) trivial
    exact ⟨hset.stopping, hset.awake⟩
  | @writeMstcp b hpc =>
    have hsent : (s.send .mstcp b).Roused := ⟨h.stopping, h.awake⟩
    exact hsent.setWorker trivial
  | @writeAdapter b hpc =>
    have hsent : (s.send .adapter b).Roused := ⟨h.stopping, h.awake⟩
    exact hsent.setWorker trivial
  | @push k b hpc hchecked =>
    have hqueue : (s.setQueue k.next (s.queue k.next ++ [b])).Roused := ⟨h.stopping, h.awake⟩
    exact hqueue.notify.setWorker trivial

/-- In a run whose notifications are timely, no worker thread sleeps while `stop_filter` waits in a
join. -/
theorem no_hang (h : ((system f).restrict Timely).Reachable s) : ¬ s.Hangs := by
  have hroused : s.Roused := by
    refine h.restrict_invariant (I := Roused) ?_ fun _ _ _ hs htimely hstep =>
      hs.step htimely hstep
    rintro s rfl
    exact Roused.of_notified (fun hne => absurd rfl hne) rfl
  rintro ⟨⟨l, hjoins⟩, k, hasleep⟩
  have hawake : (s.worker k).Awake := by
    refine hroused.awake k ?_
    rw [hjoins]
    show k.rank < 4
    cases k <;> decide
  rw [hasleep] at hawake
  exact hawake

/-! ## Untimely notifications -/

variable (f) in
/-- `release_filter` goes on to its joins, and a thread that sleeps and was notified before sleeps
on. -/
theorem hangs_of_notified (hasleep : s.worker k = .asleep) (hlt : k.rank < s.stopPc.notified)
    (hpc : (∃ l, s.stopPc = .notifies l) ∨ s.stopPc = .joins .read) :
    ∃ q, (system f).Steps s q ∧ q.Hangs := by
  have hnext : ∀ (s : QueuedPacketFilter β) (l : Stage), s.worker k = .asleep →
      s.stopPc = .notifies l → k.rank < l.rank →
      ∃ q, (system f).Steps s q ∧ q.worker k = .asleep ∧ q.stopPc = StopPc.afterNotify l := by
    intro s l hasleep hpc hlt
    refine ⟨_, (System.Steps.refl s).snoc (M := system f) (.notifyAll hpc), ?_, rfl⟩
    show (s.notify l).worker k = .asleep
    have hne : k ≠ l := by
      rintro rfl
      exact Nat.lt_irrefl _ hlt
    rw [worker_notify_of_ne hne]
    exact hasleep
  have hlast : ∀ s : QueuedPacketFilter β, s.worker k = .asleep →
      s.stopPc = .notifies .writeAdapter → k.rank < 3 →
      ∃ q, (system f).Steps s q ∧ q.Hangs := by
    intro s hasleep hpc hlt
    obtain ⟨q, hsteps, hq, hjoins⟩ := hnext s .writeAdapter hasleep hpc hlt
    exact ⟨q, hsteps, ⟨_, hjoins⟩, k, hq⟩
  have hthird : ∀ s : QueuedPacketFilter β, s.worker k = .asleep →
      s.stopPc = .notifies .writeMstcp → k.rank < 2 →
      ∃ q, (system f).Steps s q ∧ q.Hangs := by
    intro s hasleep hpc hlt
    obtain ⟨q, hsteps, hq, hafter⟩ := hnext s .writeMstcp hasleep hpc hlt
    obtain ⟨q', hsteps', hhangs⟩ := hlast q hq hafter (Nat.lt_succ_of_lt hlt)
    exact ⟨q', hsteps.trans hsteps', hhangs⟩
  rcases hpc with ⟨l, hpc⟩ | hpc
  · rw [hpc] at hlt
    cases l with
    | read => cases hlt
    | process =>
      obtain ⟨q, hsteps, hq, hafter⟩ := hnext s .process hasleep hpc hlt
      obtain ⟨q', hsteps', hhangs⟩ := hthird q hq hafter (Nat.lt_succ_of_lt hlt)
      exact ⟨q', hsteps.trans hsteps', hhangs⟩
    | writeMstcp => exact hthird s hasleep hpc hlt
    | writeAdapter => exact hlast s hasleep hpc hlt
  · exact ⟨s, System.Steps.refl s, ⟨_, hpc⟩, k, hasleep⟩

/-- After every untimely notification `stop_filter` can come to wait in a join while the thread
sleeps. -/
theorem untimely_hangs (hstep : Step f s e r) (huntimely : ¬ s.Timely e) :
    ∃ q, (system f).Steps r q ∧ q.Hangs := by
  cases hstep with
  | @notifyAll k hpc =>
    have hchecked : s.worker k = .checked := Classical.byContradiction huntimely
    have hsame : s.notify k = s := by
      unfold QueuedPacketFilter.notify
      rw [hchecked]
    rw [hsame]
    have hsleep := (System.Steps.refl { s with stopPc := StopPc.afterNotify k }).snoc
      (M := system f) (.sleep hchecked)
    obtain ⟨q, hsteps, hhangs⟩ := hangs_of_notified f
      (s := { s with stopPc := StopPc.afterNotify k }.setWorker k .asleep) (k := k)
      (Function.update_self ..)
      (by
        show k.rank < (StopPc.afterNotify k).notified
        rw [notified_afterNotify]
        exact Nat.lt_succ_self _)
      (by cases k with
        | writeAdapter => exact .inr rfl
        | _ => exact .inl ⟨_, rfl⟩)
    exact ⟨q, hsleep.trans hsteps, hhangs⟩
  | _ => exact absurd trivial huntimely

/-! ## A run -/

namespace StopRun

/-- The process thread has found its queue empty, while the filter is running. -/
def found : QueuedPacketFilter Unit :=
  (fresh.setWorker .process .enters).setWorker .process .checked

/-- `stop_filter` is about to notify the process thread. -/
def notifying (s : QueuedPacketFilter Unit) : QueuedPacketFilter Unit :=
  { s with
    filterState := .stopping
    packetEvent := true
    stopPc := .notifies .process }

theorem fresh_reachable : ((system {}).restrict Timely).Reachable fresh :=
  (System.Reachable.init rfl).restrict_snoc (M := system {}) (.startFilter rfl) trivial

theorem found_reachable : ((system {}).restrict Timely).Reachable found := by
  have henters := fresh_reachable.restrict_snoc (M := system {}) (.loop (k := .process) rfl rfl)
    trivial
  exact henters.restrict_snoc (M := system {}) (.check (.inl rfl) rfl rfl) trivial

/-- A filter that is running comes to be stopped. -/
theorem notifying_reachable {s : QueuedPacketFilter Unit}
    (h : ((system {}).restrict Timely).Reachable s) (hrun : s.filterState = .running)
    (hread : s.worker .read = .top) : ((system {}).restrict Timely).Reachable (notifying s) := by
  have hstopped := h.restrict_snoc (M := system {}) (.stopFilter hrun) trivial
  have hsignalled := hstopped.restrict_snoc (M := system {}) (.signal rfl) trivial
  have htimely : s.worker .read ≠ .checked := by
    rw [hread]
    exact nofun
  have hnotified := hsignalled.restrict_snoc (M := system {}) (.notifyAll rfl) htimely
  have hsame : QueuedPacketFilter.notify
      { s with filterState := .stopping, packetEvent := true, stopPc := .notifies .read } .read =
      { s with filterState := .stopping, packetEvent := true, stopPc := .notifies .read } := by
    unfold QueuedPacketFilter.notify
    rw [show QueuedPacketFilter.worker _ .read = s.worker .read from rfl, hread]
  rw [hsame] at hnotified
  exact hnotified

end StopRun

open StopRun in
/-- The process thread goes to sleep before it is notified, and `stop_filter` waits in its first
join. -/
theorem no_hang_woken : ∃ s : QueuedPacketFilter Unit,
    ((system {}).restrict Timely).Reachable s ∧ s.worker .process = .woken ∧
      s.stopPc = .joins .read ∧ ¬ s.Hangs := by
  have hslept := found_reachable.restrict_snoc (M := system {}) (.sleep (k := .process) rfl) trivial
  have hprocess := (notifying_reachable hslept rfl rfl).restrict_snoc (M := system {})
    (.notifyAll rfl) nofun
  have hmstcp := hprocess.restrict_snoc (M := system {}) (.notifyAll (k := .writeMstcp) rfl) nofun
  have hadapter := hmstcp.restrict_snoc (M := system {}) (.notifyAll (k := .writeAdapter) rfl) nofun
  exact ⟨_, hadapter, rfl, rfl, no_hang hadapter⟩

open StopRun in
/-- The process thread is notified between its predicate and its sleep. -/
theorem stop_filter_hangs : ¬ ∀ (f : PacketFunctions Unit) (s : QueuedPacketFilter Unit),
    (system f).Reachable s → ¬ s.Hangs := by
  intro hclaim
  have hreach := (notifying_reachable found_reachable rfl rfl).of_restrict
  have hstep : Step {} (notifying found) (.notifyAll .process) _ := .notifyAll rfl
  obtain ⟨q, hsteps, hhangs⟩ := untimely_hangs hstep fun htimely => htimely rfl
  obtain ⟨s₀, hinit, hrun⟩ := hreach.snoc (M := system {}) hstep
  exact hclaim {} q ⟨s₀, hinit, hrun.trans hsteps⟩ hhangs

end QueuedPacketFilter

end CutieProxy
