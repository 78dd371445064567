import CutieProxy.Lib.Variant
import CutieProxy.Winsys.IoCompletionPort
import Mathlib.Algebra.BigOperators.Group.Multiset.Basic

/-!
# Stopping the thread pool

`stop_thread_pool` clears `active_`, posts a completion for every thread that was ever started, and
joins the threads. A thread takes a completion, of any kind, before it sees that the pool is not
active, and completions of overlapped calls come in between. There is a completion for every thread
that waits nevertheless (`Servers.Posted`), so no thread is left behind but one whose callback does
not return, and each takes two steps at most (`Servers.stop_joins`). No callback starts any more.
-/

namespace CutieProxy

open Transition

/-- The steps a thread takes at most when the pool is not active. -/
def ThreadPc.rank : ThreadPc → Nat
  | .waiting => 2
  | .dequeued _ => 1
  | .calling _ => 2
  | .looping => 1

namespace Servers

variable {s t : Servers} {e : Event} {rest : Multiset ThreadPc} {pc : ThreadPc}

/-- The steps the threads take at most when the pool is not active. -/
def remaining (s : Servers) : Nat := (s.port.threads.map ThreadPc.rank).sum

/-- Is a step of a thread, or the return of its callback. -/
def Event.isThread : Event → Bool
  | .thread | .callReturns _ => true
  | _ => false

/-- The pool is not started again. -/
def NotStarted (_ : Servers) : Event → Prop
  | .startThreadPool _ => False
  | _ => True

/-- A stopped pool has a completion for every thread that waits for one. -/
structure Posted (s : Servers) : Prop where
  created : s.port.threads.card ≤ s.port.created
  posted : s.port.active = false → s.port.threads.count .waiting ≤ s.port.queue.length

theorem Posted.of_le (h : s.Posted) (hcreated : t.port.created = s.port.created)
    (hactive : t.port.active = s.port.active)
    (hcard : t.port.threads.card ≤ s.port.threads.card)
    (hwaiting : t.port.threads.count .waiting + s.port.queue.length ≤
      s.port.threads.count .waiting + t.port.queue.length) : t.Posted := by
  refine ⟨hcreated ▸ hcard.trans h.created, fun hinactive => ?_⟩
  have := h.posted (hactive ▸ hinactive)
  omega

/-- A thread that does not go to wait. -/
theorem Posted.moveThread (h : s.Posted) {pc' : ThreadPc} (hthreads : s.port.threads = pc ::ₘ rest)
    (hwaits : pc' ≠ .waiting) : (s.setThreads (pc' ::ₘ rest)).Posted := by
  refine h.of_le rfl rfl ?_ (Nat.add_le_add_right ?_ _)
  · rw [hthreads]
    exact Nat.le_of_eq ((Multiset.card_cons _ _).trans (Multiset.card_cons _ _).symm)
  · rw [hthreads]
    exact (Multiset.count_cons_of_ne hwaits.symm rest).trans_le (Multiset.count_le_count_cons ..)

/-- A thread that returns. -/
theorem Posted.endThread (h : s.Posted) (hthreads : s.port.threads = pc ::ₘ rest) :
    (s.setThreads rest).Posted := by
  refine h.of_le rfl rfl ?_ (Nat.add_le_add_right ?_ _)
  · rw [hthreads]
    exact Multiset.card_le_card (Multiset.le_cons_self rest pc)
  · rw [hthreads]
    exact Multiset.count_le_count_cons ..

theorem Posted.step (h : s.Posted) (hstep : Step s e t) : t.Posted := by
  cases hstep with
  | startThreadPool n hinactive =>
    refine ⟨?_, nofun⟩
    have hcreated := h.created
    simp only [Multiset.card_add, Multiset.card_replicate]
    omega
  | stopThreadPool hactive =>
    refine ⟨h.created, fun _ => ?_⟩
    have hcount := Multiset.count_le_card ThreadPc.waiting s.port.threads
    have hcreated := h.created
    simp only [List.length_append, List.length_replicate]
    omega
  | @dequeue rest key queue hthreads hqueue =>
    refine h.of_le rfl rfl ?_ ?_
    · rw [hthreads]
      exact Nat.le_of_eq ((Multiset.card_cons _ _).trans (Multiset.card_cons _ _).symm)
    · have hdequeued : (ThreadPc.dequeued key ::ₘ rest).count .waiting = rest.count .waiting :=
        Multiset.count_cons_of_ne (by simp) rest
      rw [hthreads, hqueue, Multiset.count_cons_self, List.length_cons]
      dsimp only
      omega
  | leave hthreads hinactive | exit hthreads hinactive => exact h.endThread hthreads
  | skip hthreads hactive | callReturns hthreads => exact h.moveThread hthreads (by simp)
  | @call rest i hthreads hactive =>
    have hmoved := h.moveThread hthreads (show ThreadPc.calling i ≠ .waiting by simp)
    exact ⟨hmoved.created, hmoved.posted⟩
  | loop hthreads hactive =>
    refine ⟨?_, fun hinactive => absurd (hactive.symm.trans hinactive) (by simp)⟩
    have hcreated := h.created
    rw [hthreads, Multiset.card_cons] at hcreated
    exact (Multiset.card_cons _ _).trans_le hcreated
  | complete hout =>
    refine h.of_le rfl rfl (Nat.le_refl _) (Nat.add_le_add_left ?_ _)
    show s.port.queue.length ≤ (s.port.queue ++ _).length
    rw [List.length_append]
    exact Nat.le_add_right _ _
  | issue | start | stop | stopped | destroy => exact ⟨h.created, h.posted⟩

/-- A thread of a stopped pool that is not in a callback can take a step. -/
theorem Posted.progress (h : s.Posted) (hinactive : s.port.active = false)
    (hpc : pc ∈ s.port.threads) (hcalling : ∀ i, pc ≠ .calling i) : ∃ t, Step s .thread t := by
  obtain ⟨rest, hrest⟩ := Multiset.exists_cons_of_mem hpc
  cases pc with
  | waiting =>
    have hposted := h.posted hinactive
    rw [hrest, Multiset.count_cons_self] at hposted
    cases hqueue : s.port.queue with
    | nil =>
      rw [hqueue] at hposted
      cases hposted
    | cons key queue => exact ⟨_, Step.dequeue hrest hqueue⟩
  | dequeued key => exact ⟨_, Step.leave hrest hinactive⟩
  | calling i => exact absurd rfl (hcalling i)
  | looping => exact ⟨_, Step.exit hrest hinactive⟩

/-- What a step does to the threads of a stopped pool: one of a thread takes it nearer to its end,
and none calls a callback. -/
theorem remaining_step (hinactive : s.port.active = false) (hstep : Step s e t)
    (hnot : NotStarted s e) : t.port.active = false ∧
      (if e.isThread then 1 else 0) + t.remaining ≤ s.remaining ∧
      ∀ i, t.port.threads.count (.calling i) ≤ s.port.threads.count (.calling i) := by
  have hactive {b : Prop} (h : s.port.active = true) : b :=
    absurd (h.symm.trans hinactive) (by simp)
  have hsame {u : Servers} (hu : u.port = s.port) : u.port.active = false ∧
      0 + u.remaining ≤ s.remaining ∧
        ∀ i, u.port.threads.count (.calling i) ≤ s.port.threads.count (.calling i) := by
    rw [remaining, hu, Nat.zero_add]
    exact ⟨hinactive, Nat.le_refl _, fun _ => Nat.le_refl _⟩
  have hcounts {pc pc' : ThreadPc} {rest : Multiset ThreadPc} (hnot : ∀ i, pc' ≠ .calling i)
      (hthreads : s.port.threads = pc ::ₘ rest) (i : Nat) :
      (pc' ::ₘ rest).count (.calling i) ≤ s.port.threads.count (.calling i) := by
    rw [hthreads, Multiset.count_cons_of_ne (hnot i).symm]
    exact Multiset.count_le_count_cons ..
  cases hstep with
  | startThreadPool => exact hnot.elim
  | stopThreadPool h => exact hactive h
  | @dequeue rest key queue hthreads hqueue =>
    refine ⟨hinactive, ?_, hcounts (by simp) hthreads⟩
    rw [remaining, remaining, hthreads, Multiset.map_cons, Multiset.map_cons, Multiset.sum_cons,
      Multiset.sum_cons]
    exact Nat.le_of_eq (Nat.add_assoc 1 1 _).symm
  | leave hthreads | exit hthreads =>
    refine ⟨hinactive, ?_, fun i => ?_⟩
    · rw [remaining, remaining, hthreads, Multiset.map_cons, Multiset.sum_cons]
      exact Nat.le_refl _
    · rw [hthreads]
      exact Multiset.count_le_count_cons ..
  | skip hthreads h | call hthreads h | loop hthreads h => exact hactive h
  | callReturns hthreads =>
    refine ⟨hinactive, ?_, hcounts (by simp) hthreads⟩
    rw [remaining, remaining, hthreads, setThreads, Multiset.map_cons, Multiset.map_cons,
      Multiset.sum_cons, Multiset.sum_cons]
    exact Nat.le_of_eq (Nat.add_assoc 1 1 _).symm
  | complete => exact ⟨hinactive, (Nat.zero_add _).le, fun _ => Nat.le_refl _⟩
  | issue | start | stop | stopped | destroy => exact hsame rfl

theorem Posted.of_reachable (h : system.Reachable s) : s.Posted :=
  h.invariant
    (fun s hs => by
      cases hs
      exact ⟨Nat.le_refl _, fun _ => Nat.le_refl _⟩)
    fun _ _ _ hs hstep => hs.step hstep

theorem remaining_le (s : Servers) : s.remaining ≤ 2 * s.port.threads.card := by
  rw [remaining]
  induction s.port.threads using Multiset.induction_on with
  | empty => exact Nat.zero_le _
  | cons pc threads ih =>
    have hrank : pc.rank ≤ 2 := by cases pc <;> simp [ThreadPc.rank]
    rw [Multiset.map_cons, Multiset.sum_cons, Multiset.card_cons]
    omega

/-- Once the pool was stopped, and until it is started again: the threads that are left when none can
take a step by itself are in callbacks that have not returned, whatever completes or not and
whatever else happens; and together the threads take two steps for each of them at most, the returns
of their callbacks included. So all of them return, and `stop_thread_pool` does, if the callbacks
they are in return. Meanwhile no callback starts. -/
theorem stop_joins (h : system.Reachable s) (hinactive : s.port.active = false)
    {es : List Event} (hrun : (system.restrict NotStarted).Run s es t) :
    ((∀ r, ¬ Step t .thread r) → ∀ pc ∈ t.port.threads, ∃ i, pc = .calling i) ∧
      es.countP Event.isThread + t.remaining ≤ 2 * s.port.threads.card ∧
      ∀ i, t.port.threads.count (.calling i) ≤ s.port.threads.count (.calling i) := by
  have hposted := Posted.of_reachable h
  obtain ⟨⟨ht, hinactive', hcalls⟩, hcount⟩ := hrun.countP_add_le
    (I := fun u => u.Posted ∧ u.port.active = false ∧
      ∀ i, u.port.threads.count (.calling i) ≤ s.port.threads.count (.calling i))
    (p := Event.isThread) (v := remaining)
    (fun u e r hu hstep => by
      obtain ⟨hposted, hinactive, hcalls⟩ := hu
      obtain ⟨hr, hvariant, hless⟩ := remaining_step hinactive hstep.2 hstep.1
      exact ⟨⟨hposted.step hstep.2, hr, fun i => (hless i).trans (hcalls i)⟩, hvariant⟩)
    ⟨hposted, hinactive, fun _ => Nat.le_refl _⟩
  refine ⟨fun hstuck pc hpc => ?_, hcount.trans s.remaining_le, hcalls⟩
  by_contra hcalling
  obtain ⟨r, hr⟩ := ht.progress hinactive' hpc fun i heq => hcalling ⟨i, heq⟩
  exact hstuck r hr

/-- A pool of two threads that is stopped while one of them is in a callback. -/
theorem exists_stopped : ∃ s : Servers, system.Reachable s ∧ s.port.active = false ∧
    s.port.threads = {.calling 0, .waiting} ∧ s.port.queue = [none, none] := by
  have hinit : system.Reachable {} := System.Reachable.init rfl
  have hpool := hinit.snoc (Step.startThreadPool 2 rfl)
  have hstart := hpool.snoc (Step.start (i := 0) rfl)
  have hissue := hstart.snoc (Step.issue (i := 0) (Or.inl rfl))
  have hcomplete := hissue.snoc (Step.complete (i := 0) rfl)
  have hdequeue := hcomplete.snoc (@Step.dequeue _ {.waiting} (some 0) [] rfl rfl)
  have hcall := hdequeue.snoc (@Step.call _ {.waiting} 0 rfl rfl)
  exact ⟨_, hcall.snoc (Step.stopThreadPool rfl), rfl, rfl, rfl⟩

/-- The other thread returns, and the callback's when the callback did, in four steps. -/
theorem stop_joins_calling : ∃ s t,
    (system.restrict NotStarted).Run s [.thread, .thread, .callReturns 0, .thread] t ∧
      s.port.threads.card = 2 ∧ t.port.threads = 0 ∧ 4 + t.remaining ≤ 4 := by
  obtain ⟨s, hreach, hinactive, hthreads, hqueue⟩ := exists_stopped
  have hcard : s.port.threads.card = 2 := by rw [hthreads]; rfl
  have hswap : s.port.threads = .waiting ::ₘ {.calling 0} :=
    hthreads.trans (Multiset.cons_swap _ _ _)
  have hrun : (system.restrict NotStarted).Run s [.thread, .thread, .callReturns 0, .thread] _ :=
    .cons ⟨trivial, .dequeue hswap hqueue⟩
      (.cons ⟨trivial, @Step.leave _ {.calling 0} none rfl hinactive⟩
        (.cons ⟨trivial, @Step.callReturns _ 0 0 rfl⟩
          (.cons ⟨trivial, @Step.exit _ 0 rfl hinactive⟩ (.nil _))))
  have hcount := (stop_joins hreach hinactive hrun).2.1
  rw [hcard] at hcount
  exact ⟨s, _, hrun, hcard, rfl, hcount⟩

end Servers

end CutieProxy
